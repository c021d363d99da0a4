import ConditionQuery.CommandLine.Run
import Std.Time.DateTime.Timestamp

set_option autoImplicit false

/-! # The program

The outer layer of the command line: it reads the environment, the clock and files, and
writes what the run says.
-/

namespace ConditionQuery.CommandLine

def readContent (path : String) : IO FileContent :=
  try
    return .ok (← IO.FS.readBinFile path).toList
  catch
    | .noFileOrDirectory .. => return .error .notFound
    | .permissionDenied .. => return .error .denied
    | .inappropriateType _ code _ =>
      return .error (if code = 21 then .isDirectory else .notDirectory)
    | _ => return .error .notFound

/-- The variable in a text of the form `name=value`. -/
def variableOf? (bytes : List UInt8) : Option (String × List UInt8) :=
  (Text.Utf8.read? (bytes.takeWhile (· ≠ 61))).map fun name =>
    (name, (bytes.dropWhile (· ≠ 61)).drop 1)

def readEnvironment : IO Environment := do
  match ← readContent "/proc/self/environ" with
  | .ok bytes => return ⟨(bytes.splitOn 0).filterMap variableOf?⟩
  | .error _ => return .empty

/-- The file with defaults for the environment, in the directory of the program or the nearest
one above it. -/
def readDefaults : IO (Option (List UInt8)) := do
  let mut directory := some (← IO.currentDir)
  for _ in [0:256] do
    if let some d := directory then
      if let .ok bytes ← readContent (d / ".env").toString then
        return some bytes
      directory := d.parent
  return none

def readClock : IO Instant := do
  let t ← Std.Time.Timestamp.now
  let d := t.toDurationSinceUnixEpoch
  return ⟨d.second.val, d.nano.val.toNat⟩

end ConditionQuery.CommandLine

open ConditionQuery CommandLine in
def main (words : List String) : IO UInt32 := do
  let outcome ← run readContent (← readEnvironment) (← readDefaults) (← readClock) words
  IO.print outcome.output
  IO.eprint outcome.complaint
  return outcome.code.toUInt32
