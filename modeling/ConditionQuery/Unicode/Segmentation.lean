import ConditionQuery.Unicode.Property
import ConditionQuery.Unicode.Script

set_option autoImplicit false

/-! # Text segmentation

The classes of characters between which the Unicode standard finds the boundaries of grapheme
clusters, of words and of sentences. Each class is made by the rule that the standard gives for
it: from categories, properties and scripts, and from characters that are listed by themselves.
-/

namespace ConditionQuery.Unicode.Segmentation

/-! ## What the rules are made of -/

def property (name : String) : CharSet :=
  (Property.named? name).getD []

def script (name : String) : CharSet :=
  (Script.named? name).getD []

def joiner : CharSet :=
  [(0x200D, 0x200D)]

def marks : CharSet :=
  (Property.graphemeExtend ++ Category.members .mc).difference joiner

/-! ## Grapheme clusters -/

namespace Grapheme

def extend : CharSet :=
  (Property.graphemeExtend ++ property "emod").difference joiner

def prepend : CharSet :=
  CharSet.read "600-605 6DD 70F 890-891 8E2 D4E 110BD 110CD 111C2-111C3 113D1 1193F 11941 11A3A
    11A84-11A89 11D46 11F02"

/-- Controls and formats. Code points without a character count if they would be ignorable. -/
def control : CharSet :=
  let ignorable := (property "di").difference Category.assigned
  (ignorable ++ Category.union [.zl, .zp, .cc, .cf]).difference
    ([(0xA, 0xA), (0xD, 0xD), (0x200C, 0x200D)] ++ property "pcm" ++ extend)

/-- Spacing marks that stay with the letter before them. -/
def spacingMark : CharSet :=
  [(0xE33, 0xE33), (0xEB3, 0xEB3)] ++ (Category.members .mc).difference (extend ++ CharSet.read
    "102B-102C 1038 1062-1064 1067-106D 1083 1087-108C 108F 109A-109C 1A61 1A63-1A64 AA7B AA7D
    11720-11721")

/-- The Hangul syllables without a final consonant: every 28th one. -/
def openSyllables : CharSet :=
  (List.range 399).map fun k => (0xAC00 + 28 * k, 0xAC00 + 28 * k)

/-- The classes, each with its names in lower case and without separators. -/
def classes : List (List String × CharSet) :=
  [(["cn", "control"], control),
    (["cr"], [(0xD, 0xD)]),
    (["ex", "extend"], extend),
    (["l"], CharSet.read "1100-115F A960-A97C"),
    (["lf"], [(0xA, 0xA)]),
    (["lv"], openSyllables),
    (["lvt"], CharSet.difference [(0xAC00, 0xD7A3)] openSyllables),
    (["pp", "prepend"], prepend),
    (["ri", "regionalindicator"], property "ri"),
    (["sm", "spacingmark"], spacingMark),
    (["t"], CharSet.read "11A8-11FF D7CB-D7FB"),
    (["v"], CharSet.read "1160-11A7 D7B0-D7C6 16D63 16D67-16D6A"),
    (["zwj"], joiner)]

end Grapheme

/-! ## Words -/

namespace Word

def katakana : CharSet :=
  CharSet.read "3031-3035 309B-309C 30A0 30FC FF70" ++ script "kana"

def hebrewLetter : CharSet :=
  (script "hebr").difference (Category.members .lo).complement

/-- Decimal digits, and the signs that are written with them. -/
def numeric : CharSet :=
  CharSet.read "600-605 66B 6DD 890-891 8E2 19DA 110BD 110CD" ++ Category.members .nd

/-- Letters that are not written in words without spaces between them. -/
def letter : CharSet :=
  let spaceless := ["thai", "laoo", "mymr", "khmr", "tale", "talu", "lana", "tavt", "ahom"]
  CharSet.read "2C2-2C5 2D2-2D7 2DE-2DF 2E5-2EB 2ED 2EF-2FF 55A-55C 55E 58A 5F3 70F A708-A716
    A720-A721 A789-A78A AB5B" ++
  Property.alphabetic.difference (property "ideo" ++ script "hira" ++ katakana ++ hebrewLetter
    ++ spaceless.flatMap script ++ Property.graphemeExtend ++ Category.union [.mc, .nd])

def format : CharSet :=
  (Category.members .cf).difference ([(0x200B, 0x200D)] ++ marks ++ Grapheme.prepend)

def classes : List (List String × CharSet) :=
  [(["cr"], [(0xD, 0xD)]),
    (["dq", "doublequote"], [(0x22, 0x22)]),
    (["ex", "extendnumlet"], (0x202F, 0x202F) :: Category.members .pc),
    (["extend"], (marks ++ property "emod").difference joiner),
    (["fo", "format"], format),
    (["hl", "hebrewletter"], hebrewLetter),
    (["ka", "katakana"], katakana),
    (["le", "aletter"], letter),
    (["lf"], [(0xA, 0xA)]),
    (["mb", "midnumlet"], CharSet.read "2E 2018-2019 2024 FE52 FF07 FF0E"),
    (["ml", "midletter"], CharSet.read "3A B7 387 55F 5F4 2027 FE13 FE55 FF1A"),
    (["mn", "midnum"],
      CharSet.read "2C 3B 37E 589 60C-60D 66C 7F8 2044 FE50 FE54 FF0C FF1B"),
    (["nl", "newline"], CharSet.read "B-C 85 2028-2029"),
    (["nu", "numeric"], numeric),
    (["ri", "regionalindicator"], property "ri"),
    (["sq", "singlequote"], [(0x27, 0x27)]),
    (["wsegspace"], CharSet.read "20 1680 2000-2006 2008-200A 205F 3000"),
    (["zwj"], joiner)]

end Word

/-! ## Sentences -/

namespace Sentence

def extend : CharSet :=
  marks ++ joiner

def fullStop : CharSet :=
  CharSet.read "2E 2024 FE52 FF0E"

/-- Lower-case letters. Those of the Georgian alphabet have no case within a sentence. -/
def lower : CharSet :=
  (property "lower").difference
    ([(0x10D0, 0x10FA), (0x10FD, 0x10FF)] ++ Property.graphemeExtend)

def upper : CharSet :=
  (property "upper" ++ Category.members .lt).difference [(0x1C90, 0x1CBA), (0x1CBD, 0x1CBF)]

def otherLetter : CharSet :=
  (0x5F3, 0x5F3) :: Property.alphabetic.difference (lower ++ upper ++ extend)

def format : CharSet :=
  (Category.members .cf).difference ([(0x200C, 0x200D)] ++ marks ++ Word.numeric)

def close : CharSet :=
  CharSet.read "275B-2760 2E00-2E01 2E06-2E08 2E0B 1F676-1F678" ++
  (Category.union [.ps, .pe, .pi, .pf] ++ property "qmark").difference
    [(0xFF02, 0xFF02), (0xFF07, 0xFF07)]

def classes : List (List String × CharSet) :=
  [(["at", "aterm"], fullStop),
    (["cl", "close"], close),
    (["cr"], [(0xD, 0xD)]),
    (["ex", "extend"], extend),
    (["fo", "format"], format),
    (["le", "oletter"], otherLetter),
    (["lf"], [(0xA, 0xA)]),
    (["lo", "lower"], lower),
    (["nu", "numeric"], (0x66C, 0x66C) :: Word.numeric),
    (["sc", "scontinue"],
      CharSet.read "2C-2D 3A-3B 37E 55D 60C-60D 7F8 1802 1808 2013-2014 3001 FE10-FE11 FE13-FE14
        FE31-FE32 FE50-FE51 FE54-FE55 FE58 FE63 FF0C-FF0D FF1A-FF1B FF64"),
    (["se", "sep"], CharSet.read "85 2028-2029"),
    (["sp"], (property "wspace").difference
      [(0xA, 0xA), (0xD, 0xD), (0x85, 0x85), (0x2028, 0x2029)]),
    (["st", "sterm"], (property "sterm").difference fullStop),
    (["up", "upper"], upper)]

end Sentence

/-- The class of the given name among the classes of one kind of boundary. -/
def named? (classes : List (List String × CharSet)) (name : String) : Option CharSet :=
  (classes.find? fun entry => entry.1.contains name).map Prod.snd

end ConditionQuery.Unicode.Segmentation
