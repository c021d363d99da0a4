import ConditionQuery.Proofs.Text.Symbol
import ConditionQuery.Text.Utf8

set_option autoImplicit false

/-! # Reading the bytes of a text

The encoding of a character has one to four bytes. Its first byte tells how many there are, and the
other ones carry six bits each, so the character is read where it stands, whatever follows
(`exists_first?_utf8EncodeChar`). Hence the bytes of a text are read as this text, and no byte of
them is stray (`read?_toUTF8`).

A longer encoding than necessary is none. So an ASCII character of a text comes from the byte with
its value (`mem_of_mem_read?`).
-/

namespace ConditionQuery.Text.Utf8

variable {a b c d : UInt8} {k l m n : Nat} {x : Char}

/-! ## Ranges of bytes -/

/-- A byte lies in a range if it is the lower end and a part of what is between the ends. -/
theorem between_of {low high : UInt8} (ha : a.toNat = n + low.toNat)
    (hn : n + low.toNat < high.toNat) : (low ≤ a && a < high) = true := by
  rw [Bool.and_eq_true, decide_eq_true_iff, decide_eq_true_iff, UInt8.le_iff_toNat_le,
    UInt8.lt_iff_toNat_lt, ha]
  exact ⟨Nat.le_add_left _ n, hn⟩

theorem not_between_of (low high : UInt8) (ha : high.toNat ≤ a.toNat) :
    ¬ (low ≤ a && a < high) = true := by
  rw [Bool.and_eq_true, decide_eq_true_iff, decide_eq_true_iff, UInt8.lt_iff_toNat_lt]
  exact fun h => absurd h.2 (Nat.not_lt.mpr ha)

theorem toNat_ofNat_add {offset : Nat} (h : n + offset < 256) :
    (UInt8.ofNat (n + offset)).toNat = n + offset :=
  UInt8.toNat_ofNat_of_lt' h

/-- A continuation byte carries six bits. -/
theorem continuation?_ofNat (hn : n < 64) : continuation? (UInt8.ofNat (n + 128)) = some n := by
  have hb : (UInt8.ofNat (n + 128)).toNat = n + 128 := toNat_ofNat_add (by omega)
  have hrange : (0x80 ≤ UInt8.ofNat (n + 128) && UInt8.ofNat (n + 128) < 0xC0) = true :=
    between_of hb (Nat.add_lt_add_right hn 128)
  rw [continuation?, if_pos hrange, hb, Nat.add_sub_cancel]

/-! ## Characters by the number of their bytes -/

/-- The code point of a character is read as the character, if the character needs as many bytes as
there are. -/
theorem shortest?_toNat {least : Nat} (h : least ≤ x.toNat) : shortest? least x.toNat = some x := by
  rw [shortest?, if_pos h, Hexadecimal.character?_toNat]

theorem two?_ofNat (hm : m < 32) (hn : n < 64) :
    two? (UInt8.ofNat (m + 192)) (UInt8.ofNat (n + 128)) = shortest? 0x80 (m * 64 + n) := by
  have ha : (UInt8.ofNat (m + 192)).toNat = m + 192 := toNat_ofNat_add (by omega)
  have hrange : (0xC0 ≤ UInt8.ofNat (m + 192) && UInt8.ofNat (m + 192) < 0xE0) = true :=
    between_of ha (Nat.add_lt_add_right hm 192)
  rw [two?, if_pos hrange, continuation?_ofNat hn, Option.bind_some, ha, Nat.add_sub_cancel]

theorem two?_toNat (hlow : 0x80 ≤ x.toNat) (hhigh : x.toNat < 0x800) :
    two? (UInt8.ofNat (x.toNat / 64 % 32 + 192)) (UInt8.ofNat (x.toNat % 64 + 128)) = some x := by
  have hx : x.toNat / 64 % 32 * 64 + x.toNat % 64 = x.toNat := by omega
  rw [two?_ofNat (by omega) (by omega), hx, shortest?_toNat hlow]

theorem three?_ofNat (hl : l < 16) (hm : m < 64) (hn : n < 64) :
    three? (UInt8.ofNat (l + 224)) (UInt8.ofNat (m + 128)) (UInt8.ofNat (n + 128))
      = shortest? 0x800 (l * 4096 + m * 64 + n) := by
  have ha : (UInt8.ofNat (l + 224)).toNat = l + 224 := toNat_ofNat_add (by omega)
  have hrange : (0xE0 ≤ UInt8.ofNat (l + 224) && UInt8.ofNat (l + 224) < 0xF0) = true :=
    between_of ha (Nat.add_lt_add_right hl 224)
  rw [three?, if_pos hrange, continuation?_ofNat hm, Option.bind_some, continuation?_ofNat hn,
    Option.bind_some, ha, Nat.add_sub_cancel]

theorem three?_toNat (hlow : 0x800 ≤ x.toNat) (hhigh : x.toNat < 0x10000) :
    three? (UInt8.ofNat (x.toNat / 4096 % 16 + 224)) (UInt8.ofNat (x.toNat / 64 % 64 + 128))
      (UInt8.ofNat (x.toNat % 64 + 128)) = some x := by
  have hx : x.toNat / 4096 % 16 * 4096 + x.toNat / 64 % 64 * 64 + x.toNat % 64 = x.toNat := by
    omega
  rw [three?_ofNat (by omega) (by omega) (by omega), hx, shortest?_toNat hlow]

theorem four?_ofNat (hk : k < 8) (hl : l < 64) (hm : m < 64) (hn : n < 64) :
    four? (UInt8.ofNat (k + 240)) (UInt8.ofNat (l + 128)) (UInt8.ofNat (m + 128))
        (UInt8.ofNat (n + 128))
      = shortest? 0x10000 (k * 262144 + l * 4096 + m * 64 + n) := by
  have ha : (UInt8.ofNat (k + 240)).toNat = k + 240 := toNat_ofNat_add (by omega)
  have hrange : (0xF0 ≤ UInt8.ofNat (k + 240) && UInt8.ofNat (k + 240) < 0xF8) = true :=
    between_of ha (Nat.add_lt_add_right hk 240)
  rw [four?, if_pos hrange, continuation?_ofNat hl, Option.bind_some, continuation?_ofNat hm,
    Option.bind_some, continuation?_ofNat hn, Option.bind_some, ha, Nat.add_sub_cancel]

theorem four?_toNat (hlow : 0x10000 ≤ x.toNat) :
    four? (UInt8.ofNat (x.toNat / 262144 % 8 + 240)) (UInt8.ofNat (x.toNat / 4096 % 64 + 128))
      (UInt8.ofNat (x.toNat / 64 % 64 + 128)) (UInt8.ofNat (x.toNat % 64 + 128)) = some x := by
  have hhigh : x.toNat < 0x110000 := by
    have hvalid : x.toNat.isValidChar := x.valid
    rcases hvalid with h | h <;> omega
  have hx : x.toNat / 262144 % 8 * 262144 + x.toNat / 4096 % 64 * 4096
      + x.toNat / 64 % 64 * 64 + x.toNat % 64 = x.toNat := by
    omega
  rw [four?_ofNat (by omega) (by omega) (by omega) (by omega), hx, shortest?_toNat hlow]

/-- A first byte of three or more is no first byte of two. -/
theorem two?_eq_none (ha : 224 ≤ a.toNat) : two? a b = none :=
  if_neg (not_between_of 0xC0 0xE0 ha)

/-- A first byte of four is no first byte of three. -/
theorem three?_eq_none (ha : 240 ≤ a.toNat) : three? a b c = none :=
  if_neg (not_between_of 0xE0 0xF0 ha)

/-! ## Characters before other bytes -/

theorem not_lt_of (ha : 128 ≤ a.toNat) : ¬ a < 0x80 :=
  fun h => absurd (UInt8.lt_iff_toNat_lt.mp h) (Nat.not_lt.mpr ha)

theorem first?_one (ha : a.toNat = x.toNat) (hx : x.toNat < 128) (rest : List UInt8) :
    first? a rest = some (x, 0) := by
  have hsmall : a < 0x80 := by
    rw [UInt8.lt_iff_toNat_lt, ha]
    exact hx
  unfold first?
  rw [if_pos hsmall, ha, Char.ofNat_toNat]

theorem first?_two (ha : 128 ≤ a.toNat) (h : two? a b = some x) (rest : List UInt8) :
    first? a (b :: rest) = some (x, 1) := by
  -- how many more bytes there are decides on the readings that are tried after this one
  match rest with
  | [] => rw [first?, if_neg (not_lt_of ha), h, Option.map_some]
  | [_] => rw [first?, if_neg (not_lt_of ha), h, Option.map_some, Option.some_or]
  | _ :: _ :: _ => rw [first?, if_neg (not_lt_of ha), h, Option.map_some, Option.some_or]

-- The longer encodings are tried after the shorter ones, which must not take their first bytes.

theorem first?_three (ha : 224 ≤ a.toNat) (h : three? a b c = some x) (rest : List UInt8) :
    first? a (b :: c :: rest) = some (x, 2) := by
  have hlarge : ¬ a < 0x80 := not_lt_of (Nat.le_trans (by decide) ha)
  match rest with
  | [] => rw [first?, if_neg hlarge, two?_eq_none ha, h, Option.map_none, Option.none_or,
      Option.map_some]
  | _ :: _ => rw [first?, if_neg hlarge, two?_eq_none ha, h, Option.map_none, Option.none_or,
      Option.map_some, Option.some_or]

theorem first?_four (ha : 240 ≤ a.toNat) (h : four? a b c d = some x) (rest : List UInt8) :
    first? a (b :: c :: d :: rest) = some (x, 3) := by
  have hlarge : ¬ a < 0x80 := not_lt_of (Nat.le_trans (by decide) ha)
  have htwo : two? a b = none := two?_eq_none (Nat.le_trans (by decide) ha)
  rw [first?, if_neg hlarge, htwo, three?_eq_none ha, h, Option.map_none, Option.map_none,
    Option.none_or, Option.none_or, Option.map_some]

/-- A first byte that is computed from at least `offset` is at least so large. -/
theorem le_toNat_ofNat (offset : Nat) (h : n + offset < 256) :
    offset ≤ (UInt8.ofNat (n + offset)).toNat := by
  rw [toNat_ofNat_add h]
  exact Nat.le_add_left offset n

/-- A character is read at the start of its encoding, whatever comes after it. -/
theorem exists_first?_utf8EncodeChar (x : Char) :
    ∃ a after, String.utf8EncodeChar x = a :: after ∧
      ∀ rest, first? a (after ++ rest) = some (x, after.length) := by
  have hcode : x.val.toNat = x.toNat := rfl
  rw [String.utf8EncodeChar, hcode]
  split
  · next hone =>
    have ha : (UInt8.ofNat x.toNat).toNat = x.toNat :=
      UInt8.toNat_ofNat_of_lt' (Nat.lt_of_le_of_lt hone (by decide))
    exact ⟨_, [], rfl, first?_one ha (Nat.lt_succ_of_le hone)⟩
  · next hone =>
    split
    · next htwo =>
      have ha := le_toNat_ofNat (n := x.toNat / 64 % 32) 192 (by omega)
      exact ⟨_, _, rfl, first?_two (by omega) (two?_toNat (by omega) (by omega))⟩
    · next htwo =>
      split
      · next hthree =>
        exact ⟨_, _, rfl, first?_three (le_toNat_ofNat 224 (by omega))
          (three?_toNat (by omega) (by omega))⟩
      · next hthree =>
        exact ⟨_, _, rfl, first?_four (le_toNat_ofNat 240 (by omega)) (four?_toNat (by omega))⟩

/-! ## Texts -/

theorem toList_loop (bytes : ByteArray) (i : Nat) (before : List UInt8) :
    ByteArray.toList.loop bytes i before = before.reverse ++ bytes.data.toList.drop i := by
  fun_induction ByteArray.toList.loop bytes i before with
  | case1 i before hlt ih =>
      have hlength : i < bytes.data.toList.length := by simpa using hlt
      have hget : bytes.get! i = bytes.data.toList[i] := getElem!_pos bytes.data i hlt
      rw [ih, List.drop_eq_getElem_cons hlength, hget, List.reverse_cons, List.append_assoc,
        List.singleton_append]
  | case2 i before hge =>
      have hlength : bytes.data.toList.length ≤ i := by simpa using hge
      rw [List.drop_eq_nil_of_le hlength, List.append_nil]

/-- The bytes of a text are those of its characters. -/
theorem toList_toUTF8 (s : String) :
    s.toUTF8.toList = s.toList.flatMap String.utf8EncodeChar := by
  have hbytes : s.toUTF8 = (s.toList.flatMap String.utf8EncodeChar).toByteArray :=
    String.utf8Encode_toList.symm
  rw [hbytes, ByteArray.toList, toList_loop, List.reverse_nil, List.nil_append, List.drop_zero,
    List.toList_data_toByteArray]

theorem piecesAfter_append (skipped rest : List UInt8) :
    piecesAfter skipped.length (skipped ++ rest) = pieces rest := by
  induction skipped with
  | nil => rfl
  | cons a skipped ih => exact ih

theorem pieces_utf8EncodeChar_append (x : Char) (rest : List UInt8) :
    pieces (String.utf8EncodeChar x ++ rest) = .char x :: pieces rest := by
  obtain ⟨a, after, hencode, hfirst⟩ := exists_first?_utf8EncodeChar x
  rw [hencode, List.cons_append, pieces, piecesAfter, hfirst]
  show Piece.char x :: piecesAfter after.length (after ++ rest) = _
  rw [piecesAfter_append]

theorem pieces_flatMap (s : List Char) :
    pieces (s.flatMap String.utf8EncodeChar) = s.map .char := by
  induction s with
  | nil => rfl
  | cons x s ih => rw [List.flatMap_cons, pieces_utf8EncodeChar_append, ih, List.map_cons]

theorem mapM_char?_map (s : List Char) : (s.map Piece.char).mapM Piece.char? = some s := by
  induction s with
  | nil => rfl
  | cons x s ih =>
      rw [List.map_cons, List.mapM_cons, ih]
      rfl

/-- The bytes of a text are read as the text. -/
theorem read?_toUTF8 (s : String) : read? s.toUTF8.toList = some s := by
  rw [toList_toUTF8, read?, pieces_flatMap, mapM_char?_map, Option.map_some, String.ofList_toList]

/-! ## ASCII characters -/

section Ascii

variable {least : Nat} {bytes rest : List UInt8} {s : String}

theorem le_of_shortest? (h : shortest? least n = some x) : least ≤ x.toNat := by
  unfold shortest? Hexadecimal.character? at h
  split at h
  · next hle =>
    split at h
    · next hvalid =>
      cases h
      rwa [Hexadecimal.toNat_ofNat hvalid]
    · cases h
  · cases h

theorem two?_bound (h : two? a b = some x) : 0x80 ≤ x.toNat := by
  unfold two? at h
  split at h
  · obtain ⟨y, -, h⟩ := Option.bind_eq_some_iff.mp h
    exact le_of_shortest? h
  · cases h

theorem three?_bound (h : three? a b c = some x) : 0x800 ≤ x.toNat := by
  unfold three? at h
  split at h
  · obtain ⟨y, -, h⟩ := Option.bind_eq_some_iff.mp h
    obtain ⟨z, -, h⟩ := Option.bind_eq_some_iff.mp h
    exact le_of_shortest? h
  · cases h

theorem four?_bound (h : four? a b c d = some x) : 0x10000 ≤ x.toNat := by
  unfold four? at h
  split at h
  · obtain ⟨w, -, h⟩ := Option.bind_eq_some_iff.mp h
    obtain ⟨y, -, h⟩ := Option.bind_eq_some_iff.mp h
    obtain ⟨z, -, h⟩ := Option.bind_eq_some_iff.mp h
    exact le_of_shortest? h
  · cases h

/-- Only a byte below 128 encodes an ASCII character, and it has the same value. -/
theorem toNat_eq_of_first? (h : first? a rest = some (x, n)) (hx : x.toNat < 0x80) :
    a.toNat = x.toNat := by
  unfold first? at h
  split at h
  · next hlt =>
    cases h
    have hsmall : a.toNat < 0x80 := UInt8.lt_iff_toNat_lt.mp hlt
    have hvalid : a.toNat.isValidChar := .inl (by omega)
    rw [Hexadecimal.toNat_ofNat hvalid]
  · exfalso
    have habove : ∀ {o : Option Char} {k : Nat}, (∀ y, o = some y → 0x80 ≤ y.toNat) →
        o.map (fun x => (x, k)) ≠ some (x, n) := by
      intro o k hbound h
      obtain ⟨y, hy, heq⟩ := Option.map_eq_some_iff.mp h
      cases heq
      exact absurd (hbound x hy) (Nat.not_le_of_lt hx)
    have htwo : ∀ {b k}, (two? a b).map (fun x => (x, k)) ≠ some (x, n) :=
      habove fun _ => two?_bound
    have hthree : ∀ {b c k}, (three? a b c).map (fun x => (x, k)) ≠ some (x, n) :=
      habove fun _ h => Nat.le_trans (by decide) (three?_bound h)
    have hfour : ∀ {b c d k}, (four? a b c d).map (fun x => (x, k)) ≠ some (x, n) :=
      habove fun _ h => Nat.le_trans (by decide) (four?_bound h)
    split at h
    · rw [Option.or_eq_some_iff, Option.or_eq_some_iff] at h
      obtain h | ⟨-, h | ⟨-, h⟩⟩ := h
      · exact htwo h
      · exact hthree h
      · exact hfour h
    · rw [Option.or_eq_some_iff] at h
      obtain h | ⟨-, h⟩ := h
      · exact htwo h
      · exact hthree h
    · exact htwo h
    · cases h

theorem mem_of_char_mem_piecesAfter (hx : x.toNat < 0x80) {skip : Nat}
    (h : .char x ∈ piecesAfter skip bytes) : UInt8.ofNat x.toNat ∈ bytes := by
  fun_induction piecesAfter skip bytes with
  | case1 => simp at h
  | case2 skip b rest ih => exact List.mem_cons_of_mem _ (ih h)
  | case3 b rest c n hfirst ih =>
      obtain heq | h := List.mem_cons.mp h
      · cases heq
        rw [← toNat_eq_of_first? hfirst hx, UInt8.ofNat_toNat]
        exact List.mem_cons_self
      · exact List.mem_cons_of_mem _ (ih h)
  | case4 b rest hfirst ih =>
      obtain heq | h := List.mem_cons.mp h
      · cases heq
      · exact List.mem_cons_of_mem _ (ih h)

theorem char_mem_of_mapM_char? {ps : List Piece} {cs : List Char}
    (h : ps.mapM Piece.char? = some cs) (hx : x ∈ cs) : .char x ∈ ps := by
  induction ps generalizing cs with
  | nil =>
      cases h
      cases hx
  | cons q ps ih =>
      rw [List.mapM_cons] at h
      obtain ⟨y, hq, hps⟩ := Option.bind_eq_some_iff.mp h
      obtain ⟨ys, hys, heq⟩ := Option.bind_eq_some_iff.mp hps
      cases heq
      obtain rfl | hx := List.mem_cons.mp hx
      · cases q with
        | char z =>
            cases hq
            exact List.mem_cons_self
        | stray b => cases hq
      · exact List.mem_cons_of_mem _ (ih hys hx)

/-- An ASCII character of a text is one of the bytes that the text is read from. -/
theorem mem_of_mem_read? (h : read? bytes = some s) (hmem : x ∈ s.toList) (hx : x.toNat < 0x80) :
    UInt8.ofNat x.toNat ∈ bytes := by
  obtain ⟨cs, hcs, rfl⟩ := Option.map_eq_some_iff.mp h
  rw [String.toList_ofList] at hmem
  exact mem_of_char_mem_piecesAfter hx (char_mem_of_mapM_char? hcs hmem)

end Ascii

end ConditionQuery.Text.Utf8
