import Steward.Text.Utf8
/-!
# Reading encoded texts

The octets of a text split into its characters again, one piece for each, so that a strict reading
of an encoded text gives the text.  Every piece that is a character has the octets of the character,
so that a strict reading gives a text for no other octets.
-/

set_option autoImplicit false

namespace Steward.Utf8

theorem isContinuation_of_range {octet : UInt8} (low : 0x80 ≤ octet.toNat)
    (high : octet.toNat ≤ 0xBF) : isContinuation octet = true := by
  simp only [isContinuation, Bool.and_eq_true, decide_eq_true_iff, UInt8.le_iff_toNat_le]
  exact ⟨low, high⟩

/-- The narrower ranges after the first octets that need them. -/
theorem isSecondOfThree_of_range {first second : UInt8} (low : 0x80 ≤ second.toNat)
    (high : second.toNat ≤ 0xBF) (long : first.toNat = 0xE0 → 0xA0 ≤ second.toNat)
    (apart : first.toNat = 0xED → second.toNat ≤ 0x9F) : isSecondOfThree first second = true := by
  rw [isSecondOfThree]
  split
  · next same =>
      have least := long (congrArg UInt8.toNat (eq_of_beq same))
      simp [UInt8.le_iff_toNat_le, least, high]
  · split
    · next same =>
        have most := apart (congrArg UInt8.toNat (eq_of_beq same))
        simp [UInt8.le_iff_toNat_le, low, most]
    · exact isContinuation_of_range low high

theorem isSecondOfFour_of_range {first second : UInt8} (low : 0x80 ≤ second.toNat)
    (high : second.toNat ≤ 0xBF) (long : first.toNat = 0xF0 → 0x90 ≤ second.toNat)
    (below : first.toNat = 0xF4 → second.toNat ≤ 0x8F) : isSecondOfFour first second = true := by
  rw [isSecondOfFour]
  split
  · next same =>
      have least := long (congrArg UInt8.toNat (eq_of_beq same))
      simp [UInt8.le_iff_toNat_le, least, high]
  · split
    · next same =>
        have most := below (congrArg UInt8.toNat (eq_of_beq same))
        simp [UInt8.le_iff_toNat_le, low, most]
    · exact isContinuation_of_range low high

/-! ## Pieces of one, two, three and four octets -/

section Pieces

variable {a b c d : UInt8} (rest : Octets)

theorem pieces_single (small : a.toNat < 0x80) :
    pieces (a :: rest) = some (character a 0 []) :: pieces rest := by
  rw [pieces.eq_def]
  simp [UInt8.lt_iff_toNat_lt, small]

theorem pieces_pair (low : 0xC2 ≤ a.toNat) (high : a.toNat ≤ 0xDF)
    (second : isContinuation b = true) :
    pieces (a :: b :: rest) = some (character a 0xC0 [b]) :: pieces rest := by
  have large : ¬ a.toNat < 0x80 := by omega
  rw [pieces.eq_def]
  simp [UInt8.lt_iff_toNat_lt, UInt8.le_iff_toNat_le, large, low, high, second]

theorem pieces_triple (low : 0xE0 ≤ a.toNat) (high : a.toNat ≤ 0xEF)
    (second : isSecondOfThree a b = true) (third : isContinuation c = true) :
    pieces (a :: b :: c :: rest) = some (character a 0xE0 [b, c]) :: pieces rest := by
  have large : ¬ a.toNat < 0x80 := by omega
  have above : ¬ a.toNat ≤ 0xDF := by omega
  rw [pieces.eq_def]
  simp [UInt8.lt_iff_toNat_lt, UInt8.le_iff_toNat_le, large, low, high, above, second, third]

theorem pieces_quadruple (low : 0xF0 ≤ a.toNat) (high : a.toNat ≤ 0xF4)
    (second : isSecondOfFour a b = true) (third : isContinuation c = true)
    (fourth : isContinuation d = true) :
    pieces (a :: b :: c :: d :: rest) = some (character a 0xF0 [b, c, d]) :: pieces rest := by
  have large : ¬ a.toNat < 0x80 := by omega
  have above : ¬ a.toNat ≤ 0xDF := by omega
  have beyond : ¬ a.toNat ≤ 0xEF := by omega
  rw [pieces.eq_def]
  simp [UInt8.lt_iff_toNat_lt, UInt8.le_iff_toNat_le, large, low, high, above, beyond, second,
    third, fourth]

end Pieces

/-! ## Characters -/

section Characters

variable {c : Char} (rest : Octets)

theorem character_eq {leading : UInt8} {base : Nat} {following : List UInt8}
    (number : following.foldl (fun number octet => number * 64 + (octet.toNat - 0x80))
      (leading.toNat - base) = c.toNat) : character leading base following = c := by
  rw [character, number]
  exact Char.ofNat_toNat c

theorem pieces_encode_single (small : c.toNat ≤ 0x7F) :
    pieces (String.utf8EncodeChar c ++ rest) = some c :: pieces rest := by
  simp only [String.utf8EncodeChar, Char.toNat_val, if_pos small]
  rw [List.singleton_append, pieces_single, character_eq]
  · simp only [List.foldl_nil, UInt8.toNat_ofNat']
    omega
  · simp only [UInt8.toNat_ofNat']
    omega

theorem pieces_encode_pair (low : 0x7F < c.toNat) (high : c.toNat ≤ 0x7FF) :
    pieces (String.utf8EncodeChar c ++ rest) = some c :: pieces rest := by
  simp only [String.utf8EncodeChar, Char.toNat_val, if_neg (Nat.not_le_of_lt low), if_pos high]
  rw [List.cons_append, List.singleton_append, pieces_pair, character_eq]
  · simp only [List.foldl_cons, List.foldl_nil, UInt8.toNat_ofNat']
    omega
  · simp only [UInt8.toNat_ofNat']
    omega
  · simp only [UInt8.toNat_ofNat']
    omega
  · apply isContinuation_of_range <;> simp only [UInt8.toNat_ofNat'] <;> omega

/-- The numbers between 0xD7FF and 0xE000 are no characters. -/
theorem pieces_encode_triple (low : 0x7FF < c.toNat) (high : c.toNat ≤ 0xFFFF) :
    pieces (String.utf8EncodeChar c ++ rest) = some c :: pieces rest := by
  have above : ¬ c.toNat ≤ 0x7F := by omega
  have range : c.toNat < 0xD800 ∨ 0xDFFF < c.toNat ∧ c.toNat < 0x110000 := c.valid
  simp only [String.utf8EncodeChar, Char.toNat_val, if_neg above,
    if_neg (Nat.not_le_of_lt low), if_pos high]
  rw [List.cons_append, List.cons_append, List.singleton_append, pieces_triple, character_eq]
  · simp only [List.foldl_cons, List.foldl_nil, UInt8.toNat_ofNat']
    omega
  · simp only [UInt8.toNat_ofNat']
    omega
  · simp only [UInt8.toNat_ofNat']
    omega
  · apply isSecondOfThree_of_range <;> simp only [UInt8.toNat_ofNat'] <;> omega
  · apply isContinuation_of_range <;> simp only [UInt8.toNat_ofNat'] <;> omega

theorem pieces_encode_quadruple (low : 0xFFFF < c.toNat) :
    pieces (String.utf8EncodeChar c ++ rest) = some c :: pieces rest := by
  have above : ¬ c.toNat ≤ 0x7F := by omega
  have beyond : ¬ c.toNat ≤ 0x7FF := by omega
  have range : c.toNat < 0xD800 ∨ 0xDFFF < c.toNat ∧ c.toNat < 0x110000 := c.valid
  simp only [String.utf8EncodeChar, Char.toNat_val, if_neg above, if_neg beyond,
    if_neg (Nat.not_le_of_lt low)]
  rw [List.cons_append, List.cons_append, List.cons_append, List.singleton_append,
    pieces_quadruple, character_eq]
  · simp only [List.foldl_cons, List.foldl_nil, UInt8.toNat_ofNat']
    omega
  · simp only [UInt8.toNat_ofNat']
    omega
  · simp only [UInt8.toNat_ofNat']
    omega
  · apply isSecondOfFour_of_range <;> simp only [UInt8.toNat_ofNat'] <;> omega
  · apply isContinuation_of_range <;> simp only [UInt8.toNat_ofNat'] <;> omega
  · apply isContinuation_of_range <;> simp only [UInt8.toNat_ofNat'] <;> omega

theorem pieces_encodeCharacter (c : Char) :
    pieces (String.utf8EncodeChar c ++ rest) = some c :: pieces rest := by
  by_cases one : c.toNat ≤ 0x7F
  · exact pieces_encode_single rest one
  by_cases two : c.toNat ≤ 0x7FF
  · exact pieces_encode_pair rest (Nat.lt_of_not_le one) two
  by_cases three : c.toNat ≤ 0xFFFF
  · exact pieces_encode_triple rest (Nat.lt_of_not_le two) three
  · exact pieces_encode_quadruple rest (Nat.lt_of_not_le three)

end Characters

section Octets

variable {a b c d : UInt8}

theorem range_of_isContinuation {octet : UInt8} (follows : isContinuation octet = true) :
    0x80 ≤ octet.toNat ∧ octet.toNat ≤ 0xBF := by
  simpa [isContinuation, UInt8.le_iff_toNat_le] using follows

theorem range_of_isSecondOfThree (follows : isSecondOfThree a b = true) :
    0x80 ≤ b.toNat ∧ b.toNat ≤ 0xBF ∧ (a.toNat = 0xE0 → 0xA0 ≤ b.toNat) ∧
      (a.toNat = 0xED → b.toNat ≤ 0x9F) := by
  simp only [isSecondOfThree, beq_iff_eq, ← UInt8.toNat_inj, UInt8.reduceToNat] at follows
  split at follows
  · simp only [Bool.and_eq_true, decide_eq_true_eq, UInt8.le_iff_toNat_le,
      UInt8.reduceToNat] at follows
    omega
  · split at follows
    · simp only [Bool.and_eq_true, decide_eq_true_eq, UInt8.le_iff_toNat_le,
        UInt8.reduceToNat] at follows
      omega
    · have range := range_of_isContinuation follows
      omega

theorem range_of_isSecondOfFour (follows : isSecondOfFour a b = true) :
    0x80 ≤ b.toNat ∧ b.toNat ≤ 0xBF ∧ (a.toNat = 0xF0 → 0x90 ≤ b.toNat) ∧
      (a.toNat = 0xF4 → b.toNat ≤ 0x8F) := by
  simp only [isSecondOfFour, beq_iff_eq, ← UInt8.toNat_inj, UInt8.reduceToNat] at follows
  split at follows
  · simp only [Bool.and_eq_true, decide_eq_true_eq, UInt8.le_iff_toNat_le,
      UInt8.reduceToNat] at follows
    omega
  · split at follows
    · simp only [Bool.and_eq_true, decide_eq_true_eq, UInt8.le_iff_toNat_le,
        UInt8.reduceToNat] at follows
      omega
    · have range := range_of_isContinuation follows
      omega

theorem toNat_character {leading : UInt8} {base : Nat} {following : List UInt8} {n : Nat}
    (number : following.foldl (fun number octet => number * 64 + (octet.toNat - 0x80))
      (leading.toNat - base) = n) (valid : n < 0xD800 ∨ 0xDFFF < n ∧ n < 0x110000) :
    (character leading base following).toNat = n := by
  rw [character, number, Char.ofNat, dif_pos valid]
  rfl

theorem encode_character_single (small : a < 0x80) :
    String.utf8EncodeChar (character a 0 []) = [a] := by
  have below : a.toNat < 0x80 := by simpa [UInt8.lt_iff_toNat_lt] using small
  have number : (character a 0 []).toNat = a.toNat := toNat_character rfl (by omega)
  simp only [String.utf8EncodeChar, Char.toNat_val, number]
  rw [if_pos (by omega), UInt8.ofNat_toNat]

theorem encode_character_pair (leads : 0xC2 ≤ a.toNat ∧ a.toNat ≤ 0xDF)
    (second : isContinuation b = true) :
    String.utf8EncodeChar (character a 0xC0 [b]) = [a, b] := by
  have range := range_of_isContinuation second
  have number : (character a 0xC0 [b]).toNat = (a.toNat - 0xC0) * 64 + (b.toNat - 0x80) :=
    toNat_character rfl (by omega)
  simp only [String.utf8EncodeChar, Char.toNat_val, number]
  rw [if_neg (by omega), if_pos (by omega)]
  simp only [List.cons.injEq, ← UInt8.toNat_inj, UInt8.toNat_ofNat', and_true]
  omega

theorem encode_character_triple (leads : 0xE0 ≤ a.toNat ∧ a.toNat ≤ 0xEF)
    (second : isSecondOfThree a b = true) (third : isContinuation c = true) :
    String.utf8EncodeChar (character a 0xE0 [b, c]) = [a, b, c] := by
  have range := range_of_isSecondOfThree second
  have rangeToo := range_of_isContinuation third
  have number : (character a 0xE0 [b, c]).toNat =
      ((a.toNat - 0xE0) * 64 + (b.toNat - 0x80)) * 64 + (c.toNat - 0x80) :=
    toNat_character rfl (by omega)
  simp only [String.utf8EncodeChar, Char.toNat_val, number]
  rw [if_neg (by omega), if_neg (by omega), if_pos (by omega)]
  simp only [List.cons.injEq, ← UInt8.toNat_inj, UInt8.toNat_ofNat', and_true]
  omega

theorem encode_character_quadruple (leads : 0xF0 ≤ a.toNat ∧ a.toNat ≤ 0xF4)
    (second : isSecondOfFour a b = true) (third : isContinuation c = true)
    (fourth : isContinuation d = true) :
    String.utf8EncodeChar (character a 0xF0 [b, c, d]) = [a, b, c, d] := by
  have range := range_of_isSecondOfFour second
  have rangeToo := range_of_isContinuation third
  have rangeLast := range_of_isContinuation fourth
  have number : (character a 0xF0 [b, c, d]).toNat =
      (((a.toNat - 0xF0) * 64 + (b.toNat - 0x80)) * 64 + (c.toNat - 0x80)) * 64
        + (d.toNat - 0x80) :=
    toNat_character rfl (by omega)
  simp only [String.utf8EncodeChar, Char.toNat_val, number]
  rw [if_neg (by omega), if_neg (by omega), if_neg (by omega)]
  simp only [List.cons.injEq, ← UInt8.toNat_inj, UInt8.toNat_ofNat', and_true]
  omega

end Octets

theorem toList_loop (array : ByteArray) (next : Nat) (taken : Octets) :
    ByteArray.toList.loop array next taken = taken.reverse ++ array.data.toList.drop next := by
  fun_induction ByteArray.toList.loop array next taken with
  | case1 next taken inside ih =>
      have there : next < array.data.toList.length := by simpa using inside
      rw [ih, List.drop_eq_getElem_cons there]
      simp [ByteArray.get!, inside]
  | case2 next taken outside =>
      rw [List.drop_eq_nil_of_le (by simpa using Nat.le_of_not_lt outside), List.append_nil]

theorem encode_eq_flatMap (text : String) :
    encode text = text.toList.flatMap String.utf8EncodeChar := by
  rw [encode, String.toUTF8_eq_toByteArray, ByteArray.toList, toList_loop, List.reverse_nil,
    List.nil_append, List.drop_zero, ← String.utf8Encode_toList]
  exact List.toList_data_toByteArray

theorem pieces_flatMap (chars : List Char) :
    pieces (chars.flatMap String.utf8EncodeChar) = chars.map some := by
  induction chars with
  | nil => rw [List.flatMap_nil, pieces.eq_def, List.map_nil]
  | cons c rest ih => rw [List.flatMap_cons, pieces_encodeCharacter, ih, List.map_cons]

theorem mapM_id_eq_some_iff {pieces : List (Option Char)} {chars : List Char} :
    pieces.mapM id = some chars ↔ pieces = chars.map some := by
  constructor
  · intro all
    induction pieces generalizing chars with
    | nil => simp_all
    | cons piece pieces ih =>
        simp only [List.mapM_cons, id_eq, Option.pure_def, Option.bind_eq_bind,
          Option.bind_eq_some_iff, Option.some.injEq] at all
        obtain ⟨c, rfl, others, all, rfl⟩ := all
        rw [ih all, List.map_cons]
  · rintro rfl
    induction chars with
    | nil => rfl
    | cons c chars ih => simp_all

theorem decode?_encode (text : String) : decode? (encode text) = some text := by
  have all := mapM_id_eq_some_iff.mpr (Eq.refl (text.toList.map some))
  rw [decode?, encode_eq_flatMap, pieces_flatMap, all, Option.map_some, String.ofList_toList]

/-- Octets that make a character are its own ones, if what follows them is what the other
characters encode to. -/
theorem eq_of_first_piece {octets rest : Octets} {c : Char} {chars : List Char}
    (encoded : String.utf8EncodeChar c = octets)
    (others : ∀ {chars : List Char}, pieces rest = chars.map some →
      rest = chars.flatMap String.utf8EncodeChar)
    (whole : some c :: pieces rest = chars.map some) :
    octets ++ rest = chars.flatMap String.utf8EncodeChar := by
  obtain ⟨first, chars, rfl, same, follow⟩ := List.map_eq_cons_iff.mp whole.symm
  cases same
  rw [List.flatMap_cons, encoded, ← others follow.symm]

theorem eq_of_pieces {octets : Octets} {chars : List Char}
    (whole : pieces octets = chars.map some) : octets = chars.flatMap String.utf8EncodeChar := by
  fun_induction pieces octets generalizing chars with
  | case1 =>
      rw [List.map_eq_nil_iff.mp whole.symm]
      rfl
  | case2 a rest small ih => exact eq_of_first_piece (encode_character_single small) ih whole
  | case4 a _ leads b rest second ih =>
      simp only [Bool.and_eq_true, decide_eq_true_eq, UInt8.le_iff_toNat_le] at leads
      exact eq_of_first_piece (encode_character_pair leads second) ih whole
  | case8 a _ _ leads b second c rest third ih =>
      simp only [Bool.and_eq_true, decide_eq_true_eq, UInt8.le_iff_toNat_le] at leads
      exact eq_of_first_piece (encode_character_triple leads second third) ih whole
  | case14 a _ _ _ leads b second c third d rest fourth ih =>
      simp only [Bool.and_eq_true, decide_eq_true_eq, UInt8.le_iff_toNat_le] at leads
      exact eq_of_first_piece (encode_character_quadruple leads second third fourth) ih whole
  | _ =>
      -- In all other cases there is an ill-formed piece.
      obtain ⟨_, _, _, clash, _⟩ := List.map_eq_cons_iff.mp whole.symm
      cases clash

/-- Only the octets of a text are read as the text. -/
theorem decode?_eq_some_iff {octets : Octets} {text : String} :
    decode? octets = some text ↔ octets = encode text := by
  constructor
  · intro decoded
    obtain ⟨chars, all, rfl⟩ := Option.map_eq_some_iff.mp decoded
    rw [encode_eq_flatMap, String.toList_ofList]
    exact eq_of_pieces (mapM_id_eq_some_iff.mp all)
  · rintro rfl
    exact decode?_encode text

end Steward.Utf8
