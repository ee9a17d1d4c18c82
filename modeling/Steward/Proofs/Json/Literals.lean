import Steward.Json.Reader
/-!
# Literals and what they denote

A text is written between quotes as a literal that the reader takes whole, and that denotes the text
again.  A number is written as digits that the reader takes whole, and that denote the number again.
-/

set_option autoImplicit false

namespace Steward.Json

/-! ## Escapes -/

theorem hexDigit?_lowHex {n : Nat} (bound : n < 16) : hexDigit? (lowHex n) = some n := by
  revert n
  decide

theorem codeUnit?_lowHex {n : Nat} (bound : n < 256) :
    codeUnit? '0' '0' (lowHex (n / 16)) (lowHex (n % 16)) = some n := by
  have zero : hexDigit? '0' = some 0 := by decide
  have high := hexDigit?_lowHex (n := n / 16) (by omega)
  have low := hexDigit?_lowHex (n := n % 16) (by omega)
  simp only [codeUnit?, zero, high, low, Option.bind_eq_bind, Option.bind_some, Option.pure_def,
    Option.some_inj]
  omega

/-- How a character may be written: by a short escape, by its number, or as it is. -/
inductive Written : Char → List Char → Prop where
  | short {c letter : Char} (escape : shortEscape? letter = some c) (plain : letter ≠ 'u') :
      Written c ['\\', letter]
  | number {c : Char} {n : Nat} (control : n < 32) (same : c = Char.ofNat n) :
      Written c ['\\', 'u', '0', '0', lowHex (n / 16), lowHex (n % 16)]
  | plain {c : Char} (visible : 32 ≤ c.toNat) (quote : c ≠ '"') (backslash : c ≠ '\\') :
      Written c [c]

theorem written_of_beq {c escaped letter : Char} (same : (c == escaped) = true)
    (escape : shortEscape? letter = some escaped) (plain : letter ≠ 'u') :
    Written c ['\\', letter] := by
  obtain rfl := eq_of_beq same
  exact .short escape plain

theorem written_encodeCharacter (c : Char) : Written c (encodeCharacter c) := by
  rw [encodeCharacter]
  split
  · next same => exact written_of_beq same rfl (by decide)
  split
  · next same => exact written_of_beq same rfl (by decide)
  split
  · next same => exact written_of_beq same rfl (by decide)
  split
  · next same => exact written_of_beq same rfl (by decide)
  split
  · next same => exact written_of_beq same rfl (by decide)
  split
  · next same => exact written_of_beq same rfl (by decide)
  split
  · next same => exact written_of_beq same rfl (by decide)
  split
  · next control => exact .number control (Char.ofNat_toNat c).symm
  · next quote backslash _ _ _ _ _ visible =>
      exact .plain (Nat.le_of_not_lt visible) (by simpa using quote) (by simpa using backslash)

/-! ## Texts -/

theorem decodeLiteral_written {c : Char} {chars : List Char} (written : Written c chars)
    (rest : List Char) :
    decodeLiteral (chars ++ rest) = (decodeLiteral rest).map (c :: ·) := by
  cases written with
  | @short letter escape plain =>
      rw [List.cons_append, List.singleton_append, decodeLiteral.eq_3, escape]
      intro _ _ _ _ _ unicode
      exact absurd unicode plain
  | @number n control same =>
      have unit := codeUnit?_lowHex (n := n) (by omega)
      have low : ¬ (0xD800 ≤ n ∧ n ≤ 0xDBFF) := by omega
      have high : ¬ (0xDC00 ≤ n ∧ n ≤ 0xDFFF) := by omega
      simp only [List.cons_append, List.nil_append]
      rw [decodeLiteral.eq_2, unit]
      simp only [if_neg low, if_neg high, same]
  | plain visible quote backslash =>
      rw [List.singleton_append, decodeLiteral.eq_4]
      · intro _ _ _ _ _ escape
        exact absurd escape backslash
      · intro _ _ escape
        exact absurd escape backslash

theorem readString_written {c : Char} {chars : List Char} (written : Written c chars)
    (rest : List Char) :
    readString (chars ++ rest) =
      (readString rest).map fun (read, more) => (chars ++ read, more) := by
  cases written with
  | @short letter escape plain =>
      rw [List.cons_append, List.singleton_append, readString.eq_3, escape]
      · cases readString rest <;> rfl
      · intro _ _ _ _ _ unicode
        exact absurd unicode plain
  | @number n control same =>
      have unit := codeUnit?_lowHex (n := n) (by omega)
      simp only [List.cons_append, List.nil_append]
      rw [readString.eq_2, unit]
      cases readString rest <;> rfl
  | plain visible quote backslash =>
      have taken : ¬ (c.toNat < 32 ∨ c = '\\') := by
        rintro (control | same)
        · omega
        · exact backslash same
      rw [List.singleton_append, readString.eq_4, if_neg taken]
      · cases readString rest <;> rfl
      · exact quote
      · intro _ _ _ _ _ escape
        exact absurd escape backslash
      · intro _ _ escape
        exact absurd escape backslash

theorem decodeLiteral_encodeLiteral (text : List Char) :
    decodeLiteral (encodeLiteral text) = some text := by
  induction text with
  | nil => rfl
  | cons c rest ih =>
      rw [encodeLiteral, List.flatMap_cons, decodeLiteral_written (written_encodeCharacter c),
        ← encodeLiteral, ih, Option.map_some]

theorem readString_encodeLiteral (text rest : List Char) :
    readString (encodeLiteral text ++ '"' :: rest) = some (encodeLiteral text, rest) := by
  induction text with
  | nil => rfl
  | cons c more ih =>
      rw [encodeLiteral, List.flatMap_cons, List.append_assoc,
        readString_written (written_encodeCharacter c), ← encodeLiteral, ih, Option.map_some]

theorem literalText?_encodeLiteral (text : String) :
    literalText? (String.ofList (encodeLiteral text.toList)) = some text := by
  rw [literalText?, String.toList_ofList, decodeLiteral_encodeLiteral, Option.map_some,
    String.ofList_toList]

@[simp] theorem text?_ofText (text : String) : (ofText text).text? = some text :=
  literalText?_encodeLiteral text

/-! ## Numbers -/

theorem isDigit_of_mem_toDigits {n : Nat} {c : Char} (digit : c ∈ Nat.toDigits 10 n) :
    isDigit c = true := by
  have digit := Nat.isDigit_of_mem_toDigits (by decide) (by decide) digit
  simpa [isDigit, Char.isDigit, Char.le_def] using digit

theorem decimal?_toDigits (n : Nat) : decimal? (Nat.toDigits 10 n) = some n := by
  have digits : (Nat.toDigits 10 n).all (fun c => '0' ≤ c ∧ c ≤ '9') = true := by
    refine List.all_eq_true.mpr fun c digit => ?_
    simpa [isDigit] using isDigit_of_mem_toDigits digit
  have value : (Nat.toDigits 10 n).foldl (fun n c => n * 10 + (c.toNat - 48)) 0 = n := by
    simpa [Nat.ofDigitChars_eq_foldl, Nat.mul_comm] using Nat.ofDigitChars_ten_toDigits (n := n)
  simp only [decimal?, digits, value]
  simp [Nat.toDigits_ne_nil]

theorem head_ne_of_isDigit {n : Nat} {c : Char} {more : List Char} {mark : Char}
    (digits : Nat.toDigits 10 n = c :: more) (other : isDigit mark = false) : c ≠ mark := by
  rintro rfl
  have digit := isDigit_of_mem_toDigits (digits ▸ List.mem_cons_self)
  cases other.symm.trans digit

theorem integer?_ofNat (n : Nat) : (ofNat n).integer? = some (n : Int) := by
  have digits : (toString n).toList = Nat.toDigits 10 n := Nat.toList_repr
  rw [ofNat, integer?, digits]
  split
  · next minus => exact absurd rfl (head_ne_of_isDigit minus (by decide))
  · rw [decimal?_toDigits, Option.map_some]
    rfl

@[simp] theorem word?_ofNat (n : UInt64) : (ofNat n.toNat).word? = some n := by
  have bound : n.toNat < UInt64.size := n.toNat_lt
  have natural : (ofNat n.toNat).natural? = some n.toNat := by
    simp [natural?, integer?_ofNat]
  rw [word?, natural]
  simp [bound]

def Ends : List Char → Prop
  | [] => True
  | c :: _ => isDigit c = false ∧ c ≠ '.' ∧ c ≠ 'e' ∧ c ≠ 'E'

theorem readDigits_append {digits rest : List Char} (present : digits ≠ [])
    (all : ∀ c ∈ digits, isDigit c = true) (ends : Ends rest) :
    readDigits (digits ++ rest) = some (digits, rest) := by
  have stops : rest.takeWhile isDigit = [] ∧ rest.dropWhile isDigit = rest := by
    cases rest with
    | nil => exact ⟨rfl, rfl⟩
    | cons c more => simp [ends.1]
  rw [readDigits, List.takeWhile_append_of_pos all, List.dropWhile_append_of_pos all, stops.1,
    stops.2, List.append_nil]
  cases digits with
  | nil => exact absurd rfl present
  | cons c more => rfl

/-- The digits of a number other than zero do not begin with zero. -/
theorem head_toDigits_ne_zero {n : Nat} (positive : 0 < n) {c : Char} {more : List Char}
    (digits : Nat.toDigits 10 n = c :: more) : c ≠ '0' := by
  induction n using Nat.strongRecOn generalizing c more with
  | _ n ih =>
      by_cases small : n < 10
      · rw [Nat.toDigits_of_lt_base small, List.cons.injEq] at digits
        rw [← digits.1, Ne, Nat.digitChar_eq_zero]
        omega
      · rw [Nat.toDigits_of_base_le (by decide) (by omega)] at digits
        cases front : Nat.toDigits 10 (n / 10) with
        | nil => exact absurd front Nat.toDigits_ne_nil
        | cons first others =>
            rw [front, List.cons_append, List.cons.injEq] at digits
            exact digits.1 ▸ ih (n / 10) (by omega) (by omega) front

theorem readWhole_toDigits (n : Nat) {rest : List Char} (ends : Ends rest) :
    readWhole (Nat.toDigits 10 n ++ rest) = some (Nat.toDigits 10 n, rest) := by
  by_cases zero : n = 0
  · rw [zero, Nat.toDigits_zero]
    rfl
  · have read : readDigits (Nat.toDigits 10 n ++ rest) = some (Nat.toDigits 10 n, rest) :=
      readDigits_append Nat.toDigits_ne_nil (fun c => isDigit_of_mem_toDigits) ends
    cases digits : Nat.toDigits 10 n with
    | nil => exact absurd digits Nat.toDigits_ne_nil
    | cons c more =>
        rw [digits] at read
        rw [List.cons_append, readWhole.eq_2, ← List.cons_append, read]
        intro _ zeros
        exact absurd (List.cons.inj zeros).1
          (head_toDigits_ne_zero (Nat.pos_of_ne_zero zero) digits)

/-- The reader takes the characters whole as a number, whatever follows. -/
def IsNumeral (chars : List Char) : Prop :=
  ∀ rest, Ends rest → readNumber (chars ++ rest) = some (chars, rest)

theorem isNumeral_toDigits (n : Nat) : IsNumeral (Nat.toDigits 10 n) := by
  intro rest ends
  have fraction : readFraction rest = some ([], rest) := by
    cases rest with
    | nil => rfl
    | cons c more =>
        rw [readFraction.eq_2]
        intro _ point
        exact absurd (List.cons.inj point).1 ends.2.1
  have exponent : readExponent rest = some ([], rest) := by
    cases rest with
    | nil => rfl
    | cons c more =>
        have none : ¬ (c = 'e' ∨ c = 'E') := by
          rintro (small | large)
          · exact ends.2.2.1 small
          · exact ends.2.2.2 large
        rw [readExponent, if_neg none]
  have magnitude : readMagnitude (Nat.toDigits 10 n ++ rest) = some (Nat.toDigits 10 n, rest) := by
    simp [readMagnitude, readWhole_toDigits n ends, fraction, exponent]
  rw [readNumber.eq_2, magnitude]
  intro more minus
  cases digits : Nat.toDigits 10 n with
  | nil => exact absurd digits Nat.toDigits_ne_nil
  | cons c others =>
      rw [digits, List.cons_append] at minus
      exact absurd (List.cons.inj minus).1 (head_ne_of_isDigit digits (by decide))

end Steward.Json
