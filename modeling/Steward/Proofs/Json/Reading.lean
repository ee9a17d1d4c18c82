import Mathlib.Data.List.DropRight
import Steward.Json.Printer
import Steward.Proofs.Json.Literals
/-!
# Reading what was written

A value whose literals the reader takes whole is read back from its indented form, whatever the
depth and whatever follows.  One more unit of fuel than the form has characters suffices.
-/

set_option autoImplicit false

namespace Steward.Json

/-- The reader takes the characters whole as a string, once they stand before a closing quote. -/
def IsQuotable (chars : List Char) : Prop :=
  ∀ rest, readString (chars ++ '"' :: rest) = some (chars, rest)

/-- All literals in the value are such as the reader takes. -/
inductive Sound : Json → Prop where
  | null : Sound .null
  | boolean (value : Bool) : Sound (.boolean value)
  | number {literal : String} (numeral : IsNumeral literal.toList) : Sound (.number literal)
  | string {literal : String} (quotable : IsQuotable literal.toList) : Sound (.string literal)
  | array {items : List Json} (all : ∀ item ∈ items, Sound item) : Sound (.array items)
  | object {members : List (String × Json)}
      (keys : ∀ member ∈ members, IsQuotable member.1.toList)
      (values : ∀ member ∈ members, Sound member.2) : Sound (.object members)

theorem sound_ofText (text : String) : Sound (ofText text) := by
  refine .string fun rest => ?_
  rw [String.toList_ofList]
  exact readString_encodeLiteral text.toList rest

theorem sound_ofNat (n : Nat) : Sound (ofNat n) := by
  refine .number ?_
  rw [Nat.toString_eq_repr, Nat.toList_repr]
  exact isNumeral_toDigits n

theorem sound_record {members : List (String × Json)} (all : ∀ member ∈ members, Sound member.2) :
    Sound (record members) := by
  refine .object (fun member there rest => ?_) fun member there => ?_
  · obtain ⟨⟨key, value⟩, -, rfl⟩ := List.mem_map.mp there
    rw [String.toList_ofList]
    exact readString_encodeLiteral key.toList rest
  · obtain ⟨given, listed, rfl⟩ := List.mem_map.mp there
    exact all given listed

/-! ## Blanks -/

theorem skipSpace_cons {c : Char} (visible : isSpace c = false) (rest : List Char) :
    skipSpace (c :: rest) = c :: rest := by
  simp [skipSpace, visible]

theorem skipSpace_blank (rest : List Char) : skipSpace (' ' :: rest) = skipSpace rest := rfl

theorem skipSpace_newLine (depth : Nat) (rest : List Char) :
    skipSpace (newLine depth ++ rest) = skipSpace rest := by
  refine List.dropWhile_append_of_pos fun c blank => ?_
  rcases List.mem_cons.mp blank with rfl | space
  · rfl
  · rw [List.eq_of_mem_replicate space]
    rfl

theorem readValue_congr {fuel : Nat} {chars others : List Char}
    (same : skipSpace chars = skipSpace others) : readValue fuel chars = readValue fuel others := by
  cases fuel with
  | zero => rfl
  | succ fuel => rw [readValue, readValue, same]

theorem skipSpace_skipSpace (chars : List Char) : skipSpace (skipSpace chars) = skipSpace chars :=
  List.dropWhile_idempotent isSpace chars

theorem readItems_congr {fuel : Nat} {chars others : List Char}
    (same : skipSpace chars = skipSpace others) : readItems fuel chars = readItems fuel others := by
  cases fuel with
  | zero => rfl
  | succ fuel => rw [readItems, readItems, readValue_congr same]

theorem readMembers_congr {fuel : Nat} {chars others : List Char}
    (same : skipSpace chars = skipSpace others) :
    readMembers fuel chars = readMembers fuel others := by
  cases fuel with
  | zero => rfl
  | succ fuel => rw [readMembers, readMembers, same]

theorem newLine_length (depth : Nat) : (newLine depth).length = 2 * depth + 1 := by
  rw [newLine, List.length_cons, List.length_replicate]

theorem readValue_newLine (fuel depth : Nat) (rest : List Char) :
    readValue fuel (newLine depth ++ rest) = readValue fuel rest :=
  readValue_congr (skipSpace_newLine depth rest)

/-! ## Values without parts -/

theorem ends_newLine (depth : Nat) (rest : List Char) : Ends (newLine depth ++ rest) :=
  ⟨rfl, by decide, by decide, by decide⟩

theorem readValue_string {fuel : Nat} {literal : String} (quotable : IsQuotable literal.toList)
    (rest : List Char) :
    readValue (fuel + 1) (quotes literal ++ rest) = some (.string literal, rest) := by
  simp only [quotes, List.cons_append, List.append_assoc, List.nil_append]
  rw [readValue, skipSpace_cons rfl]
  simp only [quotable rest, String.ofList_toList]

theorem head_of_isNumeral {chars : List Char} (numeral : IsNumeral chars) :
    ∃ c more, chars = c :: more ∧ (c = '-' ∨ isDigit c = true) := by
  have read := numeral [] trivial
  rw [List.append_nil] at read
  cases chars with
  | nil => cases read
  | cons c more =>
      refine ⟨c, more, rfl, ?_⟩
      by_cases minus : c = '-'
      · exact .inl minus
      cases digit : isDigit c with
      | true => exact .inr rfl
      | false =>
          have whole : readWhole (c :: more) = none := by
            rw [readWhole.eq_2, readDigits, List.takeWhile_cons_of_neg (by simp [digit])]
            rintro _ zero
            rw [(List.cons.inj zero).1] at digit
            cases digit
          rw [readNumber.eq_2, readMagnitude, whole] at read
          · cases read
          · intro _ sign
            exact minus (List.cons.inj sign).1

theorem readValue_number {fuel : Nat} {literal : String} (numeral : IsNumeral literal.toList)
    {rest : List Char} (ends : Ends rest) :
    readValue (fuel + 1) (literal.toList ++ rest) = some (.number literal, rest) := by
  have read := numeral rest ends
  obtain ⟨c, more, chars, first⟩ := head_of_isNumeral numeral
  have apart : ∀ mark : Char, mark ≠ '-' → isDigit mark = false → c ≠ mark := by
    rintro _ minus other rfl
    rcases first with sign | digit
    · exact minus sign
    · cases other.symm.trans digit
  have visible : isSpace c = false := by
    simp [isSpace, apart ' ' (by decide) rfl, apart '\n' (by decide) rfl,
      apart '\t' (by decide) rfl, apart '\r' (by decide) rfl]
  rw [chars] at read
  rw [chars, readValue, List.cons_append, skipSpace_cons visible]
  split
  case h_7 =>
      rw [← List.cons_append, read]
      simp [← chars]
  -- No other kind of value begins like a number.
  all_goals next same => exact absurd (List.cons.inj same).1 (apart _ (by decide) rfl)

/-! ## Values with parts -/

theorem readItems_close (fuel : Nat) (rest : List Char) : readItems fuel (']' :: rest) = none := by
  cases fuel with
  | zero => rfl
  | succ fuel =>
      cases fuel with
      | zero => rfl
      | succ fuel => rfl

theorem readMembers_close (fuel : Nat) (rest : List Char) :
    readMembers fuel ('\x7d' :: rest) = none := by
  cases fuel with
  | zero => rfl
  | succ fuel => rfl

theorem readValue_array {fuel : Nat} {inner rest : List Char} {items : List Json}
    (read : readItems fuel inner = some (items, rest)) :
    readValue (fuel + 1) ('[' :: inner) = some (.array items, rest) := by
  rw [← readItems_congr (skipSpace_skipSpace inner)] at read
  simp only [readValue, skipSpace_cons (c := '[') rfl]
  split
  · next close =>
      rw [close, readItems_close] at read
      cases read
  · rw [read]

theorem readValue_object {fuel : Nat} {inner rest : List Char} {members : List (String × Json)}
    (read : readMembers fuel inner = some (members, rest)) :
    readValue (fuel + 1) ('\x7b' :: inner) = some (.object members, rest) := by
  rw [← readMembers_congr (skipSpace_skipSpace inner)] at read
  simp only [readValue, skipSpace_cons (c := '\x7b') rfl]
  split
  · next close =>
      rw [close, readMembers_close] at read
      cases read
  · rw [read]

section Parts

variable {fuel : Nat} {chars close more rest : List Char}

theorem readItems_last {item : Json} (first : readValue fuel chars = some (item, close))
    (closes : skipSpace close = ']' :: rest) :
    readItems (fuel + 1) chars = some ([item], rest) := by
  rw [readItems, first]
  simp only [closes]

theorem readItems_more {item : Json} {items : List Json}
    (first : readValue fuel chars = some (item, ',' :: more))
    (others : readItems fuel more = some (items, rest)) :
    readItems (fuel + 1) chars = some (item :: items, rest) := by
  rw [readItems, first]
  simp only [skipSpace_cons (c := ',') rfl, others]

section Member

variable {key : String} {value : Json} {depth : Nat}

theorem readMembers_last (quotable : IsQuotable key.toList)
    (first : readValue fuel chars = some (value, close))
    (closes : skipSpace close = '\x7d' :: rest) :
    readMembers (fuel + 1) (newLine depth ++ (quotes key ++ ':' :: ' ' :: chars)) =
      some ([(key, value)], rest) := by
  have named := quotable (':' :: ' ' :: chars)
  rw [← readValue_congr (skipSpace_blank chars)] at first
  rw [readMembers, skipSpace_newLine]
  simp only [quotes, List.cons_append, List.append_assoc, List.nil_append,
    skipSpace_cons (c := '"') rfl, named, skipSpace_cons (c := ':') rfl, first, closes,
    String.ofList_toList]

theorem readMembers_more {members : List (String × Json)} (quotable : IsQuotable key.toList)
    (first : readValue fuel chars = some (value, ',' :: more))
    (others : readMembers fuel more = some (members, rest)) :
    readMembers (fuel + 1) (newLine depth ++ (quotes key ++ ':' :: ' ' :: chars)) =
      some ((key, value) :: members, rest) := by
  have named := quotable (':' :: ' ' :: chars)
  rw [← readValue_congr (skipSpace_blank chars)] at first
  rw [readMembers, skipSpace_newLine]
  simp only [quotes, List.cons_append, List.append_assoc, List.nil_append,
    skipSpace_cons (c := '"') rfl, named, skipSpace_cons (c := ':') rfl, first,
    skipSpace_cons (c := ',') rfl, others, String.ofList_toList]

end Member

end Parts

theorem ends_comma (rest : List Char) : Ends (',' :: rest) :=
  ⟨rfl, by decide, by decide, by decide⟩

/-- With this fuel, every value whose form is shorter is read back from it, and so are the items of
an array and the members of an object up to the closing bracket. -/
structure Reads (fuel : Nat) : Prop where
  value : ∀ {json : Json} {depth : Nat} {rest : List Char}, Sound json → Ends rest →
    (indentedChars depth json).length < fuel →
      readValue fuel (indentedChars depth json ++ rest) = some (json, rest)
  items : ∀ {items : List Json} {depth : Nat} {close rest : List Char}, items ≠ [] →
    (∀ item ∈ items, Sound item) → Ends close → skipSpace close = ']' :: rest →
      (indentedItems depth items).length < fuel →
        readItems fuel (indentedItems depth items ++ close) = some (items, rest)
  members : ∀ {members : List (String × Json)} {depth : Nat} {close rest : List Char},
    members ≠ [] → (∀ member ∈ members, IsQuotable member.1.toList) →
      (∀ member ∈ members, Sound member.2) → Ends close → skipSpace close = '\x7d' :: rest →
        (indentedMembers depth members).length < fuel →
          readMembers fuel (indentedMembers depth members ++ close) = some (members, rest)

theorem reads_zero : Reads 0 := by
  refine ⟨?_, ?_, ?_⟩
  · intro json depth rest _ _ short
    exact absurd short (Nat.not_lt_zero _)
  · intro items depth close rest _ _ _ _ short
    exact absurd short (Nat.not_lt_zero _)
  · intro members depth close rest _ _ _ _ _ short
    exact absurd short (Nat.not_lt_zero _)

section Succ

variable {fuel depth : Nat} {close rest : List Char}

theorem Reads.value_succ (reads : Reads fuel) {json : Json} (sound : Sound json) (ends : Ends rest)
    (short : (indentedChars depth json).length < fuel + 1) :
    readValue (fuel + 1) (indentedChars depth json ++ rest) = some (json, rest) := by
  cases sound with
  | null => rfl
  | boolean value => cases value <;> rfl
  | number numeral => exact readValue_number numeral ends
  | string quotable => exact readValue_string quotable rest
  | @array items all =>
      cases items with
      | nil => rfl
      | cons item items =>
          simp only [indentedChars, List.cons_append, List.append_assoc, List.nil_append,
            List.length_cons, List.length_append] at short ⊢
          exact readValue_array (reads.items (List.cons_ne_nil item items) all
            (ends_newLine depth _) (skipSpace_newLine depth _) (by omega))
  | @object members keys values =>
      cases members with
      | nil => rfl
      | cons member members =>
          simp only [indentedChars, List.cons_append, List.append_assoc, List.nil_append,
            List.length_cons, List.length_append] at short ⊢
          exact readValue_object (reads.members (List.cons_ne_nil member members) keys values
            (ends_newLine depth _) (skipSpace_newLine depth _) (by omega))

theorem Reads.items_succ (reads : Reads fuel) {item : Json} {items : List Json}
    (all : ∀ other ∈ item :: items, Sound other) (ends : Ends close)
    (closes : skipSpace close = ']' :: rest)
    (short : (indentedItems depth (item :: items)).length < fuel + 1) :
    readItems (fuel + 1) (indentedItems depth (item :: items) ++ close) =
      some (item :: items, rest) := by
  have sound := all item List.mem_cons_self
  cases items with
  | nil =>
      simp only [indentedItems, newLine_length, List.length_append, List.append_assoc] at short ⊢
      refine readItems_last ?_ closes
      rw [readValue_newLine]
      exact reads.value sound ends (by omega)
  | cons next items =>
      simp only [indentedItems, newLine_length, List.length_append, List.append_assoc,
        List.length_cons, List.cons_append] at short ⊢
      have fits : (indentedChars depth item).length < fuel := by omega
      have others : (indentedItems depth (next :: items)).length < fuel := by omega
      have first := reads.value sound (ends_comma (indentedItems depth (next :: items) ++ close))
        fits
      rw [← readValue_newLine fuel depth] at first
      exact readItems_more first (reads.items (List.cons_ne_nil next items)
        (fun other there => all other (List.mem_cons_of_mem _ there)) ends closes others)

theorem Reads.members_succ (reads : Reads fuel) {key : String} {value : Json}
    {members : List (String × Json)}
    (keys : ∀ member ∈ (key, value) :: members, IsQuotable member.1.toList)
    (values : ∀ member ∈ (key, value) :: members, Sound member.2) (ends : Ends close)
    (closes : skipSpace close = '\x7d' :: rest)
    (short : (indentedMembers depth ((key, value) :: members)).length < fuel + 1) :
    readMembers (fuel + 1) (indentedMembers depth ((key, value) :: members) ++ close) =
      some ((key, value) :: members, rest) := by
  have quotable := keys _ List.mem_cons_self
  have sound := values _ List.mem_cons_self
  cases members with
  | nil =>
      simp only [indentedMembers, newLine_length, List.length_append, List.append_assoc,
        List.length_cons, List.cons_append] at short ⊢
      exact readMembers_last quotable (reads.value sound ends (by omega)) closes
  | cons next members =>
      simp only [indentedMembers, newLine_length, List.length_append, List.append_assoc,
        List.length_cons, List.cons_append] at short ⊢
      exact readMembers_more quotable (reads.value sound (ends_comma _) (by omega))
        (reads.members (List.cons_ne_nil next members)
          (fun other there => keys other (List.mem_cons_of_mem _ there))
          (fun other there => values other (List.mem_cons_of_mem _ there)) ends closes (by omega))

end Succ

theorem reads (fuel : Nat) : Reads fuel := by
  induction fuel with
  | zero => exact reads_zero
  | succ fuel reads =>
      refine ⟨reads.value_succ, ?_, ?_⟩
      · intro items depth close rest present
        cases items with
        | nil => exact absurd rfl present
        | cons item items => exact reads.items_succ
      · intro members depth close rest present
        cases members with
        | nil => exact absurd rfl present
        | cons member members => exact reads.members_succ

/-- A sound value is read back from its indented form. -/
theorem parse?_indented {json : Json} (sound : Sound json) : parse? json.indented = some json := by
  have last : Ends [] := trivial
  have read := (reads ((indentedChars 0 json).length + 1)).value sound last (Nat.lt_succ_self _)
  rw [List.append_nil] at read
  simp only [parse?, indented, String.toList_ofList, read]
  rfl

end Steward.Json
