import SuiteBridge.Proofs.Text.Blank
import SuiteBridge.Text.Numeral

/-!
# Numbers and their digits

A number that is padded with zeros is a row of decimal digits that stands for it again. If it is
small enough, the row is just as long as it should be.

`Numeral` says which characters stand for a number: an optional plus sign, and digits with as many
leading zeros as one likes. These are the texts that are read as a number
(`readBelow?_eq_some_iff`), and the decimal text of the number is one of them (`numeral_decimal`).
-/

namespace SuiteBridge.Text

variable {width n : Nat}

theorem isDigit_eq (c : Char) : isDigit c = c.isDigit := by
  simp [isDigit, Char.isDigit, Char.le_def]

theorem toNat_of_isDigit {c : Char} (digit : isDigit c = true) : 48 ≤ c.toNat ∧ c.toNat ≤ 57 := by
  simpa [isDigit, Char.le_def, UInt32.le_iff_toNat_le] using digit

theorem isDigit_of_mem_decimal {c : Char} (member : c ∈ decimal n) : isDigit c = true := by
  rw [isDigit_eq]
  exact Nat.isDigit_of_mem_toDigits (by decide) (by decide) member

theorem isDigit_of_mem_padded {c : Char} (member : c ∈ padded width n) : isDigit c = true := by
  rcases List.mem_append.mp member with zero | digit
  · rw [List.eq_of_mem_replicate zero]
    rfl
  · exact isDigit_of_mem_decimal digit

theorem length_padded (positive : 0 < width) (small : n < Nat.pow 10 width) :
    (padded width n).length = width := by
  have most : (decimal n).length ≤ width :=
    (Nat.length_toDigits_le_iff (by decide) positive).mpr small
  rw [padded, List.length_append, List.length_replicate]
  omega

/-- Zeros in front of a number do not change it. -/
theorem digitsValue_replicate_append (zeros : Nat) (digits : List Char) :
    digitsValue (List.replicate zeros '0' ++ digits) = digitsValue digits := by
  induction zeros with
  | zero => rfl
  | succ zeros ih => exact ih

theorem digitsValue_decimal (n : Nat) : digitsValue (decimal n) = n :=
  Nat.ofDigitChars_ten_toDigits

theorem digitsValue_padded (width n : Nat) : digitsValue (padded width n) = n := by
  rw [padded, digitsValue_replicate_append, digitsValue_decimal]

/-! ## Reading a number -/

/-- `Numeral cs n`: the characters `cs` are one or more decimal digits that stand for the number
`n`, perhaps with a plus sign in front. -/
inductive Numeral : List Char → Nat → Prop
  | digits {digits : List Char} : digits ≠ [] → (∀ c ∈ digits, isDigit c = true) →
    Numeral digits (digitsValue digits)
  | signed {digits : List Char} : digits ≠ [] → (∀ c ∈ digits, isDigit c = true) →
    Numeral ('+' :: digits) (digitsValue digits)

variable {cs : List Char}

theorem readDigits?_eq_some_iff :
    readDigits? cs = some n ↔ cs ≠ [] ∧ (∀ c ∈ cs, isDigit c = true) ∧ digitsValue cs = n := by
  simp [readDigits?, and_assoc]

theorem readNumeral?_eq_some_iff : readNumeral? cs = some n ↔ Numeral cs n := by
  constructor
  · intro read
    unfold readNumeral? at read
    split at read
    · obtain ⟨filled, all, rfl⟩ := readDigits?_eq_some_iff.mp read
      exact .signed filled all
    · obtain ⟨filled, all, rfl⟩ := readDigits?_eq_some_iff.mp read
      exact .digits filled all
  · intro numeral
    cases numeral with
    | digits filled all =>
        unfold readNumeral?
        split
        · exact absurd (all '+' List.mem_cons_self) (by decide)
        · exact readDigits?_eq_some_iff.mpr ⟨filled, all, rfl⟩
    | signed filled all => exact readDigits?_eq_some_iff.mpr ⟨filled, all, rfl⟩

theorem readBelow?_eq_some_iff {bound : Nat} {s : String} :
    readBelow? bound s = some n ↔ Numeral s.toList n ∧ n < bound := by
  simp [readBelow?, Option.filter_eq_some_iff, readNumeral?_eq_some_iff]

theorem Numeral.readBelow?_eq {s : String} (numeral : Numeral s.toList n) (bound : Nat) :
    readBelow? bound s = if n < bound then some n else none := by
  rw [readBelow?, readNumeral?_eq_some_iff.mpr numeral, Option.filter_some]
  simp

/-- There is a digit at the end of a numeral. -/
theorem Numeral.exists_append (numeral : Numeral cs n) :
    ∃ before last, cs = before ++ [last] ∧ isDigit last = true := by
  cases numeral with
  | digits filled all =>
      exact ⟨_, _, (List.dropLast_concat_getLast filled).symm, all _ (List.getLast_mem filled)⟩
  | signed filled all =>
      rename_i digits
      refine ⟨'+' :: digits.dropLast, digits.getLast filled, ?_, all _ (List.getLast_mem filled)⟩
      rw [List.cons_append, List.dropLast_concat_getLast]

/-- Signs and digits are no white space. -/
theorem Numeral.visible (numeral : Numeral cs n) : ∀ c ∈ cs, isSpace c = false := by
  have seen : ∀ c : Char, isDigit c = true → isSpace c = false := by
    intro c digit
    have bounds := toNat_of_isDigit digit
    exact isSpace_eq_false (by omega) (by omega)
  cases numeral with
  | digits _ all => exact fun c member => seen c (all c member)
  | signed _ all => exact List.forall_mem_cons.mpr ⟨rfl, fun c member => seen c (all c member)⟩

/-- A text is a numeral without the white space around it exactly if it is made of one. -/
theorem numeral_trim_iff {s : String} :
    Numeral (trim s).toList n ↔ ∃ core, Numeral core n ∧ Pads core s.toList := by
  rw [trim, String.toList_ofList]
  constructor
  · exact fun numeral => ⟨_, numeral, pads_trimChars s.toList⟩
  · rintro ⟨core, numeral, padded⟩
    rwa [trimChars_eq_iff.mpr ⟨padded, isTight_of_forall numeral.visible⟩]

/-- The decimal text of a number is read as this number. -/
theorem numeral_decimal (n : Nat) : Numeral (decimal n) n := by
  have own : Numeral (decimal n) (digitsValue (decimal n)) :=
    .digits Nat.toDigits_ne_nil fun _ member => isDigit_of_mem_decimal member
  rwa [digitsValue_decimal] at own

end SuiteBridge.Text
