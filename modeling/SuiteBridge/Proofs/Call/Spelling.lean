import SuiteBridge.Proofs.Call.Blankness
import SuiteBridge.Proofs.Json.Distinct
import SuiteBridge.Proofs.Text.Letters
import SuiteBridge.Proofs.Text.Numeral

/-!
# Numbers as numbers and as texts

A number can be given as a number or as a text with the number in it. `Json.Denotes` says which
values stand for a number: they are what is read as one, and every other value is as good as left
out or a fault (`Arguments.number?_reads_spellings`). The decimal text of an integer is tight, not
blank and no word, so that no reader of arguments can tell it from the integer itself.
-/

namespace SuiteBridge

/-! ## The decimal text of an integer -/

namespace Text

variable {k : Int} {c : Char}

theorem toNat_of_isIntegerMark (mark : isIntegerMark c = true) :
    c.toNat = 45 ∨ 48 ≤ c.toNat ∧ c.toNat ≤ 57 := by
  rw [isIntegerMark, Bool.or_eq_true, ← isDigit_eq, beq_iff_eq] at mark
  rcases mark with digit | rfl
  · exact Or.inr (toNat_of_isDigit digit)
  · exact Or.inl rfl

theorem isSpace_of_isIntegerMark (mark : isIntegerMark c = true) : isSpace c = false := by
  have code := toNat_of_isIntegerMark mark
  exact isSpace_eq_false (by omega) (by omega)

theorem isAlpha_of_isIntegerMark (mark : isIntegerMark c = true) : c.isAlpha = false := by
  have code := toNat_of_isIntegerMark mark
  rw [Bool.eq_false_iff]
  intro letter
  have other := isAlpha_iff.mp letter
  omega

/-- The decimal text of an integer. -/
def integer (k : Int) : String :=
  String.ofList (decimalInt k)

theorem isIntegerMark_of_mem_integer (member : c ∈ (integer k).toList) :
    isIntegerMark c = true := by
  rw [integer, String.toList_ofList] at member
  exact isIntegerMark_of_mem_decimalInt member

theorem exists_toList_integer (k : Int) :
    ∃ c rest, (integer k).toList = c :: rest ∧ isIntegerMark c = true := by
  rw [integer, String.toList_ofList]
  exact exists_decimalInt_eq_cons k

theorem isBlank_integer (k : Int) : isBlank (integer k) = false := by
  obtain ⟨c, rest, same, mark⟩ := exists_toList_integer k
  rw [isBlank, same, List.all_cons, isSpace_of_isIntegerMark mark, Bool.false_and]

theorem trim_integer (k : Int) : trim (integer k) = integer k :=
  trim_eq_self (isTight_of_forall fun _ member =>
    isSpace_of_isIntegerMark (isIntegerMark_of_mem_integer member))

theorem lower_integer (k : Int) : lower (integer k) = integer k :=
  lower_eq_self fun _ member => isAlpha_of_isIntegerMark (isIntegerMark_of_mem_integer member)

/-- An integer is written with a sign or a digit at first, so not like a word. -/
theorem integer_ne {word : String} (first : word.toList.head? = some c)
    (other : isIntegerMark c = false) : integer k ≠ word := by
  rintro rfl
  obtain ⟨d, rest, same, mark⟩ := exists_toList_integer k
  rw [same, List.head?_cons, Option.some.injEq] at first
  rw [first, other] at mark
  cases mark

/-- An integer is read from its text exactly if it is a number that is small enough. -/
theorem readBelow?_integer (bound : Nat) (k : Int) :
    readBelow? bound (integer k) = if 0 ≤ k ∧ k < bound then some k.toNat else none := by
  by_cases negative : k < 0
  · have unread : readNumeral? (integer k).toList = none := by
      rw [integer, String.toList_ofList, decimalInt, if_pos negative]
      rfl
    rw [readBelow?, unread, if_neg (by omega)]
    rfl
  · have numeral : Numeral (integer k).toList k.natAbs := by
      rw [integer, String.toList_ofList, decimalInt, if_neg negative]
      exact numeral_decimal k.natAbs
    have same : k.natAbs = k.toNat := by omega
    rw [numeral.readBelow?_eq bound, same]
    exact if_congr (by omega) rfl rfl

end Text

/-- `value.Denotes n`: the value is the number `n`, or a numeral for it with white space around or
not. -/
inductive Json.Denotes : Json → Nat → Prop
  | number (n : Nat) : Denotes (.nat n) n
  | numeral {s : String} {core : List Char} {n : Nat} : Text.Numeral core n →
    Text.Pads core s.toList → Denotes (.string s) n

theorem Json.denotes_string_iff {s : String} {n : Nat} :
    (Json.string s).Denotes n ↔ Text.Numeral (Text.trim s).toList n := by
  rw [Text.numeral_trim_iff]
  constructor
  · rintro (_ | ⟨numeral, padded⟩)
    exact ⟨_, numeral, padded⟩
  · rintro ⟨core, numeral, padded⟩
    exact .numeral numeral padded

theorem Json.denotes_int_iff {k : Int} {n : Nat} : (Json.int k).Denotes n ↔ k = n := by
  constructor
  · rintro ⟨⟩
    rfl
  · rintro rfl
    exact .number n

namespace Arguments

variable {args : Arguments} {name : String}

/-! ## What is read as a number -/

theorem value?_eq_some_iff {value : Json} :
    args.value? name = some value ↔
      args.members.lookup name = some value ∧ value.isNull = false := by
  simp [value?, Option.filter_eq_some_iff]

theorem value?_eq_none_iff :
    args.value? name = .none ↔ ∀ value, args.members.lookup name = some value → value = .null := by
  have null : ∀ value : Json, value.isNull = true ↔ value = .null := by
    rintro (_ | _ | _ | _ | _ | _) <;> simp [Json.isNull]
  simp [value?, Option.filter_eq_none_iff, null]

theorem number?_of_int {k : Int} (found : args.value? name = some (.int k)) :
    args.number? name =
      if 0 ≤ k ∧ k < numberBound then .ok (some k.toNat)
      else .error (invalid name "must be a non-negative integer") := by
  unfold number?
  rw [found]
  rfl

theorem number?_of_string {s : String} (found : args.value? name = some (.string s))
    (written : Text.isBlank s = false) :
    args.number? name = (Text.readBelow? numberBound (Text.trim s)).elim
      (.error (invalid name "must be a non-negative integer")) fun n => .ok (some n) := by
  unfold number?
  rw [found]
  simp only [written, Bool.false_eq_true, if_false]
  cases Text.readBelow? numberBound (Text.trim s) <;> rfl

/-- What stands for a number that is small enough is read, and nothing else. -/
theorem number?_eq_some_iff {n : Nat} :
    args.number? name = .ok (some n) ↔
      n < numberBound ∧ ∃ value, args.value? name = some value ∧ value.Denotes n := by
  cases found : args.value? name with
  | none => simp [number?, found]
  | some value =>
      simp only [Option.some.injEq, exists_eq_left']
      cases value with
      | number m =>
          cases m with
          | integer k =>
              have same : (Json.number (.integer k)).Denotes n ↔ k = n := Json.denotes_int_iff
              rw [number?_of_int found, same]
              split <;> simp <;> omega
          | real x => exact iff_of_false (by simp [number?, found]) (by rintro ⟨-, ⟨⟩⟩)
      | string s =>
          rw [Json.denotes_string_iff, and_comm, ← Text.readBelow?_eq_some_iff]
          by_cases blank : Text.isBlank s = true
          -- nothing is left of a blank text that could be a numeral
          · have nothing : args.number? name = .ok .none :=
              number?_eq_none_iff.mpr (Or.inr ⟨s, found, blank⟩)
            have empty : Text.readBelow? numberBound (Text.trim s) = .none := by
              rw [Text.trim_eq_empty_iff.mpr blank]
              rfl
            simp [nothing, empty]
          · rw [number?_of_string found (Bool.eq_false_iff.mpr blank)]
            cases Text.readBelow? numberBound (Text.trim s) <;> simp
      | null | bool | array | object =>
          exact iff_of_false (by simp [number?, found]) (by rintro ⟨-, ⟨⟩⟩)

theorem isUnsaid_iff_lookup :
    args.IsUnsaid name ↔ ∀ value, args.members.lookup name = some value →
      value = .null ∨ ∃ s, value = .string s ∧ Text.isBlank s = true := by
  unfold IsUnsaid
  rw [value?_eq_none_iff]
  simp only [value?_eq_some_iff]
  cases args.members.lookup name with
  | none => simp
  | some value => cases value <;> simp [Json.isNull]

/-! ## Two spellings of an integer -/

section Spelling

variable (args) (name) (k : Int)

theorem value?_insert_integers :
    (args.insert name (.int k)).value? name = some (.int k) ∧
      (args.insert name (.string (Text.integer k))).value? name =
        some (.string (Text.integer k)) :=
  ⟨value?_insert rfl, value?_insert rfl⟩

theorem text?_insert_integer :
    (args.insert name (.int k)).text? name =
      (args.insert name (.string (Text.integer k))).text? name := by
  obtain ⟨counted, written⟩ := value?_insert_integers args name k
  simp only [text?, counted, written, Text.isBlank_integer]
  rfl

theorem oneOf?_insert_integer (allowed : List String) :
    (args.insert name (.int k)).oneOf? name allowed =
      (args.insert name (.string (Text.integer k))).oneOf? name allowed := by
  rw [oneOf?, oneOf?, text?_insert_integer]

theorem number?_insert_integer :
    (args.insert name (.int k)).number? name =
      (args.insert name (.string (Text.integer k))).number? name := by
  obtain ⟨counted, written⟩ := value?_insert_integers args name k
  rw [number?_of_int counted, number?_of_string written (Text.isBlank_integer k),
    Text.trim_integer, Text.readBelow?_integer]
  by_cases within : 0 ≤ k ∧ k < numberBound
  · rw [if_pos within, if_pos within, Option.elim_some]
  · rw [if_neg within, if_neg within, Option.elim_none]

theorem flag?_insert_integer :
    (args.insert name (.int k)).flag? name =
      (args.insert name (.string (Text.integer k))).flag? name := by
  obtain ⟨counted, written⟩ := value?_insert_integers args name k
  have yes : Text.integer k ≠ "true" := Text.integer_ne (by decide +kernel : _ = some 't') rfl
  have no : Text.integer k ≠ "false" := Text.integer_ne (by decide +kernel : _ = some 'f') rfl
  have nothing : Text.integer k ≠ "" := fun same => by
    simpa [same, Text.isBlank] using Text.isBlank_integer k
  simp only [flag?, counted, written, Text.trim_integer, Text.lower_integer, if_neg yes, if_neg no,
    if_neg nothing]
  rfl

theorem entriesOfItems_append_congr {item other : Json}
    (same : entryOfItem name item = entryOfItem name other) (before behind : List Json) :
    entriesOfItems name (before ++ item :: behind) =
      entriesOfItems name (before ++ other :: behind) := by
  induction before with
  | nil => simp only [List.nil_append, entriesOfItems, same]
  | cons first before ih => simp only [List.cons_append, entriesOfItems, ih]

theorem list?_insert_integer (before behind : List Json) :
    (args.insert name (.array (before ++ .int k :: behind))).list? name =
      (args.insert name (.array (before ++ .string (Text.integer k) :: behind))).list? name := by
  have same : entryOfItem name (.int k) = entryOfItem name (.string (Text.integer k)) := by
    rw [entryOfItem, Text.isBlank_integer, Text.trim_integer]
    rfl
  have counted := @value?_insert args name (.array (before ++ .int k :: behind)) rfl
  have written :=
    @value?_insert args name (.array (before ++ .string (Text.integer k) :: behind)) rfl
  simp only [list?, counted, written, entriesOfItems_append_congr name same]

end Spelling

/-- **A number is read in either spelling.** It is given by a value that stands for it, and not by
one that is null or blank, which counts as not given; everything else is a fault over this argument.
An integer and its decimal text are read alike wherever a number, a text, a truth value or one of
several texts is asked for, and also among the items of a list. -/
theorem number?_reads_spellings (args : Arguments) (name : String) :
    (∀ n, args.number? name = .ok (some n) ↔
      n < Nat.pow 2 32 ∧ ∃ value, args.members.lookup name = some value ∧ value.Denotes n) ∧
    (args.number? name = .ok .none ↔ ∀ value, args.members.lookup name = some value →
      value = .null ∨ ∃ s, value = .string s ∧ Text.isBlank s = true) ∧
    (∀ fault, args.number? name = .error fault →
      fault.kind = .validation ∧ fault.code = some ("INVALID_" ++ Text.upper name)) ∧
    ∀ k : Int,
      (args.insert name (.int k)).number? name =
        (args.insert name (.string (Text.integer k))).number? name ∧
      (args.insert name (.int k)).text? name =
        (args.insert name (.string (Text.integer k))).text? name ∧
      (args.insert name (.int k)).flag? name =
        (args.insert name (.string (Text.integer k))).flag? name ∧
      (∀ allowed, (args.insert name (.int k)).oneOf? name allowed =
        (args.insert name (.string (Text.integer k))).oneOf? name allowed) ∧
      ∀ before behind, (args.insert name (.array (before ++ .int k :: behind))).list? name =
        (args.insert name (.array (before ++ .string (Text.integer k) :: behind))).list? name := by
  refine ⟨fun n => ?_, ?_, fun fault failed => ?_, fun k => ?_⟩
  · rw [number?_eq_some_iff]
    refine and_congr_right fun _ => exists_congr fun value => and_congr_left fun denotes => ?_
    have given : value.isNull = false := by cases denotes <;> rfl
    rw [value?_eq_some_iff, and_iff_left given]
  · rw [number?_eq_none_iff, isUnsaid_iff_lookup]
  · have unusable := isInvalid_of_number?_eq_error failed
    exact ⟨unusable.kind, unusable.code⟩
  · exact ⟨number?_insert_integer args name k, text?_insert_integer args name k,
      flag?_insert_integer args name k, oneOf?_insert_integer args name k,
      list?_insert_integer args name k⟩

/-- A page number with a sign, zeros and white space is read; a blank one is not given; and one past
the greatest number is a fault over the page. -/
theorem number?_reads_spellings_page :
    number? ⟨[("page", .string "\u3000+0042\n")]⟩ "page" = .ok (some 42) ∧
    number? ⟨[("page", .string " \t")]⟩ "page" = .ok .none ∧
    ∃ fault, number? ⟨[("page", .nat 4294967296)]⟩ "page" = .error fault ∧
      fault.kind = .validation ∧ fault.code = some "INVALID_PAGE" := by
  have zeros : Text.Numeral ['+', '0', '0', '4', '2'] 42 :=
    .signed (List.cons_ne_nil _ _) (List.all_eq_true.mp rfl)
  have spelled : (Json.string "\u3000+0042\n").Denotes 42 := .numeral zeros
    ⟨['\u3000'], ['\n'], List.all_eq_true.mp rfl, List.all_eq_true.mp rfl, rfl⟩
  obtain ⟨fault, failed⟩ :
      ∃ fault, number? ⟨[("page", .nat 4294967296)]⟩ "page" = .error fault := ⟨_, rfl⟩
  obtain ⟨kind, code⟩ := (number?_reads_spellings _ _).2.2.1 fault failed
  have name : "INVALID_" ++ Text.upper "page" = "INVALID_PAGE" := by decide +kernel
  refine ⟨?_, ?_, fault, failed, kind, name ▸ code⟩
  · exact ((number?_reads_spellings _ _).1 42).mpr ⟨by decide, _, rfl, spelled⟩
  · refine (number?_reads_spellings _ _).2.1.mpr fun value found => ?_
    cases found
    exact Or.inr ⟨" \t", rfl, by decide +kernel⟩

end Arguments

end SuiteBridge
