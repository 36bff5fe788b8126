import SuiteBridge.Proofs.Text.Numeral
import SuiteBridge.Proofs.Text.Separated
import SuiteBridge.Settings

/-!
# Spans of time as they are written

`Span.Writes raw n time` says that a text is a numeral and the sign of a unit, with white space
around them or not. A text that is cut into number and unit is cut where the numeral ends, since
there is a digit at its end and no unit is written with one (`Span.splitUnit_append`). So a text is
read exactly if it is written in this way and neither the number nor the seconds get too large, and
it then stands for just as many milliseconds (`Settings.parseSpan_reads`).
-/

namespace SuiteBridge

open Text (Numeral Pads isDigit trim trimChars)

namespace Span

variable {raw : String} {cs number suffix : List Char} {n : Nat} {time : TimeUnit}

/-! ## What is written -/

/-- `IsUnit suffix time`: the unit of time is written like this behind a number. Seconds need not be
written. -/
inductive IsUnit : List Char → TimeUnit → Prop
  | unwritten : IsUnit [] (.seconds 1)
  | milliseconds : IsUnit ['m', 's'] .milliseconds
  | seconds : IsUnit ['s'] (.seconds 1)
  | minutes : IsUnit ['m'] (.seconds 60)
  | hours : IsUnit ['h'] (.seconds 3600)
  | days : IsUnit ['d'] (.seconds 86400)

/-- A text is the number `n` and a unit behind it, perhaps with white space around both. -/
def Writes (raw : String) (n : Nat) (time : TimeUnit) : Prop :=
  ∃ number suffix, Numeral number n ∧ IsUnit suffix time ∧ Pads (number ++ suffix) raw.toList

/-- How many milliseconds a number of units are. -/
def TimeUnit.millis (n : Nat) : TimeUnit → Nat
  | .milliseconds => n
  | .seconds count => n * count * 1000

/-- The seconds in a number of units can be counted; milliseconds are not counted in seconds. -/
def TimeUnit.Holds (n : Nat) : TimeUnit → Prop
  | .milliseconds => True
  | .seconds count => n * count < Nat.pow 2 64

/-! ## Number and unit -/

/-- A text is cut into a number and one of the units in the table, or seconds without a sign. -/
theorem splitUnit_cases (cs : List Char) (rows : List (List Char × TimeUnit)) :
    ∃ suffix, cs = (splitUnit cs rows).1 ++ suffix ∧
      (suffix, (splitUnit cs rows).2) ∈ ([], .seconds 1) :: rows := by
  induction rows with
  | nil => exact ⟨[], by simp [splitUnit], List.mem_cons_self⟩
  | cons row rows ih =>
      obtain ⟨sign, unit⟩ := row
      unfold splitUnit
      split
      · rename_i digits found
        exact ⟨sign, Text.dropSuffix?_eq_some_iff.mp found,
          List.mem_cons_of_mem _ List.mem_cons_self⟩
      · obtain ⟨suffix, made, member⟩ := ih
        refine ⟨suffix, made, ?_⟩
        rcases List.mem_cons.mp member with bare | listed
        · exact bare ▸ List.mem_cons_self
        · exact List.mem_cons_of_mem _ (List.mem_cons_of_mem _ listed)

theorem isUnit_of_mem (member : (suffix, time) ∈ ([], .seconds 1) :: units) :
    IsUnit suffix time := by
  simp only [units, List.mem_cons, List.not_mem_nil, or_false, Prod.mk.injEq] at member
  rcases member with ⟨rfl, rfl⟩ | ⟨rfl, rfl⟩ | ⟨rfl, rfl⟩ | ⟨rfl, rfl⟩ | ⟨rfl, rfl⟩ | ⟨rfl, rfl⟩
  · exact .unwritten
  · exact .milliseconds
  · exact .seconds
  · exact .minutes
  · exact .hours
  · exact .days

/-- The unit behind a numeral is found. -/
theorem splitUnit_append (numeral : Numeral number n) (unit : IsUnit suffix time) :
    splitUnit (number ++ suffix) units = (number, time) := by
  obtain ⟨before, last, rfl, digit⟩ := numeral.exists_append
  -- no unit is written with a digit
  have m : 'm' ≠ last := by rintro rfl; cases digit
  have s : 's' ≠ last := by rintro rfl; cases digit
  have h : 'h' ≠ last := by rintro rfl; cases digit
  have d : 'd' ≠ last := by rintro rfl; cases digit
  have whole : before.take (before.length + 1) = before := List.take_of_length_le (Nat.le_succ _)
  cases unit <;>
    simp [splitUnit, units, Text.dropSuffix?, List.isSuffixOf, List.isPrefixOf, List.take_append,
      whole, m, s, h, d]

/-! ## What is read -/

instance (n : Nat) (time : TimeUnit) : Decidable (time.Holds n) :=
  match time with
  | .milliseconds => inferInstanceAs (Decidable True)
  | .seconds count => inferInstanceAs (Decidable (n * count < Nat.pow 2 64))

theorem IsUnit.visible (unit : IsUnit suffix time) : ∀ c ∈ suffix, Text.isSpace c = false := by
  cases unit <;> simp <;> decide

/-- What is left of a text that is written as a span. -/
theorem trimChars_of_pads (numeral : Numeral number n) (unit : IsUnit suffix time)
    (padded : Pads (number ++ suffix) raw.toList) : trimChars raw.toList = number ++ suffix :=
  Text.trimChars_eq_iff.mpr ⟨padded, Text.isTight_of_forall
    (List.forall_mem_append.mpr ⟨numeral.visible, unit.visible⟩)⟩

theorem readBelow?_bound (numeral : Numeral number n) :
    Text.readBelow? bound (String.ofList number) = if n < Nat.pow 2 64 then some n else none := by
  have own : Numeral (String.ofList number).toList n := by rwa [String.toList_ofList]
  exact own.readBelow?_eq bound

/-- A number and a unit make a span, unless one of the two counts gets too large. -/
theorem ofTrimmed_append (numeral : Numeral number n) (unit : IsUnit suffix time) :
    ofTrimmed (number ++ suffix) =
      if n < Nat.pow 2 64 then
        if time.Holds n then .ok ⟨time.millis n⟩
        else .error (.range (String.ofList (number ++ suffix)))
      else .error (.number (String.ofList number)) := by
  obtain ⟨before, last, ends, -⟩ := numeral.exists_append
  have filled : number ++ suffix ≠ [] := by simp [ends]
  simp only [ofTrimmed, if_neg filled, splitUnit_append numeral unit, readBelow?_bound numeral]
  by_cases small : n < Nat.pow 2 64
  · rw [if_pos small, if_pos small]
    cases time with
    | milliseconds => rfl
    | seconds count => rfl
  · rw [if_neg small, if_neg small]

/-- What is not written as a number and a unit is not read, and never for its range. -/
theorem ofTrimmed_of_forall_not (unlike : ∀ number suffix n time, Numeral number n →
      IsUnit suffix time → cs ≠ number ++ suffix) :
    ∃ problem, ofTrimmed cs = .error problem ∧ ∀ told, problem ≠ .range told := by
  unfold ofTrimmed
  split
  · exact ⟨.empty, rfl, nofun⟩
  · obtain ⟨suffix, made, listed⟩ := splitUnit_cases cs units
    have unread : Text.readBelow? bound (String.ofList (splitUnit cs units).1) = none := by
      rw [Option.eq_none_iff_forall_ne_some]
      intro n read
      obtain ⟨numeral, -⟩ := Text.readBelow?_eq_some_iff.mp read
      rw [String.toList_ofList] at numeral
      exact unlike _ _ _ _ numeral (isUnit_of_mem listed) made
    dsimp only
    rw [unread]
    exact ⟨_, rfl, nofun⟩

theorem parse_of_writes (writes : Writes raw n time) :
    ∃ digits, parse raw =
      if n < Nat.pow 2 64 then
        if time.Holds n then .ok ⟨time.millis n⟩ else .error (.range (trim raw))
      else .error (.number digits) := by
  obtain ⟨number, suffix, numeral, unit, padded⟩ := writes
  have left := trimChars_of_pads numeral unit padded
  refine ⟨String.ofList number, ?_⟩
  rw [parse, trim, left, ofTrimmed_append numeral unit]

theorem parse_of_forall_not_writes (unlike : ∀ n time, ¬ Writes raw n time) :
    ∃ problem, parse raw = .error problem ∧ ∀ told, problem ≠ .range told :=
  ofTrimmed_of_forall_not fun number suffix n time numeral unit left =>
    unlike n time ⟨number, suffix, numeral, unit, left ▸ Text.pads_trimChars raw.toList⟩

/-- A text is read as the span that is written in it, if both counts stay small enough. -/
theorem parse_eq_ok_iff {span : Span} :
    parse raw = .ok span ↔ ∃ n time,
      Writes raw n time ∧ n < Nat.pow 2 64 ∧ time.Holds n ∧ span.millis = time.millis n := by
  constructor
  · intro read
    by_cases written : ∃ n time, Writes raw n time
    · obtain ⟨n, time, writes⟩ := written
      obtain ⟨digits, made⟩ := parse_of_writes writes
      rw [made] at read
      split at read
      · rename_i small
        split at read
        · rename_i holds
          cases read
          exact ⟨n, time, writes, small, holds, rfl⟩
        · cases read
      · cases read
    · simp only [not_exists] at written
      obtain ⟨problem, failed, -⟩ := parse_of_forall_not_writes written
      rw [failed] at read
      cases read
  · rintro ⟨n, time, writes, small, holds, same⟩
    obtain ⟨digits, made⟩ := parse_of_writes writes
    rw [made, if_pos small, if_pos holds, ← same]

/-- A text is out of range if the number in it is small enough and the seconds are too many. -/
theorem parse_eq_range_iff {told : String} :
    parse raw = .error (.range told) ↔ told = trim raw ∧
      ∃ n time, Writes raw n time ∧ n < Nat.pow 2 64 ∧ ¬ time.Holds n := by
  constructor
  · intro failed
    by_cases written : ∃ n time, Writes raw n time
    · obtain ⟨n, time, writes⟩ := written
      obtain ⟨digits, made⟩ := parse_of_writes writes
      rw [made] at failed
      split at failed
      · rename_i small
        split at failed
        · cases failed
        · rename_i large
          cases failed
          exact ⟨rfl, n, time, writes, small, large⟩
      · cases failed
    · simp only [not_exists] at written
      obtain ⟨problem, found, other⟩ := parse_of_forall_not_writes written
      rw [found] at failed
      exact absurd (Except.error.inj failed) (other told)
  · rintro ⟨rfl, n, time, writes, small, large⟩
    obtain ⟨digits, made⟩ := parse_of_writes writes
    rw [made, if_pos small, if_neg large]

end Span

namespace Settings

open SuiteBridge.Span (Writes)

variable {raw : String}

theorem parseSpan_eq_ok_iff {span : Span} :
    parseSpan raw = .ok span ↔ Span.parse raw = .ok span := by
  unfold parseSpan
  cases Span.parse raw <;> simp

theorem parseSpan_eq_error_iff {problem : SettingsProblem} :
    parseSpan raw = .error problem ↔
      ∃ own, Span.parse raw = .error own ∧ problem = .span own := by
  unfold parseSpan
  cases Span.parse raw <;> simp [eq_comm]

theorem head?_toList_append {first rest : String} {c : Char}
    (letter : first.toList.head? = some c) : (first ++ rest).toList.head? = some c := by
  rw [String.toList_append, List.head?_append, letter, Option.some_or]

/-- The words for a span that is out of range are used for nothing else. -/
theorem message_span_eq_iff {problem : SpanProblem} {told : String} :
    (SettingsProblem.span problem).message = "invalid duration: duration out of range: " ++ told ↔
      problem = .range told := by
  have words : "invalid duration: duration out of range: " ++ told =
      "invalid duration: " ++ ("duration out of range: " ++ told) := by
    rw [← String.append_assoc]
    exact congrArg (· ++ told) (by decide +kernel)
  refine (Eq.congr_right words).trans ((String.append_right_inj "invalid duration: ").trans ?_)
  constructor
  · intro said
    -- the three messages begin with different letters
    have d : ("duration out of range: " ++ told).toList.head? = some 'd' :=
      head?_toList_append (by decide +kernel)
    rw [← said] at d
    cases problem with
    | empty =>
        have e : SpanProblem.empty.message.toList.head? = some 'e' := by decide +kernel
        exact absurd (d.symm.trans e) (by decide)
    | number digits =>
        have i : (SpanProblem.number digits).message.toList.head? = some 'i' :=
          head?_toList_append (by decide +kernel)
        exact absurd (d.symm.trans i) (by decide)
    | range span => exact congrArg _ ((String.append_right_inj _).mp said)
  · rintro rfl
    rfl

/-- **A span of time is read as it is written.** This is a numeral below `2 ^ 64` and a unit, with
white space around them or not, as long as the seconds stay below `2 ^ 64` too; the span is then
just as many milliseconds. Everything else is a problem with a duration. It is said to be out of
range exactly if it is written like this and the number alone is small enough. -/
theorem parseSpan_reads (raw : String) :
    (∀ span, parseSpan raw = .ok span ↔
      ∃ n time, Writes raw n time ∧ n < Nat.pow 2 64 ∧ time.Holds n ∧ span.millis = time.millis n) ∧
    (∀ problem, parseSpan raw = .error problem → ∃ own, problem = .span own) ∧
    ∀ told, (∃ problem, parseSpan raw = .error problem ∧
        problem.message = "invalid duration: duration out of range: " ++ told) ↔
      told = trim raw ∧ ∃ n time, Writes raw n time ∧ n < Nat.pow 2 64 ∧ ¬ time.Holds n := by
  refine ⟨fun span => ?_, fun problem failed => ?_, fun told => ?_⟩
  · rw [parseSpan_eq_ok_iff, Span.parse_eq_ok_iff]
  · obtain ⟨own, -, rfl⟩ := parseSpan_eq_error_iff.mp failed
    exact ⟨own, rfl⟩
  · rw [← Span.parse_eq_range_iff]
    constructor
    · rintro ⟨problem, failed, said⟩
      obtain ⟨own, found, rfl⟩ := parseSpan_eq_error_iff.mp failed
      rwa [message_span_eq_iff.mp said] at found
    · intro failed
      exact ⟨_, parseSpan_eq_error_iff.mpr ⟨_, failed, rfl⟩, message_span_eq_iff.mpr rfl⟩

/-- Twelve hours are read with a sign, zeros and white space; the greatest number is out of range as
hours; and a space before the unit makes a text unreadable. -/
theorem parseSpan_reads_twelveHours :
    Writes "\u3000+0012h\n" 12 (.seconds 3600) ∧
    parseSpan "\u3000+0012h\n" = .ok ⟨43200000⟩ ∧
    (∃ problem, parseSpan "18446744073709551615h" = .error problem ∧
      problem.message = "invalid duration: duration out of range: 18446744073709551615h") ∧
    ∃ own, parseSpan "5 s" = .error (.span own) := by
  have zeros : Numeral ['+', '0', '0', '1', '2'] 12 :=
    .signed (List.cons_ne_nil _ _) (List.all_eq_true.mp rfl)
  have written : Writes "\u3000+0012h\n" 12 (.seconds 3600) :=
    ⟨_, _, zeros, .hours, ['\u3000'], ['\n'], List.all_eq_true.mp rfl, List.all_eq_true.mp rfl, rfl⟩
  have greatest : Numeral "18446744073709551615".toList 18446744073709551615 :=
    .digits (List.cons_ne_nil _ _) (List.all_eq_true.mp rfl)
  have large : Writes "18446744073709551615h" 18446744073709551615 (.seconds 3600) :=
    ⟨_, _, greatest, .hours, .refl _⟩
  obtain ⟨problem, failed⟩ : ∃ problem, parseSpan "5 s" = .error problem := ⟨_, rfl⟩
  obtain ⟨own, rfl⟩ := (parseSpan_reads "5 s").2.1 problem failed
  refine ⟨written, ?_, ?_, own, failed⟩
  · exact ((parseSpan_reads _).1 _).mpr ⟨_, _, written, by decide, by decide, rfl⟩
  · exact ((parseSpan_reads _).2.2 "18446744073709551615h").mpr
      ⟨rfl, _, _, large, by decide, by decide⟩

end Settings

end SuiteBridge
