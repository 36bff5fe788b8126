import Mathlib.Data.List.TakeWhile
import SuiteBridge.Proofs.Calendar.Months
import SuiteBridge.Proofs.Text.Blank
import SuiteBridge.Proofs.Text.Numeral

/-!
# Timestamps as they are written

A `Stamp` is the six numbers of a timestamp, and `Writes` says in which texts they may stand: as
`YYYY-MM-DDTHH:MM:SS`, perhaps with a fraction and an offset behind it and white space around it.

Each part of such a text is found where it is. The white space and the offset go first; an offset is
not to be found where there is none, since the time of day has no sign in it. Then the fraction
goes, and six numbers are left (`parseTimestamp_eq`). Whether the calendar has them is said by the
lengths of its months, without computing them (`OnCalendar`).
-/

namespace SuiteBridge.Calendar

open Text (digitsValue isDigit isSpace padded)

/-! ## The calendar -/

/-- Every fourth year is a leap year, but of the hundredth ones every fourth only. -/
def IsLeapYear (year : Nat) : Prop :=
  400 ∣ year ∨ 4 ∣ year ∧ ¬ 100 ∣ year

instance (year : Nat) : Decidable (IsLeapYear year) :=
  inferInstanceAs (Decidable (_ ∨ _))

/-- The days of the months of a year, from January to December. -/
def monthLengths (year : Nat) : List Nat :=
  [31, if IsLeapYear year then 29 else 28, 31, 30, 31, 30, 31, 31, 30, 31, 30, 31]

theorem isLeap_eq (year : Nat) : isLeap year = decide (IsLeapYear year) := by
  rw [Bool.eq_iff_iff, decide_eq_true_iff]
  simp only [isLeap, IsLeapYear, Bool.and_eq_true, Bool.or_eq_true, beq_iff_eq, bne_iff_ne]
  omega

theorem getElem?_monthLengths (year : Nat) {month : Nat} (least : 1 ≤ month) (most : month ≤ 12) :
    (monthLengths year)[month - 1]? = some (daysIn year month) := by
  unfold daysIn
  rw [isLeap_eq]
  obtain rfl | rfl | rfl | rfl | rfl | rfl | rfl | rfl | rfl | rfl | rfl | rfl :
      month = 1 ∨ month = 2 ∨ month = 3 ∨ month = 4 ∨ month = 5 ∨ month = 6 ∨ month = 7 ∨
        month = 8 ∨ month = 9 ∨ month = 10 ∨ month = 11 ∨ month = 12 := by omega
  all_goals simp [monthLengths]

/-- The six numbers of a timestamp, as large as their digits allow. -/
structure Stamp where
  year : Fin 10000
  month : Fin 100
  day : Fin 100
  hour : Fin 100
  minute : Fin 100
  second : Fin 100
  deriving DecidableEq

namespace Stamp

/-- The year has such a month, the month has such a day, and the day has such an hour and minute. -/
structure OnCalendar (stamp : Stamp) : Prop where
  month : 1 ≤ stamp.month.val
  day : ∃ days, (monthLengths stamp.year)[stamp.month.val - 1]? = some days ∧
    1 ≤ stamp.day.val ∧ stamp.day.val ≤ days
  hour : stamp.hour.val < 24
  minute : stamp.minute.val < 60

/-- The date-time of the numbers, which has no part of a second. -/
def dateTime (stamp : Stamp) : DateTime :=
  ⟨stamp.year.val, stamp.month, stamp.day, stamp.hour, stamp.minute, stamp.second, 0⟩

variable {stamp : Stamp}

theorem onCalendar_iff :
    stamp.OnCalendar ↔
      isDate stamp.year.val stamp.month stamp.day = true ∧ stamp.hour.val ≤ 23 ∧
        stamp.minute.val ≤ 59 := by
  have years := stamp.year.isLt
  rw [DateTime.isDate_iff]
  constructor
  · intro ⟨month, ⟨days, found, day⟩, hour, minute⟩
    have twelve : stamp.month.val ≤ 12 := by
      obtain ⟨within, -⟩ := List.getElem?_eq_some_iff.mp found
      have length : (monthLengths stamp.year).length = 12 := rfl
      omega
    rw [getElem?_monthLengths _ month twelve] at found
    cases found
    unfold leastYear greatestYear
    exact ⟨⟨by omega, ⟨month, twelve⟩, day⟩, by omega, by omega⟩
  · rintro ⟨⟨-, ⟨month, twelve⟩, day⟩, hour, minute⟩
    exact ⟨month, ⟨_, getElem?_monthLengths _ month twelve, day⟩, by omega, by omega⟩

/-! ## The text of a timestamp -/

/-- The hour, the minute and the second, `HH:MM:SS`. -/
def timeText (stamp : Stamp) : List Char :=
  padded 2 stamp.hour ++ ':' :: (padded 2 stamp.minute ++ ':' :: padded 2 stamp.second)

/-- All six numbers, `YYYY-MM-DDTHH:MM:SS`. -/
def text (stamp : Stamp) : List Char :=
  padded 4 stamp.year ++ '-' :: (padded 2 stamp.month ++ '-' :: (padded 2 stamp.day ++
    'T' :: stamp.timeText))

end Stamp

/-- The fraction of a second: a point and any number of digits, or nothing at all. -/
inductive IsFraction : List Char → Prop
  | none : IsFraction []
  | digits {digits : List Char} : (∀ c ∈ digits, isDigit c = true) → IsFraction ('.' :: digits)

/-- The offset of a zone: a letter for universal time, a sign with hours and minutes, or nothing at
all. -/
inductive IsZone : List Char → Prop
  | none : IsZone []
  | capital : IsZone ['Z']
  | small : IsZone ['z']
  | offset {sign h₁ h₂ m₁ m₂ : Char} : sign = '+' ∨ sign = '-' →
    (∀ c ∈ [h₁, h₂, m₁, m₂], isDigit c = true) → IsZone [sign, h₁, h₂, ':', m₁, m₂]

/-- `Writes raw stamp`: the text gives the numbers of the stamp, perhaps with a fraction and an
offset behind them and white space around all of it. -/
inductive Writes : String → Stamp → Prop
  | intro (before fraction zone behind : List Char) (stamp : Stamp) :
    (∀ c ∈ before, isSpace c = true) → IsFraction fraction → IsZone zone →
    (∀ c ∈ behind, isSpace c = true) →
    Writes (String.ofList (before ++ (stamp.text ++ fraction ++ zone) ++ behind)) stamp

/-! ## The characters of a timestamp -/

/-- A character that stands in a time of day or in the fraction behind it. -/
def IsTimeMark (c : Char) : Prop :=
  isDigit c = true ∨ c = ':' ∨ c = '.'

/-- A character that stands in a timestamp. -/
def IsMark (c : Char) : Prop :=
  IsTimeMark c ∨ c = '-' ∨ c = '+' ∨ c = 'T' ∨ c = 'Z' ∨ c = 'z'

theorem ne_of_isTimeMark {c : Char} (mark : IsTimeMark c) :
    c ≠ '+' ∧ c ≠ '-' ∧ c ≠ 'Z' ∧ c ≠ 'z' := by
  refine ⟨?_, ?_, ?_, ?_⟩ <;> rintro rfl <;> revert mark <;> simp [IsTimeMark, isDigit]

theorem isSpace_of_isMark {c : Char} (mark : IsMark c) : isSpace c = false := by
  rcases mark with (digit | rfl | rfl) | rfl | rfl | rfl | rfl | rfl
  · have := Text.toNat_of_isDigit digit
    exact Text.isSpace_eq_false (by omega) (by omega)
  all_goals rfl

theorem isTimeMark_padded {width n : Nat} {c : Char} (member : c ∈ padded width n) :
    IsTimeMark c :=
  Or.inl (Text.isDigit_of_mem_padded member)

theorem Stamp.isTimeMark_timeText {stamp : Stamp} {c : Char} (member : c ∈ stamp.timeText) :
    IsTimeMark c := by
  simp only [timeText, List.mem_append, List.mem_cons] at member
  rcases member with digit | rfl | digit | rfl | digit
  · exact isTimeMark_padded digit
  · exact Or.inr (Or.inl rfl)
  · exact isTimeMark_padded digit
  · exact Or.inr (Or.inl rfl)
  · exact isTimeMark_padded digit

theorem Stamp.isMark_text {stamp : Stamp} {c : Char} (member : c ∈ stamp.text) :
    IsMark c ∧ c ≠ '.' := by
  have digits : ∀ {width n : Nat}, c ∈ padded width n → IsMark c ∧ c ≠ '.' := by
    intro width n digit
    refine ⟨Or.inl (isTimeMark_padded digit), ?_⟩
    rintro rfl
    exact absurd (Text.isDigit_of_mem_padded digit) (by decide)
  simp only [text, timeText, List.mem_append, List.mem_cons] at member
  rcases member with digit | rfl | digit | rfl | digit | rfl | digit | rfl | digit | rfl | digit
  · exact digits digit
  · simp [IsMark]
  · exact digits digit
  · simp [IsMark]
  · exact digits digit
  · simp [IsMark]
  · exact digits digit
  · simp [IsMark, IsTimeMark]
  · exact digits digit
  · simp [IsMark, IsTimeMark]
  · exact digits digit

theorem IsFraction.isTimeMark {fraction : List Char} (written : IsFraction fraction) {c : Char}
    (member : c ∈ fraction) : IsTimeMark c := by
  cases written with
  | none => cases member
  | digits all =>
      rcases List.mem_cons.mp member with rfl | digit
      · exact Or.inr (Or.inr rfl)
      · exact Or.inl (all c digit)

theorem IsZone.isMark {zone : List Char} (written : IsZone zone) {c : Char} (member : c ∈ zone) :
    IsMark c := by
  cases written with
  | none => cases member
  | capital => simp_all [IsMark]
  | small => simp_all [IsMark]
  | @offset sign h₁ h₂ m₁ m₂ signed digits =>
      by_cases colon : c = ':'
      · exact Or.inl (Or.inr (Or.inl colon))
      · by_cases first : c = sign
        · rw [first]
          rcases signed with rfl | rfl
          · exact Or.inr (Or.inr (Or.inl rfl))
          · exact Or.inr (Or.inl rfl)
        · refine Or.inl (Or.inl (digits c ?_))
          simpa [colon, first] using member

/-! ## The parts of a timestamp -/

theorem exists_sign_of_isOffset {cs : List Char} (offset : isOffset cs = true) :
    ∃ c ∈ cs, c = '+' ∨ c = '-' := by
  unfold isOffset at offset
  split at offset
  · rename_i sign _ _ _ _
    exact ⟨sign, List.mem_cons_self, by simpa using (Bool.and_eq_true_iff.mp offset).1⟩
  · cases offset

/-- There is no offset at the end of a time of day, with a fraction or not. -/
theorem withoutOffset_of_isTimeMark {date time : List Char} (long : 6 ≤ time.length)
    (marks : ∀ c ∈ time, IsTimeMark c) : withoutOffset (date ++ time) = date ++ time := by
  have nonempty : time ≠ [] := List.ne_nil_of_length_pos (by omega)
  have last : (date ++ time).getLast? = some (time.getLast nonempty) := by
    rw [List.getLast?_append, List.getLast?_eq_some_getLast nonempty, Option.some_or]
  obtain ⟨-, -, capital, small⟩ := ne_of_isTimeMark (marks _ (List.getLast_mem nonempty))
  -- the last six characters are all of the time, and an offset needs a sign
  have unsigned : isOffset ((date ++ time).drop ((date ++ time).length - 6)) = false := by
    rw [Bool.eq_false_iff]
    intro offset
    obtain ⟨c, member, sign⟩ := exists_sign_of_isOffset offset
    rw [List.drop_append, List.length_append,
      List.drop_eq_nil_of_le (by omega), List.nil_append] at member
    obtain ⟨plus, minus, -, -⟩ := ne_of_isTimeMark (marks c (List.mem_of_mem_drop member))
    exact sign.elim plus minus
  unfold withoutOffset
  rw [last, unsigned]
  simp [capital, small]

theorem Stamp.withoutOffset_text (stamp : Stamp) {fraction : List Char}
    (written : IsFraction fraction) :
    withoutOffset (stamp.text ++ fraction) = stamp.text ++ fraction := by
  have two : ∀ n : Fin 100, (padded 2 n).length = 2 :=
    fun n => Text.length_padded (by decide) n.isLt
  have length : stamp.timeText.length = 8 := by
    simp [timeText, two]
  have marks : ∀ c ∈ stamp.timeText ++ fraction, IsTimeMark c := by
    intro c member
    rcases List.mem_append.mp member with time | fractional
    · exact isTimeMark_timeText time
    · exact written.isTimeMark fractional
  have long : 6 ≤ (stamp.timeText ++ fraction).length := by
    rw [List.length_append]
    omega
  have parted : stamp.text ++ fraction = padded 4 stamp.year ++ '-' :: (padded 2 stamp.month ++
      '-' :: (padded 2 stamp.day ++ ['T'])) ++ (stamp.timeText ++ fraction) := by
    simp [text]
  rw [parted, withoutOffset_of_isTimeMark long marks]

/-- The offset is dropped that stands behind a text without one. -/
theorem IsZone.withoutOffset_append {zone : List Char} (written : IsZone zone) {cs : List Char}
    (plain : withoutOffset cs = cs) : withoutOffset (cs ++ zone) = cs := by
  cases written with
  | none => rw [List.append_nil, plain]
  | capital => simp [withoutOffset]
  | small => simp [withoutOffset]
  | @offset sign h₁ h₂ m₁ m₂ signed digits =>
      have last := digits m₂ (by simp)
      have capital : m₂ ≠ 'Z' := (ne_of_isTimeMark (Or.inl last)).2.2.1
      have small : m₂ ≠ 'z' := (ne_of_isTimeMark (Or.inl last)).2.2.2
      have offset : isOffset [sign, h₁, h₂, ':', m₁, m₂] = true := by
        have all := List.all_eq_true.mpr digits
        rcases signed with rfl | rfl <;> simpa [isOffset] using all
      have length : (cs ++ [sign, h₁, h₂, ':', m₁, m₂]).length - 6 = cs.length := by simp
      unfold withoutOffset
      rw [length, List.drop_left, List.take_left, offset]
      simp [capital, small]

theorem IsFraction.withoutFraction_append {fraction : List Char} (written : IsFraction fraction)
    (stamp : Stamp) : withoutFraction (stamp.text ++ fraction) = stamp.text := by
  have whole : ∀ c ∈ stamp.text, (c != '.') = true :=
    fun c member => bne_iff_ne.mpr (Stamp.isMark_text member).2
  unfold withoutFraction
  rw [List.takeWhile_append_of_pos whole]
  cases written with
  | none => simp
  | digits all => simp

/-! ## The six numbers -/

section Numbers

variable {width n : Nat}

theorem exists_padded_eq_cons (positive : 0 < width) (small : n < Nat.pow 10 width) :
    ∃ c cs, padded width n = c :: cs ∧ IsTimeMark c := by
  obtain ⟨c, cs, made⟩ := List.exists_cons_of_length_pos
    (Nat.lt_of_lt_of_eq positive (Text.length_padded positive small).symm)
  exact ⟨c, cs, made, isTimeMark_padded (made ▸ List.mem_cons_self)⟩

theorem trimStart_padded_append (positive : 0 < width) (small : n < Nat.pow 10 width)
    (rest : List Char) : Text.trimStart (padded width n ++ rest) = padded width n ++ rest := by
  obtain ⟨c, cs, made, mark⟩ := exists_padded_eq_cons positive small
  rw [made]
  exact Text.dropWhile_eq_self_of_head? fun d head => by
    cases head
    exact isSpace_of_isMark (Or.inl mark)

/-- A number with all its digits is read, whatever comes behind it. -/
theorem numberField_padded_append (positive : 0 < width) (small : n < Nat.pow 10 width)
    (rest : List Char) : numberField width (padded width n ++ rest) = some (n, rest) := by
  have digits : ∀ c ∈ padded width n, isDigit c = true := fun c => Text.isDigit_of_mem_padded
  have length := Text.length_padded positive small
  have nonempty : padded width n ≠ [] := List.ne_nil_of_length_pos (by omega)
  have taken : ((padded width n ++ rest).takeWhile isDigit).take width = padded width n := by
    rw [List.takeWhile_append_of_pos digits, List.take_left' length]
  simp [numberField, trimStart_padded_append positive small, taken, nonempty,
    Text.digitsValue_padded]

theorem yearField_padded_append (small : n < 10000) (rest : List Char) :
    yearField (padded 4 n ++ rest) = some ((n : Int), rest) := by
  have read : numberField 4 (padded 4 n ++ rest) = some (n, rest) :=
    numberField_padded_append (by decide) small rest
  have start : Text.trimStart (padded 4 n ++ rest) = padded 4 n ++ rest :=
    trimStart_padded_append (by decide) small rest
  obtain ⟨c, cs, made, mark⟩ : ∃ c cs, padded 4 n = c :: cs ∧ IsTimeMark c :=
    exists_padded_eq_cons (by decide) small
  obtain ⟨plus, minus, -, -⟩ := ne_of_isTimeMark mark
  rw [made, List.cons_append] at read start
  unfold yearField
  rw [made, List.cons_append, start]
  simp [plus, minus, read]

theorem fieldAfter_padded_append (small : n < 100) (mark : Char) (rest : List Char) :
    fieldAfter mark (mark :: (padded 2 n ++ rest)) = some (n, rest) := by
  have read : numberField 2 (padded 2 n ++ rest) = some (n, rest) :=
    numberField_padded_append (by decide) small rest
  simpa [fieldAfter] using read

end Numbers

theorem Stamp.readFields?_text (stamp : Stamp) :
    readFields? stamp.text =
      ofFields? stamp.year.val stamp.month stamp.day stamp.hour stamp.minute stamp.second := by
  have last := fieldAfter_padded_append stamp.second.isLt ':' []
  rw [List.append_nil] at last
  simp [readFields?, text, timeText, yearField_padded_append stamp.year.isLt,
    fieldAfter_padded_append stamp.month.isLt, fieldAfter_padded_append stamp.day.isLt,
    fieldAfter_padded_append stamp.hour.isLt, fieldAfter_padded_append stamp.minute.isLt, last]

/-- Wherever the numbers of a stamp are written, they are read. -/
theorem parseTimestamp_eq {raw : String} {stamp : Stamp} (writes : Writes raw stamp) :
    parseTimestamp raw =
      ofFields? stamp.year.val stamp.month stamp.day stamp.hour stamp.minute stamp.second := by
  obtain ⟨before, fraction, zone, behind, stamp, blank, isFraction, isZone, also⟩ := writes
  have marks : ∀ c ∈ stamp.text ++ fraction ++ zone, isSpace c = false := by
    intro c member
    rcases List.mem_append.mp member with earlier | zoned
    · rcases List.mem_append.mp earlier with written | fractional
      · exact isSpace_of_isMark (Stamp.isMark_text written).1
      · exact isSpace_of_isMark (Or.inl (isFraction.isTimeMark fractional))
    · exact isSpace_of_isMark (isZone.isMark zoned)
  have trimmed : Text.trimChars (before ++ (stamp.text ++ fraction ++ zone) ++ behind) =
      stamp.text ++ fraction ++ zone :=
    Text.trimChars_append blank also (fun c head => marks c (List.mem_of_mem_head? head))
      (fun c last => marks c (List.mem_of_getLast? last))
  have plain : withoutOffset (stamp.text ++ fraction) = stamp.text ++ fraction :=
    stamp.withoutOffset_text isFraction
  rw [parseTimestamp, String.toList_ofList, trimmed, isZone.withoutOffset_append plain,
    isFraction.withoutFraction_append, stamp.readFields?_text]

/-- **A timestamp stands for the date-time that is written in it.** Its fraction and its offset do
not matter. Where the calendar or the clock has no such month, day, hour or minute, it stands for
nothing. -/
theorem parseTimestamp_of_writes {raw : String} {stamp : Stamp} (writes : Writes raw stamp) :
    (stamp.OnCalendar → stamp.second.val < 60 → parseTimestamp raw = some stamp.dateTime) ∧
      (¬ stamp.OnCalendar → parseTimestamp raw = none) := by
  rw [parseTimestamp_eq writes, Stamp.onCalendar_iff]
  constructor
  · rintro ⟨date, hour, minute⟩ second
    have within : stamp.second.val ≤ 60 := by omega
    have unleaping : stamp.second.val ≠ 60 := by omega
    rw [ofFields?, if_pos ⟨date, hour, minute, within⟩, if_neg unleaping]
    rfl
  · intro unlike
    rw [ofFields?, if_neg]
    rintro ⟨date, hour, minute, -⟩
    exact unlike ⟨date, hour, minute⟩

/-- Seven seconds past the last minute but one of a leap day. -/
def leapDay : Stamp := ⟨2024, 2, 29, 23, 59, 7⟩

/-- The day that is missing in the year before. -/
def missingDay : Stamp := ⟨2023, 2, 29, 0, 0, 0⟩

/-- The leap day is read, in wide and narrow white space, with a fraction and half an hour more than
nine of offset; the missing day is not. -/
theorem parseTimestamp_of_writes_leapDay :
    Writes "\u3000 2024-02-29T23:59:07.250-09:30\n" leapDay ∧ leapDay.OnCalendar ∧
    parseTimestamp "\u3000 2024-02-29T23:59:07.250-09:30\n" = some ⟨2024, 2, 29, 23, 59, 7, 0⟩ ∧
    Writes "2023-02-29T00:00:00z" missingDay ∧ ¬ missingDay.OnCalendar ∧
    parseTimestamp "2023-02-29T00:00:00z" = none := by
  have written : Writes "\u3000 2024-02-29T23:59:07.250-09:30\n" leapDay :=
    Writes.intro ['\u3000', ' '] ['.', '2', '5', '0'] ['-', '0', '9', ':', '3', '0'] ['\n'] leapDay
      (List.all_eq_true.mp rfl) (.digits (List.all_eq_true.mp rfl))
      (.offset (Or.inr rfl) (List.all_eq_true.mp rfl)) (List.all_eq_true.mp rfl)
  have missing : Writes "2023-02-29T00:00:00z" missingDay :=
    Writes.intro [] [] ['z'] [] missingDay nofun .none .small nofun
  have present : leapDay.OnCalendar := ⟨by decide, ⟨29, rfl, by decide⟩, by decide, by decide⟩
  have absent : ¬ missingDay.OnCalendar := by
    rintro ⟨-, ⟨days, found, -, most⟩, -, -⟩
    cases found
    exact absurd most (by decide)
  exact ⟨written, present, (parseTimestamp_of_writes written).1 present (by decide), missing,
    absent, (parseTimestamp_of_writes missing).2 absent⟩

end SuiteBridge.Calendar
