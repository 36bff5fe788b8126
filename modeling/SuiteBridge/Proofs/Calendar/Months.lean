import Mathlib.Data.List.Basic
import SuiteBridge.Calendar.Timestamp

/-!
# Going back by calendar months

The date-times that there are (`DateTime.Valid`) are ordered by three numbers: the months up to
their month, the day in it and the time of day (`DateTime.lt_iff`).

`MonthsBefore` says without computing it which date-time lies some months before another: the month
is counted back, the time of day stays, and the day stays unless the month is too short for it, in
which case it is the last day of the month. There is such a date-time unless the years do not reach
back so far (`exists_monthsBefore_iff`), and it is what going back gives
(`minusMonths?_eq_some_iff`).
-/

namespace SuiteBridge.Calendar

namespace DateTime

/-! ## The order of date-times -/

/-- A date of the calendar with a time of the clock. A leap second adds a billion nanoseconds. -/
structure Valid (t : DateTime) : Prop where
  date : isDate t.year t.month t.day = true
  hour : t.hour < 24
  minute : t.minute < 60
  second : t.second < 60
  nanos : t.nanos < 2000000000

/-- The months from the start of the year 0 to the month of a date-time. -/
def monthIndex (t : DateTime) : Int :=
  t.year * 12 + t.month - 1

/-- The time of day in nanoseconds, with room for a leap second in every second. -/
def clock (t : DateTime) : Nat :=
  ((t.hour * 60 + t.minute) * 60 + t.second) * 2000000000 + t.nanos

variable {s t now : DateTime} {months : Nat}

theorem isDate_iff {year : Int} {month day : Nat} :
    isDate year month day = true ↔
      (leastYear ≤ year ∧ year ≤ greatestYear) ∧ (1 ≤ month ∧ month ≤ 12) ∧
        1 ≤ day ∧ day ≤ daysIn year month := by
  simp [isDate, and_assoc]

theorem Valid.year (valid : t.Valid) : leastYear ≤ t.year ∧ t.year ≤ greatestYear :=
  (isDate_iff.mp valid.date).1

theorem Valid.month (valid : t.Valid) : 1 ≤ t.month ∧ t.month ≤ 12 :=
  (isDate_iff.mp valid.date).2.1

theorem Valid.day (valid : t.Valid) : 1 ≤ t.day ∧ t.day ≤ daysIn t.year t.month :=
  (isDate_iff.mp valid.date).2.2

theorem monthIndex_lt_iff (first : s.Valid) (second : t.Valid) :
    s.monthIndex < t.monthIndex ↔
      s.year < t.year ∨ s.year = t.year ∧ (s.month : Int) < t.month := by
  have := first.month
  have := second.month
  unfold monthIndex
  omega

theorem monthIndex_eq_iff (first : s.Valid) (second : t.Valid) :
    s.monthIndex = t.monthIndex ↔ s.year = t.year ∧ s.month = t.month := by
  have := first.month
  have := second.month
  unfold monthIndex
  omega

theorem clock_lt_iff (first : s.Valid) (second : t.Valid) :
    s.clock < t.clock ↔
      (s.hour : Int) < t.hour ∨ (s.hour : Int) = t.hour ∧
        ((s.minute : Int) < t.minute ∨ (s.minute : Int) = t.minute ∧
          ((s.second : Int) < t.second ∨ (s.second : Int) = t.second ∧
            (s.nanos : Int) < t.nanos)) := by
  obtain ⟨-, _, _, _, _⟩ := first
  obtain ⟨-, _, _, _, _⟩ := second
  unfold clock
  omega

theorem clock_eq_iff (first : s.Valid) (second : t.Valid) :
    s.clock = t.clock ↔
      s.hour = t.hour ∧ s.minute = t.minute ∧ s.second = t.second ∧ s.nanos = t.nanos := by
  obtain ⟨-, _, _, _, _⟩ := first
  obtain ⟨-, _, _, _, _⟩ := second
  unfold clock
  omega

/-- **Date-times are ordered by month, day and time of day.** -/
theorem lt_iff (first : s.Valid) (second : t.Valid) :
    s < t ↔ s.monthIndex < t.monthIndex ∨ s.monthIndex = t.monthIndex ∧
      (s.day < t.day ∨ s.day = t.day ∧ s.clock < t.clock) := by
  have parts : s < t ↔ s.key < t.key := Iff.rfl
  rw [parts, monthIndex_lt_iff first second, monthIndex_eq_iff first second,
    clock_lt_iff first second]
  simp only [key, List.cons_lt_cons_iff, List.not_lt_nil, and_false, or_false]
  omega

theorem Valid.le_monthIndex (valid : t.Valid) : leastYear * 12 ≤ t.monthIndex := by
  have := valid.year
  have := valid.month
  unfold monthIndex
  omega

theorem valid_earliest : earliest.Valid :=
  ⟨by decide, by decide, by decide, by decide, by decide⟩

/-- There is no date-time before the earliest. -/
theorem not_lt_earliest (valid : t.Valid) : ¬ t < earliest := by
  have := valid.le_monthIndex
  have := valid.day
  have index : earliest.monthIndex = leastYear * 12 := rfl
  have day : earliest.day = 1 := rfl
  have clock : earliest.clock = 0 := rfl
  rw [lt_iff valid valid_earliest, index, day, clock]
  omega

/-! ## Months before -/

/-- The date-time some months before another. The day is the same, or the last day of the month if
the month is too short for it. -/
structure MonthsBefore (now : DateTime) (months : Nat) (t : DateTime) : Prop where
  valid : t.Valid
  month : t.monthIndex + months = now.monthIndex
  day : t.day = min now.day (daysIn t.year t.month)
  clock : t.clock = now.clock

theorem one_le_daysIn (year : Int) (month : Nat) : 1 ≤ daysIn year month := by
  unfold daysIn
  split_ifs <;> decide

/-- The year and the month of a number of months. -/
theorem fdiv_fmod_twelve (total year : Int) (month : Nat) :
    total.fdiv 12 = year ∧ (total.fmod 12).toNat + 1 = month ↔
      total = year * 12 + month - 1 ∧ 1 ≤ month ∧ month ≤ 12 := by
  rw [Int.fdiv_eq_ediv_of_nonneg _ (by decide), Int.fmod_eq_emod_of_nonneg _ (by decide)]
  omega

/-- Going back by some months gives the date-time that lies so many months before. -/
theorem minusMonths?_eq_some_iff (valid : now.Valid) :
    now.minusMonths? months = some t ↔ MonthsBefore now months t := by
  unfold minusMonths?
  generalize counted : now.year * 12 + (now.month : Int) - 1 - months = total
  constructor
  · intro found
    split at found
    · cases found
    · simp only at found
      split at found
      · rename_i _ date
        cases found
        obtain ⟨month, -, -⟩ := (fdiv_fmod_twelve total _ _).mp ⟨rfl, rfl⟩
        refine ⟨⟨date, valid.hour, valid.minute, valid.second, valid.nanos⟩, ?_, rfl, rfl⟩
        unfold monthIndex
        simp only
        omega
      · cases found
  · intro before
    have bounds := before.valid.year
    have month := before.valid.month
    have index := before.month
    have upper := valid.year
    have later := valid.month
    unfold monthIndex at index
    unfold leastYear greatestYear at bounds upper
    -- between two years that there are lie fewer months than the bound on what is taken back
    obtain ⟨sameYear, sameMonth⟩ := (fdiv_fmod_twelve total t.year t.month).mpr (by omega)
    obtain ⟨hour, minute, second, nanos⟩ := (clock_eq_iff before.valid valid).mp before.clock
    rw [if_neg (by omega)]
    simp only [sameYear, sameMonth, ← before.day, before.valid.date, if_true, ← hour, ← minute,
      ← second, ← nanos]

/-- The years reach back far enough exactly if the month is not before the first one. -/
theorem exists_monthsBefore_iff (valid : now.Valid) :
    (∃ t, MonthsBefore now months t) ↔ leastYear * 12 + months ≤ now.monthIndex := by
  constructor
  · intro ⟨t, before⟩
    have := before.valid.le_monthIndex
    rw [← before.month]
    omega
  · intro reached
    have := valid.year
    have := valid.month
    have := valid.day
    obtain ⟨month, least, most⟩ :=
      (fdiv_fmod_twelve (now.monthIndex - months) _ _).mp ⟨rfl, rfl⟩
    generalize (now.monthIndex - months).fdiv 12 = year at month
    generalize ((now.monthIndex - months).fmod 12).toNat + 1 = count at month least most
    have days := one_le_daysIn year count
    have date : isDate year count (min now.day (daysIn year count)) = true := by
      rw [isDate_iff]
      unfold monthIndex at month reached
      omega
    exact ⟨{ now with year, month := count, day := min now.day (daysIn year count) },
      ⟨date, valid.hour, valid.minute, valid.second, valid.nanos⟩,
      by simp only [monthIndex] at month ⊢; omega, rfl, rfl⟩

end DateTime

/-! ## Timestamps -/

theorem valid_of_ofFields? {year : Int} {month day hour minute second : Nat} {t : DateTime}
    (made : ofFields? year month day hour minute second = some t) : t.Valid := by
  unfold ofFields? at made
  split at made
  · rename_i fits
    obtain ⟨date, hours, minutes, seconds⟩ := fits
    split at made
    · cases made
      refine ⟨date, ?_, ?_, ?_, ?_⟩ <;> dsimp only <;> omega
    · cases made
      refine ⟨date, ?_, ?_, ?_, ?_⟩ <;> dsimp only <;> omega
  · cases made

/-- A timestamp that can be read gives a date-time that there is. -/
theorem valid_of_parseTimestamp {raw : String} {t : DateTime}
    (read : parseTimestamp raw = some t) : t.Valid := by
  unfold parseTimestamp readFields? at read
  simp only [Option.bind_eq_bind, Option.bind_eq_some_iff] at read
  obtain ⟨_, _, _, _, _, _, _, _, _, _, _, _, made⟩ := read
  split at made
  · exact valid_of_ofFields? made
  · cases made

end SuiteBridge.Calendar
