import Mathlib.Tactic.MkIffOfInductiveProp
import SuiteBridge.Entity.Recency
import SuiteBridge.Proofs.Calendar.Months

/-!
# The recency window

A list of entities is sifted at a cutoff: each entity is kept, passed over as too old, or named in a
warning because it cannot be dated (`Recency.Sifts`). The cutoff lies some calendar months before
now, or at the beginning of time when the years do not reach back so far (`Recency.IsCutoff`).

More months never lose an entity (`Recency.filter_sifts`). The passing of time never brings one back
either, but for the last days of a month: there, all days that the month of the cutoff does not have
give cutoffs on its last day, and these follow the time of day alone
(`Recency.recent_unless_slips`).
-/

namespace SuiteBridge.Recency

open Calendar (DateTime daysIn leastYear)
open Calendar.DateTime (MonthsBefore Valid)

variable {ε : Type} [Dated ε] {now earlier later : DateTime} {months : Nat}

/-! ## The cutoff -/

/-- The date-time some months before now, or the earliest one if there is none. -/
inductive IsCutoff (now : DateTime) (months : Nat) : DateTime → Prop
  | before {t : DateTime} : MonthsBefore now months t → IsCutoff now months t
  | beginning : (∀ t, ¬ MonthsBefore now months t) → IsCutoff now months .earliest

theorem isCutoff_cutoff (valid : now.Valid) (months : Nat) :
    IsCutoff now months (cutoff now months) := by
  unfold cutoff
  cases found : now.minusMonths? months with
  | some t => exact .before ((DateTime.minusMonths?_eq_some_iff valid).mp found)
  | none =>
      refine .beginning fun t before => ?_
      rw [← DateTime.minusMonths?_eq_some_iff valid, found] at before
      cases before

/-- The cutoff is found by counting back, as far as there are months. -/
theorem cutoff_cases (valid : now.Valid) (months : Nat) :
    MonthsBefore now months (cutoff now months) ∨
      now.monthIndex < leastYear * 12 + months ∧ cutoff now months = .earliest := by
  have limit := isCutoff_cutoff valid months
  generalize cutoff now months = t at limit ⊢
  cases limit with
  | before found => exact Or.inl found
  | beginning unreached =>
      refine Or.inr ⟨?_, rfl⟩
      rw [← Int.not_le, ← DateTime.exists_monthsBefore_iff valid]
      exact not_exists.mpr unreached

theorem valid_cutoff (valid : now.Valid) (months : Nat) : (cutoff now months).Valid := by
  rcases cutoff_cases valid months with before | ⟨-, beginning⟩
  · exact before.valid
  · rw [beginning]
    exact DateTime.valid_earliest

/-- What is after the cutoff of some months is after the cutoff of more months. -/
theorem cutoff_lt_of_le {fewer more : Nat} (valid : now.Valid) (le : fewer ≤ more) {t : DateTime}
    (there : t.Valid) (recent : cutoff now fewer < t) : cutoff now more < t := by
  have first := valid_cutoff valid fewer
  have second := valid_cutoff valid more
  have least := DateTime.not_lt_earliest first
  rw [DateTime.lt_iff first there] at recent
  rw [DateTime.lt_iff second there]
  rw [DateTime.lt_iff first DateTime.valid_earliest] at least
  rcases cutoff_cases valid more with before | ⟨beyond, beginning⟩
  · rcases cutoff_cases valid fewer with sooner | ⟨beyond, -⟩
    · have index := before.month
      have other := sooner.month
      -- only in one and the same month do the days matter, and there they are clamped alike
      by_cases same : (cutoff now more).monthIndex = (cutoff now fewer).monthIndex
      · obtain ⟨year, month⟩ := (DateTime.monthIndex_eq_iff second first).mp same
        rw [before.day, before.clock, year, month, ← sooner.day, ← sooner.clock, same]
        exact recent
      · omega
    · have reached := (DateTime.exists_monthsBefore_iff valid).mp ⟨_, before⟩
      omega
  · rw [beginning]
    omega

/-! ## Sifting -/

theorem valid_of_time? {entity : ε} {t : DateTime} (dated : time? entity = some t) : t.Valid := by
  obtain ⟨raw, -, read⟩ := Option.bind_eq_some_iff.mp dated
  exact Calendar.valid_of_parseTimestamp read

theorem isRecent_iff {entity : ε} :
    isRecent now months entity = true ↔ ∃ t, time? entity = some t ∧ cutoff now months < t := by
  unfold isRecent
  cases time? entity with
  | none => simp
  | some t => simp

/-- What becomes of a list of entities, one by one: those with a time after the limit are kept,
those with an earlier time are passed over, and each that has no time is named in a warning. -/
inductive Sifts (limit : DateTime) : (entities kept : List ε) → (warnings : List Event) → Prop
  | done : Sifts limit [] [] []
  | kept {entity : ε} {t : DateTime} {rest kept : List ε} {warnings : List Event} :
    time? entity = some t → limit < t → Sifts limit rest kept warnings →
    Sifts limit (entity :: rest) (entity :: kept) warnings
  | stale {entity : ε} {t : DateTime} {rest kept : List ε} {warnings : List Event} :
    time? entity = some t → ¬ limit < t → Sifts limit rest kept warnings →
    Sifts limit (entity :: rest) kept warnings
  | undated {entity : ε} {rest kept : List ε} {warnings : List Event} :
    time? entity = none → Sifts limit rest kept warnings →
    Sifts limit (entity :: rest) kept
      (.unusableTimestamp (Dated.id entity) (Dated.timestamp entity) :: warnings)

/-- The warnings about entities that cannot be dated. -/
def undatedWarnings (entities : List ε) : List Event :=
  (entities.filter fun entity => (time? entity).isNone).map fun entity =>
    .unusableTimestamp (Dated.id entity) (Dated.timestamp entity)

/-- The warnings among some events. -/
def warningsIn (events : List Event) : List Event :=
  events.filter fun event => event.level = .warn

theorem warningsIn_events (now : DateTime) (months : Nat) (entities : List ε) :
    warningsIn (events now months entities) = undatedWarnings entities := by
  have all : ∀ event ∈ undatedWarnings entities, decide (event.level = .warn) = true := by
    intro event member
    obtain ⟨entity, -, rfl⟩ := List.mem_map.mp member
    rfl
  unfold warningsIn events
  rw [List.filter_append]
  change (undatedWarnings entities).filter _ ++ [] = _
  rw [List.filter_eq_self.mpr all, List.append_nil]

/-- The entities of a list are sifted at the cutoff. -/
theorem sifts_filter (now : DateTime) (months : Nat) (entities : List ε) :
    Sifts (cutoff now months) entities (filter now months entities) (undatedWarnings entities) := by
  induction entities with
  | nil => exact .done
  | cons entity entities ih =>
      unfold filter undatedWarnings
      cases dated : time? entity with
      | none =>
          have unkept : isRecent now months entity = false := by simp [isRecent, dated]
          simp only [List.filter_cons, unkept, dated, Option.isNone_none, if_true, List.map_cons]
          exact .undated dated ih
      | some t =>
          have judged : isRecent now months entity = decide (cutoff now months < t) := by
            simp [isRecent, dated]
          simp only [List.filter_cons, judged, dated, Option.isNone_some, decide_eq_true_eq]
          by_cases recent : cutoff now months < t
          · rw [if_pos recent]
            exact .kept dated recent ih
          · rw [if_neg recent]
            exact .stale dated recent ih

/-- **More months keep more.** Of the entities kept for some months, none is lost and none moved
when there are more months. Whatever the months and the time, each entity of a list is kept in its
place, too old, or named in one warning; and the warnings are always the same. -/
theorem filter_sifts {fewer more : Nat} (valid : now.Valid) (le : fewer ≤ more)
    (entities : List ε) :
    (filter now fewer entities).Sublist (filter now more entities) ∧
    (∀ months, IsCutoff now months (cutoff now months)) ∧
    ∃ warnings, ∀ (moment : DateTime) (months : Nat),
      warningsIn (events moment months entities) = warnings ∧
      (filter moment months entities).Sublist entities ∧
      Sifts (cutoff moment months) entities (filter moment months entities) warnings := by
  refine ⟨?_, isCutoff_cutoff valid, undatedWarnings entities, fun moment months => ?_⟩
  · apply List.monotone_filter_right
    intro entity recent
    obtain ⟨t, dated, after⟩ := isRecent_iff.mp recent
    exact isRecent_iff.mpr ⟨t, dated, cutoff_lt_of_le valid le (valid_of_time? dated) after⟩
  · exact ⟨warningsIn_events moment months entities, List.filter_sublist,
      sifts_filter moment months entities⟩

/-- A channel of which nothing is known but when it was updated. -/
def channelOf (id : String) (updatedAt : Option String) : Channel :=
  ⟨id, none, none, none, none, none, updatedAt, []⟩

/-- The last day of May in a leap year, when it begins. -/
def endOfMay : DateTime := ⟨2024, 5, 31, 0, 0, 0, 0⟩

theorem valid_endOfMay : endOfMay.Valid :=
  ⟨by decide, by decide, by decide, by decide, by decide⟩

/-- Four channels around the last day of February, two of them without a time. -/
def leapDayChannels : List Channel :=
  [channelOf "on" (some "2024-02-29T00:00:00"), channelOf "garbled" (some "29 February"),
    channelOf "after" (some "2024-02-29T00:00:01.5+09:00"), channelOf "silent" none]

/-- Three months before the end of May lies the end of February, and no year lies as many months
before as can be asked for. -/
theorem filter_sifts_leapDayChannels :
    filter endOfMay 3 leapDayChannels =
      [channelOf "after" (some "2024-02-29T00:00:01.5+09:00")] ∧
    (filter endOfMay 3 leapDayChannels).Sublist (filter endOfMay 4294967295 leapDayChannels) ∧
    IsCutoff endOfMay 3 ⟨2024, 2, 29, 0, 0, 0, 0⟩ ∧ IsCutoff endOfMay 4294967295 .earliest ∧
    Sifts (cutoff endOfMay 3) leapDayChannels (filter endOfMay 3 leapDayChannels)
      [.unusableTimestamp "garbled" (some "29 February"), .unusableTimestamp "silent" none] := by
  obtain ⟨longer, limits, warnings, sifted⟩ :=
    filter_sifts valid_endOfMay (show 3 ≤ 4294967295 by decide) leapDayChannels
  obtain ⟨told, -, sifts⟩ := sifted endOfMay 3
  have named : warningsIn (events endOfMay 3 leapDayChannels) =
      [.unusableTimestamp "garbled" (some "29 February"), .unusableTimestamp "silent" none] := rfl
  rw [← named, told]
  exact ⟨rfl, longer, limits 3, limits 4294967295, sifts⟩

/-! ## The passing of time -/

/-- A date-time that comes back into the window between two moments. They are on different days of
one month, both not before the last day of the month some months before, and it is on that day, at
a time of day that the later moment has not reached and the earlier one has. -/
@[mk_iff]
structure Slips (earlier later : DateTime) (months : Nat) (t : DateTime) : Prop where
  month : earlier.monthIndex = later.monthIndex
  day : earlier.day < later.day
  before : t.monthIndex + months = later.monthIndex
  lastDay : t.day = daysIn t.year t.month
  reached : t.day ≤ earlier.day
  ahead : later.clock < t.clock
  behind : t.clock ≤ earlier.clock

/-- With the months in reach, a date-time lies between the two cutoffs exactly if it slips. -/
theorem between_iff_slips {first second t : DateTime} (valid : earlier.Valid)
    (also : later.Valid) (le : ¬ later < earlier) (there : t.Valid)
    (sooner : MonthsBefore earlier months first) (afterwards : MonthsBefore later months second) :
    second < t ∧ ¬ first < t ↔ Slips earlier later months t := by
  obtain ⟨valid₁, month₁, day₁, clock₁⟩ := sooner
  obtain ⟨valid₂, month₂, day₂, clock₂⟩ := afterwards
  have days := there.day
  rw [DateTime.lt_iff also valid] at le
  rw [DateTime.lt_iff valid₂ there, DateTime.lt_iff valid₁ there, slips_iff]
  -- the cutoffs can only change places in one month, and there only through the clamped day
  by_cases one : first.monthIndex = second.monthIndex
  · obtain ⟨year, month⟩ := (DateTime.monthIndex_eq_iff valid₁ valid₂).mp one
    rw [year, month] at day₁
    by_cases within : t.monthIndex = second.monthIndex
    · obtain ⟨year, month⟩ := (DateTime.monthIndex_eq_iff there valid₂).mp within
      rw [year, month] at days ⊢
      omega
    · omega
  · omega

/-- A date-time lies between two cutoffs, the later of which comes first, exactly if it slips. -/
theorem cutoff_between_iff_slips (valid : earlier.Valid) (also : later.Valid)
    (le : ¬ later < earlier) {t : DateTime} (there : t.Valid) :
    cutoff later months < t ∧ ¬ cutoff earlier months < t ↔ Slips earlier later months t := by
  rcases cutoff_cases valid months with sooner | ⟨beyond, beginning⟩
  · rcases cutoff_cases also months with afterwards | ⟨beyond, -⟩
    · exact between_iff_slips valid also le there sooner afterwards
    · have reached := (DateTime.exists_monthsBefore_iff valid).mp ⟨_, sooner⟩
      rw [DateTime.lt_iff also valid] at le
      omega
  · refine iff_of_false ?_ ?_
    · intro ⟨recent, stale⟩
      have limit := valid_cutoff also months
      have least := DateTime.not_lt_earliest limit
      rw [beginning, DateTime.lt_iff DateTime.valid_earliest there] at stale
      rw [DateTime.lt_iff limit there] at recent
      rw [DateTime.lt_iff limit DateTime.valid_earliest] at least
      omega
    · intro slips
      have := there.le_monthIndex
      have := slips.month
      have := slips.before
      omega

/-- **The window moves forward, but for the last days of a month.** An entity that is kept at some
time was kept at any earlier one, unless its time slips in between; and whatever slips was too old
before and is kept again. -/
theorem recent_unless_slips (valid : earlier.Valid) (also : later.Valid)
    (le : ¬ later < earlier) (months : Nat) (entities : List ε) :
    (∀ entity ∈ filter later months entities, entity ∈ filter earlier months entities ∨
      ∃ t, time? entity = some t ∧ Slips earlier later months t) ∧
    ∀ entity ∈ entities, ∀ t, time? entity = some t → Slips earlier later months t →
      entity ∈ filter later months entities ∧ entity ∉ filter earlier months entities := by
  constructor
  · intro entity kept
    obtain ⟨member, recent⟩ := List.mem_filter.mp kept
    obtain ⟨t, dated, after⟩ := isRecent_iff.mp recent
    by_cases before : cutoff earlier months < t
    · exact Or.inl (List.mem_filter.mpr ⟨member, isRecent_iff.mpr ⟨t, dated, before⟩⟩)
    · have there := valid_of_time? dated
      exact Or.inr ⟨t, dated, (cutoff_between_iff_slips valid also le there).mp ⟨after, before⟩⟩
  · intro entity member t dated slips
    have there := valid_of_time? dated
    obtain ⟨after, before⟩ := (cutoff_between_iff_slips valid also le there).mpr slips
    refine ⟨List.mem_filter.mpr ⟨member, isRecent_iff.mpr ⟨t, dated, after⟩⟩, fun kept => ?_⟩
    obtain ⟨other, same, recent⟩ := isRecent_iff.mp (List.mem_filter.mp kept).2
    cases dated.symm.trans same
    exact before recent

/-- Noon on the day before the end of May. -/
def noonBefore : DateTime := ⟨2024, 5, 30, 12, 0, 0, 0⟩

theorem valid_noonBefore : noonBefore.Valid :=
  ⟨by decide, by decide, by decide, by decide, by decide⟩

/-- A channel of the morning of the last day of February, and one of the first of March. -/
def springChannels : List Channel :=
  [channelOf "morning" (some "2024-02-29T06:00:00"), channelOf "march" (some "2024-03-01T00:00:00")]

/-- Of the two channels, the first comes back when the day changes, and the other one stays. -/
theorem recent_unless_slips_springChannels :
    Slips noonBefore endOfMay 3 ⟨2024, 2, 29, 6, 0, 0, 0⟩ ∧
    (∃ channel ∈ springChannels, channel.id = "morning" ∧
      channel ∈ filter endOfMay 3 springChannels ∧
      channel ∉ filter noonBefore 3 springChannels) ∧
    ∃ channel ∈ filter endOfMay 3 springChannels, channel.id = "march" ∧
      channel ∈ filter noonBefore 3 springChannels := by
  obtain ⟨forward, back⟩ := recent_unless_slips valid_noonBefore valid_endOfMay
    (show ¬ endOfMay < noonBefore by decide) 3 springChannels
  have slips : Slips noonBefore endOfMay 3 ⟨2024, 2, 29, 6, 0, 0, 0⟩ :=
    ⟨by decide, by decide, by decide, by decide, by decide, by decide, by decide⟩
  refine ⟨slips, ⟨_, List.mem_cons_self, rfl, back _ List.mem_cons_self _ rfl slips⟩, ?_⟩
  have kept : channelOf "march" (some "2024-03-01T00:00:00") ∈ filter endOfMay 3 springChannels :=
    List.mem_filter.mpr ⟨List.mem_cons_of_mem _ List.mem_cons_self, rfl⟩
  rcases forward _ kept with before | ⟨t, dated, slipped⟩
  · exact ⟨_, kept, rfl, before⟩
  · cases dated
    exact absurd slipped.before (by decide)

/-- A channel that was too old at noon is recent at the midnight after. -/
theorem recent_again_endOfMay :
    noonBefore.Valid ∧ endOfMay.Valid ∧ noonBefore < endOfMay ∧
    filter noonBefore 3 [channelOf "morning" (some "2024-02-29T06:00:00")] = [] ∧
    filter endOfMay 3 [channelOf "morning" (some "2024-02-29T06:00:00")] =
      [channelOf "morning" (some "2024-02-29T06:00:00")] :=
  ⟨valid_noonBefore, valid_endOfMay, by decide, rfl, rfl⟩

end SuiteBridge.Recency
