import Mathlib.Logic.Relation
import SuiteBridge.Proofs.Session.Ledger

/-!
# What is registered

A task is registered under the text of its id until a later request with an id of the same text
takes its place. While a session serves, its register is therefore `Orderly`: what is registered is
the last task of its text, and every live task that is the last of its text is registered. In terms
of the lines that were read, a live task is registered exactly if its request is not `Superseded`
(`Run.mem_inFlight_iff`).

`Onward` relates two moments of a run. A task that is aborted at one moment is so at every later
one (`Onward.stageAt_aborted`), and its request is never answered (`Run.unanswered`).
-/

namespace SuiteBridge.Host

namespace Session

/-- The text of the id that the task of a number works for. -/
def textAt (session : Session) (index : Nat) : Option String :=
  (session.jobs[index]?).map fun job => job.1.id.render

/-- The task of a number is the last one whose id has a text. -/
def IsLast (session : Session) (key : String) (index : Nat) : Prop :=
  session.textAt index = some key ∧ ∀ later, index < later → session.textAt later ≠ some key

variable {session after : Session} {key : String} {index other : Nat}

theorem textAt_congr (jobs : after.jobs = session.jobs) :
    after.textAt index = session.textAt index := by
  rw [textAt, jobs, textAt]

theorem isLast_congr (jobs : after.jobs = session.jobs) :
    after.IsLast key index ↔ session.IsLast key index := by
  simp only [IsLast, textAt_congr jobs]

/-- Only one task is the last of a text. -/
theorem IsLast.eq (last : session.IsLast key index) (also : session.IsLast key other) :
    index = other := by
  rcases Nat.lt_trichotomy index other with before | equal | behind
  · exact absurd also.1 (last.2 other before)
  · exact equal
  · exact absurd last.1 (also.2 index behind)

theorem lt_of_textAt (text : session.textAt index = some key) : index < session.jobs.length := by
  obtain ⟨job, present, -⟩ := Option.map_eq_some_iff.mp text
  exact (List.getElem?_eq_some_iff.mp present).choose

theorem textAt_accept (request : Request) (index : Nat) :
    (session.accept request).textAt index =
      if index = session.jobs.length then some request.id.render else session.textAt index := by
  rw [textAt, jobs_accept, textAt]
  rcases Nat.lt_trichotomy index session.jobs.length with before | rfl | behind
  · rw [List.getElem?_append_left before, if_neg (Nat.ne_of_lt before)]
  · simp
  · rw [if_neg (Nat.ne_of_gt behind), List.getElem?_eq_none (by simp; omega),
      List.getElem?_eq_none (Nat.le_of_lt behind)]

/-- A new task is the last of its text, and for every other text nothing changes. -/
theorem isLast_accept (request : Request) :
    (session.accept request).IsLast key index ↔
      key = request.id.render ∧ index = session.jobs.length ∨
        key ≠ request.id.render ∧ session.IsLast key index := by
  constructor
  · rintro ⟨text, later⟩
    by_cases new : index = session.jobs.length
    · rw [textAt_accept, if_pos new] at text
      exact Or.inl ⟨(Option.some.inj text).symm, new⟩
    · rw [textAt_accept, if_neg new] at text
      have early := lt_of_textAt text
      refine Or.inr ⟨?_, text, fun next order => ?_⟩
      · rintro rfl
        exact later _ early (by rw [textAt_accept, if_pos rfl])
      · have kept := later next order
        rw [textAt_accept] at kept
        split at kept
        · rename_i equal
          rw [equal, textAt, List.getElem?_eq_none (Nat.le_refl _)]
          exact nofun
        · exact kept
  · rintro (⟨rfl, rfl⟩ | ⟨different, text, later⟩)
    · refine ⟨by rw [textAt_accept, if_pos rfl], fun next order => ?_⟩
      rw [textAt_accept, if_neg (Nat.ne_of_gt order), textAt,
        List.getElem?_eq_none (Nat.le_of_lt order)]
      exact nofun
    · have early := lt_of_textAt text
      refine ⟨by rwa [textAt_accept, if_neg (Nat.ne_of_lt early)], fun next order => ?_⟩
      rw [textAt_accept]
      split
      · intro same
        exact different (Option.some.inj same).symm
      · exact later next order

/-! ## The register -/

/-- A new task takes the place of what was registered under its text; of the rest, what is live is
kept. -/
theorem mem_inFlight_accept (request : Request) :
    (key, index) ∈ (session.accept request).inFlight ↔
      key = request.id.render ∧ index = session.jobs.length ∨
        key ≠ request.id.render ∧ session.isLiveAt index = true ∧
          (key, index) ∈ session.inFlight := by
  simp only [accept_eq, InFlight.register, InFlight.erase, prune, List.mem_cons, List.mem_filter,
    Prod.mk.injEq, bne_iff_ne, jobs, List.length_map]
  constructor
  · rintro (new | ⟨⟨member, live⟩, different⟩)
    · exact Or.inl new
    · exact Or.inr ⟨different, live, member⟩
  · rintro (new | ⟨different, live, member⟩)
    · exact Or.inl new
    · exact Or.inr ⟨⟨member, live⟩, different⟩

/-- Taking a request back takes its text off the register, and nothing else. -/
theorem mem_inFlight_cancel (id : Json) (reason : String) :
    (key, index) ∈ (session.cancel id reason).inFlight ↔
      key ≠ id.render ∧ (key, index) ∈ session.inFlight := by
  rcases session.cancel_cases id reason with ⟨absent, same⟩ | ⟨task, -, taken⟩
  · rw [same]
    refine ⟨fun member => ⟨?_, member⟩, And.right⟩
    rintro rfl
    have apart := List.lookup_eq_none_iff.mp absent _ member
    simp at apart
  · rw [taken]
    change (key, index) ∈
      ({ session with inFlight := session.inFlight.erase id.render }.abort task).inFlight ↔ _
    rw [inFlight_abort]
    simp only [InFlight.erase, List.mem_filter, bne_iff_ne]
    exact and_comm

/-- What is registered is the last task of its text, and every live task that is the last of its
text is registered. -/
structure Orderly (session : Session) : Prop where
  last : ∀ {key index}, (key, index) ∈ session.inFlight → session.IsLast key index
  live : ∀ {key index}, session.IsLast key index → session.isLiveAt index = true →
    (key, index) ∈ session.inFlight

/-- Looking a text up finds what is registered under it. -/
theorem Orderly.lookup_iff (orderly : session.Orderly) :
    session.inFlight.lookup key = some index ↔ (key, index) ∈ session.inFlight := by
  constructor
  · intro found
    obtain ⟨before, behind, listed, -⟩ := List.lookup_eq_some_iff.mp found
    simp [listed]
  · intro member
    cases found : session.inFlight.lookup key with
    | none =>
        have apart := List.lookup_eq_none_iff.mp found _ member
        simp at apart
    | some other =>
        obtain ⟨before, behind, listed, -⟩ := List.lookup_eq_some_iff.mp found
        have also := orderly.last (by simp [listed] : (key, other) ∈ session.inFlight)
        rw [also.eq (orderly.last member)]

/-- A register stays orderly while no task is added and none comes to life. -/
theorem Orderly.frame (orderly : session.Orderly) (jobs : after.jobs = session.jobs)
    (inFlight : after.inFlight = session.inFlight)
    (live : ∀ index, after.isLiveAt index = true → session.isLiveAt index = true) :
    after.Orderly where
  last member := (isLast_congr jobs).mpr (orderly.last (inFlight ▸ member))
  live last alive := inFlight ▸ orderly.live ((isLast_congr jobs).mp last) (live _ alive)

theorem Orderly.accept (orderly : session.Orderly) (request : Request) :
    (session.accept request).Orderly where
  last member := by
    rw [isLast_accept]
    exact ((mem_inFlight_accept request).mp member).imp_right fun ⟨different, _, former⟩ =>
      ⟨different, orderly.last former⟩
  live {key index} last alive := by
    rw [mem_inFlight_accept]
    refine ((isLast_accept request).mp last).imp_right fun ⟨different, former⟩ => ?_
    have early := lt_of_textAt former.1
    rw [isLiveAt_iff, stageAt_accept, if_neg (Nat.ne_of_lt early), ← isLiveAt_iff] at alive
    exact ⟨different, alive, orderly.live former alive⟩

theorem Orderly.cancel (orderly : session.Orderly) (id : Json) (reason : String) :
    (session.cancel id reason).Orderly where
  last member := by
    rw [isLast_congr (jobs_cancel id reason)]
    exact orderly.last ((mem_inFlight_cancel id reason).mp member).2
  live {key index} last alive := by
    rw [isLast_congr (jobs_cancel id reason)] at last
    rw [isLiveAt_iff, stageAt_cancel] at alive
    by_cases ended : session.inFlight.lookup id.render = some index ∧ session.isLiveAt index = true
    · rw [if_pos ended] at alive
      simp at alive
    · rw [if_neg ended, ← isLiveAt_iff] at alive
      have member := orderly.live last alive
      refine (mem_inFlight_cancel id reason).mpr ⟨?_, member⟩
      rintro rfl
      exact ended ⟨orderly.lookup_iff.mpr member, alive⟩

theorem Orderly.readLine (orderly : session.Orderly) (line : String) :
    (session.readLine line).Orderly := by
  rcases session.readLine_cases line with ⟨_, _, _, same⟩ | ⟨request, _, _, same⟩ |
    ⟨id, reason, _, _, _, same⟩ | ⟨_, _, _, same⟩
  · rw [same]
    exact orderly.frame rfl rfl fun _ alive => alive
  · rw [same]
    exact orderly.accept request
  · rw [same]
    exact orderly.cancel id reason
  · rw [same]
    exact orderly.frame rfl rfl fun _ alive => alive

theorem isLiveAt_of_begin {world : World} {moved : Nat}
    (alive : (session.begin world moved).isLiveAt index = true) :
    session.isLiveAt index = true := by
  rw [isLiveAt_iff] at alive ⊢
  rcases @stageAt_begin session moved world index with same | ⟨waiting, -⟩
  · rwa [same] at alive
  · exact Or.inl waiting

theorem isLiveAt_of_finish {world : World} {moved : Nat}
    (alive : (session.finish world moved).isLiveAt index = true) :
    session.isLiveAt index = true := by
  rw [isLiveAt_iff] at alive ⊢
  rcases @stageAt_finish session moved world index with same | ⟨begun, -⟩
  · rwa [same] at alive
  · exact Or.inr begun

/-- A line brings no task to life but the new one. -/
theorem isLiveAt_of_readLine {line : String} (early : index < session.jobs.length)
    (alive : (session.readLine line).isLiveAt index = true) : session.isLiveAt index = true := by
  rw [isLiveAt_iff] at alive ⊢
  rcases stageAt_readLine line index with same | ⟨new, -⟩ | ⟨ended, -⟩
  · rwa [same] at alive
  · omega
  · rw [ended] at alive
    simp at alive

theorem isLiveAt_of_close (serving : session.phase = .serving)
    (alive : session.close.isLiveAt index = true) : session.isLiveAt index = true := by
  rw [isLiveAt_iff, stageAt_close serving] at alive
  split at alive
  · simp at alive
  · exact isLiveAt_iff.mpr alive

theorem isLiveAt_write : session.write.isLiveAt index = session.isLiveAt index := by
  rw [Bool.eq_iff_iff, isLiveAt_iff, isLiveAt_iff, stageAt_write]

end Session

/-! ## Registered tasks in terms of lines -/

/-- A later line asks for something under an id of the same text. -/
def Superseded (lines : List String) (position : Nat) (request : Request) : Prop :=
  ∃ later second, position < later ∧ requestAt? lines later = some second ∧
    second.id.render = request.id.render

namespace Run

variable {host : Session → String → Prop} {service : Service} {worlds : Nat → World}
  {lines : List String} {closing : Option Session} {session : Session}
  {position : Nat} {request : Request}

/-- The register of a serving session is orderly. -/
theorem orderly (run : Run host service worlds lines none session) : session.Orderly := by
  generalize serving : (none : Option Session) = closing at run
  induction run with
  | start => exact ⟨nofun, nofun⟩
  | read line _ _ ih => exact (ih serving).readLine line
  | begin index _ ih =>
      exact (ih serving).frame (Session.jobs_begin _) (Session.inFlight_begin _)
        fun _ => Session.isLiveAt_of_begin
  | finish index _ ih =>
      exact (ih serving).frame (Session.jobs_finish _) (Session.inFlight_finish _)
        fun _ => Session.isLiveAt_of_finish
  | write _ ih =>
      refine (ih serving).frame Session.jobs_write Session.inFlight_write fun index alive => ?_
      rwa [Session.isLiveAt_write] at alive
  | close _ _ => cases serving

theorem textAt_eq (run : Run host service worlds lines closing session)
    (asked : requestAt? lines position = some request) :
    session.textAt (taskNumber lines position) = some request.id.render := by
  rw [Session.textAt, run.jobs_eq, List.getElem?_map, getElem?_requests asked]
  rfl

/-- The task of a request is the last one of its text exactly if no later line takes its place. -/
theorem isLast_iff (run : Run host service worlds lines closing session)
    (asked : requestAt? lines position = some request) :
    session.IsLast request.id.render (taskNumber lines position) ↔
      ¬ Superseded lines position request := by
  constructor
  · rintro ⟨-, last⟩ ⟨later, second, order, also, same⟩
    refine last (taskNumber lines later) (taskNumber_lt asked order) ?_
    rw [run.textAt_eq also, same]
  · intro current
    refine ⟨run.textAt_eq asked, fun index order text => current ?_⟩
    obtain ⟨job, present, same⟩ := Option.map_eq_some_iff.mp text
    rw [run.jobs_eq, List.getElem?_map] at present
    obtain ⟨second, numbered, rfl⟩ := Option.map_eq_some_iff.mp present
    obtain ⟨later, also, rfl⟩ := exists_requestAt? numbered
    refine ⟨later, second, ?_, also, same⟩
    by_contra behind
    have most : taskNumber lines later ≤ taskNumber lines position :=
      taskNumber_mono (Nat.le_of_not_lt behind)
    omega

/-- While the input lasts, a live task is registered exactly if no later line takes its place. -/
theorem mem_inFlight_iff (run : Run host service worlds lines none session)
    (asked : requestAt? lines position = some request)
    (alive : session.isLiveAt (taskNumber lines position) = true) :
    taskNumber lines position ∈ session.inFlight.map Prod.snd ↔
      ¬ Superseded lines position request := by
  rw [← run.isLast_iff asked]
  constructor
  · intro member
    obtain ⟨⟨key, index⟩, entry, rfl⟩ := List.mem_map.mp member
    have last := run.orderly.last entry
    cases Option.some.inj (last.1.symm.trans (run.textAt_eq asked))
    exact last
  · intro last
    exact List.mem_map.mpr ⟨_, run.orderly.live last alive, rfl⟩

end Run

/-! ## Later moments -/

/-- A moment of a run: what has been read, the session as it was when the input ended, and the
session as it is. -/
structure Moment where
  lines : List String
  closing : Option Session
  session : Session

/-- One move of a run. -/
inductive Step (host : Session → String → Prop) (worlds : Nat → World) : Moment → Moment → Prop
  | read {lines : List String} {session : Session} (line : String) :
    host session line →
    Step host worlds ⟨lines, none, session⟩ ⟨lines ++ [line], none, session.readLine line⟩
  | begin {lines : List String} {closing : Option Session} {session : Session} (index : Nat) :
    Step host worlds ⟨lines, closing, session⟩
      ⟨lines, closing, session.begin (worlds index) index⟩
  | finish {lines : List String} {closing : Option Session} {session : Session} (index : Nat) :
    Step host worlds ⟨lines, closing, session⟩
      ⟨lines, closing, session.finish (worlds index) index⟩
  | write {lines : List String} {closing : Option Session} {session : Session} :
    Step host worlds ⟨lines, closing, session⟩ ⟨lines, closing, session.write⟩
  | close {lines : List String} {session : Session} :
    Step host worlds ⟨lines, none, session⟩ ⟨lines, some session, session.close⟩

/-- A moment can come after another one. -/
abbrev Onward (host : Session → String → Prop) (worlds : Nat → World) : Moment → Moment → Prop :=
  Relation.ReflTransGen (Step host worlds)

section Later

variable {host : Session → String → Prop} {service : Service} {worlds : Nat → World}
  {now later : Moment} {index : Nat}

theorem Run.step (run : Run host service worlds now.lines now.closing now.session)
    (step : Step host worlds now later) :
    Run host service worlds later.lines later.closing later.session := by
  cases step with
  | read line allowed => exact run.read line allowed
  | begin index => exact run.begin index
  | finish index => exact run.finish index
  | write => exact run.write
  | close => exact run.close

theorem Run.onward (run : Run host service worlds now.lines now.closing now.session)
    (onward : Onward host worlds now later) :
    Run host service worlds later.lines later.closing later.session := by
  induction onward with
  | refl => exact run
  | tail _ step ih => exact ih.step step

/-- No move brings an aborted task back. -/
theorem Step.stageAt_aborted (step : Step host worlds now later)
    (aborted : now.session.stageAt index = some .aborted) :
    later.session.stageAt index = some .aborted := by
  have dead : ∀ {session : Session}, session.stageAt index = some .aborted →
      ¬ session.isLiveAt index = true := by
    intro session ended alive
    rw [Session.isLiveAt_iff, ended] at alive
    simp at alive
  cases step with
  | @read lines session line =>
      rcases Session.stageAt_readLine line index with same | ⟨new, -⟩ | ⟨ended, -⟩
      · exact same.trans aborted
      · rw [new, Session.stageAt_length] at aborted
        cases aborted
      · exact ended
  | begin moved =>
      rcases Session.stageAt_begin (worlds moved) index with same | ⟨waiting, -⟩
      · exact same.trans aborted
      · cases waiting.symm.trans aborted
  | finish moved =>
      rcases Session.stageAt_finish (worlds moved) index with same | ⟨begun, -⟩
      · exact same.trans aborted
      · cases begun.symm.trans aborted
  | write => exact Session.stageAt_write.trans aborted
  | @close lines session =>
      by_cases serving : session.phase = .serving
      · rw [Session.stageAt_close serving, if_neg fun both => dead aborted both.2]
        exact aborted
      · rwa [Session.close, if_neg serving]

theorem Onward.stageAt_aborted (onward : Onward host worlds now later)
    (aborted : now.session.stageAt index = some .aborted) :
    later.session.stageAt index = some .aborted := by
  induction onward with
  | refl => exact aborted
  | tail _ step ih => exact step.stageAt_aborted ih

/-- A request whose task is not done is not among those that were answered. -/
theorem Run.unanswered {lines : List String} {closing : Option Session} {session : Session}
    {position : Nat} {request : Request} (run : Run host service worlds lines closing session)
    (asked : requestAt? lines position = some request)
    (undone : session.stageAt (taskNumber lines position) ≠ some .done) :
    ∃ origins, Ledger service worlds lines session origins ∧ position ∉ origins := by
  obtain ⟨origins, ledger⟩ := run.exists_ledger
  exact ⟨origins, ledger, mt (ledger.done asked).mp undone⟩

end Later

end SuiteBridge.Host
