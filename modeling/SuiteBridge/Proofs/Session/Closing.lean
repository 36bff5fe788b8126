import SuiteBridge.Proofs.Session.Register

/-!
# What the end of the input ends

When the input ends, what is registered is aborted. A request whose place in the register was taken
by a later one with an id of the same text is not: its task goes on, may still be answered, and
keeps the session from returning. `Run.ended_unless_superseded` says that these are the only ones.
-/

namespace SuiteBridge.Host

namespace Run

variable {host : Session → String → Prop} {service : Service} {worlds : Nat → World}
  {lines : List String} {final session : Session} {position : Nat} {request : Request}

/-- A run whose input has ended went on from the session as it was then. -/
theorem exists_before_close (run : Run host service worlds lines (some final) session) :
    Run host service worlds lines none final ∧
      Onward host worlds ⟨lines, some final, final.close⟩ ⟨lines, some final, session⟩ := by
  generalize ended : some final = closing at run
  induction run with
  | start => cases ended
  | read line _ _ _ => cases ended
  | begin index _ ih =>
      subst ended
      obtain ⟨before, onward⟩ := ih rfl
      exact ⟨before, onward.tail (.begin index)⟩
  | finish index _ ih =>
      subst ended
      obtain ⟨before, onward⟩ := ih rfl
      exact ⟨before, onward.tail (.finish index)⟩
  | write _ ih =>
      subst ended
      obtain ⟨before, onward⟩ := ih rfl
      exact ⟨before, onward.tail .write⟩
  | close earlier _ =>
      cases ended
      exact ⟨earlier, .refl⟩

/-- The end of the input aborts the live task of a request that keeps its place. -/
theorem aborted_by_close (run : Run host service worlds lines none final)
    (asked : requestAt? lines position = some request)
    (alive : final.isLiveAt (taskNumber lines position) = true)
    (current : ¬ Superseded lines position request) :
    final.close.stageAt (taskNumber lines position) = some .aborted := by
  rw [Session.stageAt_close run.phase_eq,
    if_pos ⟨(run.mem_inFlight_iff asked alive).mpr current, alive⟩]

/-- The end of the input leaves the live task of a request alone whose place was taken. -/
theorem alive_after_close (run : Run host service worlds lines none final)
    (asked : requestAt? lines position = some request)
    (alive : final.isLiveAt (taskNumber lines position) = true)
    (superseded : Superseded lines position request) :
    final.close.isLiveAt (taskNumber lines position) = true := by
  have unregistered := mt (run.mem_inFlight_iff asked alive).mp (not_not_intro superseded)
  rw [Session.isLiveAt_iff, Session.stageAt_close run.phase_eq,
    if_neg fun both => unregistered both.1, ← Session.isLiveAt_iff]
  exact alive

/-- A task is the one of a request that was read. -/
theorem exists_requestAt?_of_isLiveAt {closing : Option Session} {index : Nat}
    (run : Run host service worlds lines closing session)
    (alive : session.isLiveAt index = true) :
    ∃ position request, requestAt? lines position = some request ∧
      taskNumber lines position = index := by
  have there : (session.stageAt index).isSome := by
    rcases Session.isLiveAt_iff.mp alive with reached | reached <;> simp [reached]
  rw [Session.stageAt_isSome_iff, run.jobs_eq, List.length_map] at there
  obtain ⟨position, asked, number⟩ := exists_requestAt? (List.getElem?_eq_getElem there)
  exact ⟨position, _, asked, number⟩

/-- What is under way after the end of the input was so before it, and its place was taken. -/
theorem superseded_of_isLiveAt_close {index : Nat}
    (run : Run host service worlds lines none final)
    (alive : final.close.isLiveAt index = true) :
    ∃ position request, requestAt? lines position = some request ∧
      final.isLiveAt (taskNumber lines position) = true ∧ Superseded lines position request := by
  obtain ⟨position, request, asked, rfl⟩ := run.close.exists_requestAt?_of_isLiveAt alive
  have once := Session.isLiveAt_of_close run.phase_eq alive
  refine ⟨position, request, asked, once, ?_⟩
  by_contra current
  rw [Session.isLiveAt_iff, run.aborted_by_close asked once current] at alive
  simp at alive

/-- A closed session returns as soon as its replies are written, unless a task is live. -/
theorem writeAll_hasReturned_iff (closed : session.phase = .closed) :
    session.writeAll.hasReturned ↔ ∀ index, session.isLiveAt index = false := by
  have phase : session.writeAll.phase = .closed := closed
  simp only [Session.hasReturned, phase, Session.isRunning, true_and]
  have written : session.writeAll.outbox = [] := rfl
  have tasks : session.writeAll.tasks = session.tasks := rfl
  rw [written, tasks]
  simp only [List.isEmpty_nil, Bool.not_true, Bool.or_false, List.any_eq_false]
  constructor
  · intro ended index
    unfold Session.isLiveAt
    cases present : session.tasks[index]? with
    | none => rfl
    | some task => simpa using ended task (List.mem_of_getElem? present)
  · intro ended task member
    obtain ⟨index, present⟩ := List.getElem?_of_mem member
    have dead := ended index
    rw [Session.isLiveAt, present] at dead
    simpa using dead

/-- **The end of the input ends every task whose place in the register was not taken.** Of the
requests that were under way when the input ended, one whose place was taken by a later request
with an id of the same text stays under way; every other one is aborted, stays so and is never
answered. The session returns without waiting for any task exactly if there is no request of the
first kind. -/
theorem ended_unless_superseded (run : Run host service worlds lines (some final) session) :
    (∀ position request, requestAt? lines position = some request →
      final.isLiveAt (taskNumber lines position) = true →
      (Superseded lines position request →
        final.close.isLiveAt (taskNumber lines position) = true) ∧
      (¬ Superseded lines position request →
        session.stageAt (taskNumber lines position) = some .aborted ∧
          ∃ origins, Ledger service worlds lines session origins ∧ position ∉ origins)) ∧
    (final.close.writeAll.hasReturned ↔
      ∀ position request, requestAt? lines position = some request →
        final.isLiveAt (taskNumber lines position) = true →
        ¬ Superseded lines position request) := by
  obtain ⟨before, onward⟩ := run.exists_before_close
  have closed : final.close.phase = .closed :=
    congrArg Prod.snd (Session.standing_close before.phase_eq)
  refine ⟨fun position request asked alive => ⟨?_, fun current => ?_⟩, ?_⟩
  · exact before.alive_after_close asked alive
  · have aborted := onward.stageAt_aborted (before.aborted_by_close asked alive current)
    exact ⟨aborted, run.unanswered asked (by rw [aborted]; exact nofun)⟩
  · rw [writeAll_hasReturned_iff closed]
    constructor
    · intro ended position request asked alive superseded
      have still := before.alive_after_close asked alive superseded
      rw [ended] at still
      cases still
    · intro current index
      by_contra alive
      rw [Bool.not_eq_false] at alive
      obtain ⟨position, request, asked, once, taken⟩ := before.superseded_of_isLiveAt_close alive
      exact current position request asked once taken

end Run

/-! ### A session with an id that is used again -/

/-- A capability that goes on only when it is let. -/
def patient : Capability :=
  ⟨⟨"wait", "test", .object [("type", .string "object"), ("properties", .object [])], .wiki⟩,
    fun _ => .waits (.returned (.ok .null))⟩

/-- Two requests with the same id, and one with another. -/
def reusedId : List String := [
  "\x7b\"id\":1,\"method\":\"tools/call\",\"params\":\x7b\"name\":\"wait\"\x7d\x7d",
  "\x7b\"id\":1,\"method\":\"tools/call\",\"params\":\x7b\"name\":\"wait\"\x7d\x7d",
  "\x7b\"id\":2,\"method\":\"tools/call\",\"params\":\x7b\"name\":\"wait\"\x7d\x7d"]

/-- The session after these lines, with every task under way. -/
def reusedIdRead : Session :=
  ((((Session.start (.ofRegistry ⟨[patient]⟩ none)).readEach reusedId).begin deafWorld 0).begin
    deafWorld 1).begin deafWorld 2

theorem run_reusedIdRead :
    Run (fun _ _ => True) (.ofRegistry ⟨[patient]⟩ none) (fun _ => deafWorld) reusedId none
      reusedIdRead := by
  have fresh : Run (fun _ _ => True) (.ofRegistry ⟨[patient]⟩ none) (fun _ => deafWorld) [] none
      (Session.start (.ofRegistry ⟨[patient]⟩ none)) := .start
  exact (((fresh.readAll (fun _ _ => trivial) reusedId).begin 0).begin 1).begin 2

/-- What is read in these lines: the texts of the ids and the numbers of the tasks, all of which are
under way. -/
theorem reusedId_read :
    ((List.range 3).map fun position =>
      ((requestAt? reusedId position).map fun request => request.id.render,
        taskNumber reusedId position)) = [(some "1", 0), (some "1", 1), (some "2", 2)] ∧
    (List.range 3).map reusedIdRead.isLiveAt = [true, true, true] := by
  decide +kernel

/-- The first of the three requests outlives the input, and the two others do not. -/
theorem ended_unless_superseded_reusedId :
    reusedIdRead.close.isLiveAt 0 = true ∧
      reusedIdRead.close.stageAt 1 = some .aborted ∧
      reusedIdRead.close.stageAt 2 = some .aborted ∧
      ¬ reusedIdRead.close.writeAll.hasReturned := by
  obtain ⟨each, returns⟩ := run_reusedIdRead.close.ended_unless_superseded
  obtain ⟨said, alive⟩ := reusedId_read
  simp only [List.range_succ, List.range_zero, List.nil_append, List.cons_append, List.map_cons,
    List.map_nil, List.cons.injEq, Prod.mk.injEq, Option.map_eq_some_iff, and_true] at said alive
  obtain ⟨⟨⟨first, asked, text⟩, zero⟩, ⟨⟨second, again, same⟩, one⟩, ⟨third, also, other⟩, two⟩ :=
    said
  have superseded : Superseded reusedId 0 first :=
    ⟨1, second, by decide, again, same.trans text.symm⟩
  have current : ¬ Superseded reusedId 1 second := by
    rintro ⟨later, found, order, asked, equal⟩
    have within : later < 3 := position_lt_of_requestAt? asked
    obtain rfl : later = 2 := by omega
    cases also.symm.trans asked
    rw [other, same] at equal
    exact absurd equal (by decide)
  have last : ¬ Superseded reusedId 2 third := by
    rintro ⟨later, found, order, asked, -⟩
    have within : later < 3 := position_lt_of_requestAt? asked
    omega
  have survives := (each 0 first asked (zero.symm ▸ alive.1)).1 superseded
  have ends := ((each 1 second again (one.symm ▸ alive.2.1)).2 current).1
  have goes := ((each 2 third also (two.symm ▸ alive.2.2)).2 last).1
  rw [zero] at survives
  rw [one] at ends
  rw [two] at goes
  refine ⟨survives, ends, goes, fun returned => ?_⟩
  exact returns.mp returned 0 first asked (zero.symm ▸ alive.1) superseded

/-- Not everything ends with the input: a request that was under way then is not aborted, keeps the
session from returning and is answered afterwards. -/
theorem unended_reusedId :
    Run (fun _ _ => True) (.ofRegistry ⟨[patient]⟩ none) (fun _ => deafWorld) reusedId
        (some reusedIdRead) reusedIdRead.close ∧
      reusedIdRead.isLiveAt 0 = true ∧ reusedIdRead.close.isLiveAt 0 = true ∧
      ¬ reusedIdRead.close.writeAll.hasReturned ∧
      Run (fun _ _ => True) (.ofRegistry ⟨[patient]⟩ none) (fun _ => deafWorld) reusedId
        (some reusedIdRead) (reusedIdRead.close.finish deafWorld 0).write ∧
      (reusedIdRead.close.finish deafWorld 0).write.written.length = 1 := by
  have closed := run_reusedIdRead.close
  obtain ⟨before, behind, running, answered⟩ :
      reusedIdRead.isLiveAt 0 = true ∧ reusedIdRead.close.isLiveAt 0 = true ∧
        reusedIdRead.close.writeAll.isRunning = true ∧
        (reusedIdRead.close.finish deafWorld 0).write.written.length = 1 := by
    decide +kernel
  refine ⟨closed, before, behind, fun returned => ?_, (closed.finish 0).write, answered⟩
  rw [returned.2] at running
  cases running

end SuiteBridge.Host
