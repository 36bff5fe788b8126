import SuiteBridge.Proofs.Json.Distinct
import SuiteBridge.Proofs.Session.Closing

/-!
# Taking requests back

A host that never asks under the id of a request still under way can take back exactly the request
it means: the live tasks are all registered, each under its own id, and a cancellation ends the one
whose id is the very value that was sent. `Run.cancels_exactly` states this for ids without doubles,
whose texts tell them apart.
-/

namespace SuiteBridge.Host

/-- A host that asks only under ids without doubles, and under none of a request still under way. -/
def Considerate (session : Session) (line : String) : Prop :=
  ∀ request, requestIn? line = some request →
    request.id.isExact = true ∧
      ∀ index job, session.jobs[index]? = some job → session.isLiveAt index = true →
        job.1.id ≠ request.id

section Later

variable {host : Session → String → Prop} {worlds : Nat → World} {now later : Moment}
  {position : Nat} {request : Request}

/-- A request stays where it was read, and so does the number of its task. -/
theorem Step.requestAt? (step : Step host worlds now later)
    (asked : requestAt? now.lines position = some request) :
    requestAt? later.lines position = some request ∧
      taskNumber later.lines position = taskNumber now.lines position := by
  have early := position_lt_of_requestAt? asked
  cases step with
  | read line _ =>
      refine ⟨?_, taskNumber_append_line (Nat.le_of_lt early)⟩
      rw [Host.requestAt?, getElem?_append_line early]
      exact asked
  | begin | finish | write | close => exact ⟨asked, rfl⟩

theorem Onward.requestAt? (onward : Onward host worlds now later)
    (asked : requestAt? now.lines position = some request) :
    requestAt? later.lines position = some request ∧
      taskNumber later.lines position = taskNumber now.lines position := by
  induction onward with
  | refl => exact ⟨asked, rfl⟩
  | tail _ step ih =>
      obtain ⟨there, number⟩ := step.requestAt? ih.1
      exact ⟨there, number.trans ih.2⟩

end Later

/-- A line that takes a request back asks for nothing. -/
theorem requestIn?_eq_none_of_cancelledIn? {line : String} {id : Json}
    (taken : cancelledIn? line = some id) : requestIn? line = none := by
  unfold cancelledIn? at taken
  unfold requestIn?
  split at taken
  · cases taken
  · rename_i written
    rw [if_neg written]
    split at taken
    · rename_i said
      rw [said]
    · cases taken

/-- A considerate host can take anything back at any time. -/
theorem considerate_cancellation {session : Session} {line : String} {id : Json}
    (taken : cancelledIn? line = some id) : Considerate session line := by
  intro request asked
  rw [requestIn?_eq_none_of_cancelledIn? taken] at asked
  cases asked

/-- Reading a line that takes a request back is taking it back. -/
theorem Session.readLine_eq_cancel {line : String} {id : Json} (session : Session)
    (taken : cancelledIn? line = some id) :
    ∃ reason, session.readLine line = session.cancel id reason := by
  unfold cancelledIn? at taken
  unfold readLine
  split at taken
  · cases taken
  · rename_i written
    rw [if_neg written]
    split at taken
    · rename_i notification said
      obtain ⟨named, cancels, rfl⟩ := Option.map_eq_some_iff.mp taken
      refine ⟨named.2, ?_⟩
      rw [said]
      simp only [notice, cancels]
    · cases taken

/-- A cancellation without an id changes nothing. -/
theorem Session.readLine_cancellation {session : Session} {line : String}
    {notification : Notification}
    (said : Message.ofLine line = .ok (.notification notification))
    (method : notification.method = cancellation)
    (absent : notification.params.member? "requestId" = none) :
    session.readLine line = session := by
  have idle : notification.cancels? = none := by
    rw [Notification.cancels?, if_pos method, absent, Option.map_none]
  have silent : session.service.noticeEvents notification.method = [] := by
    rw [method]
    rfl
  unfold readLine
  split
  · rfl
  · rw [said]
    simp only [notice, idle, silent, report, List.append_nil]

namespace Run

variable {host : Session → String → Prop} {service : Service} {worlds : Nat → World}
  {lines : List String} {closing : Option Session} {session : Session}
  {position : Nat} {request : Request}

/-- The job of a request's task. -/
theorem getElem?_jobs (run : Run host service worlds lines closing session)
    (asked : requestAt? lines position = some request) :
    session.jobs[taskNumber lines position]? = some (request, service.work request) := by
  rw [run.jobs_eq, List.getElem?_map, getElem?_requests asked, Option.map_some]

/-- A considerate host uses no id with a double. -/
theorem isExact_id (run : Run Considerate service worlds lines closing session)
    (asked : requestAt? lines position = some request) : request.id.isExact = true := by
  induction run with
  | start => simp [requestAt?] at asked
  | read line _ allowed ih =>
      rcases requestAt?_append_line asked with before | ⟨-, said⟩
      · exact ih before
      · exact (allowed request said).1
  | begin _ _ ih | finish _ _ ih | write _ ih | close _ ih => exact ih asked

/-- Nobody takes the place of a live task of a considerate host. -/
theorem not_superseded (run : Run Considerate service worlds lines closing session)
    (asked : requestAt? lines position = some request)
    (alive : session.isLiveAt (taskNumber lines position) = true) :
    ¬ Superseded lines position request := by
  induction run with
  | start => simp [requestAt?] at asked
  | @read lines session line earlier allowed ih =>
      rintro ⟨later, second, order, also, same⟩
      have within := position_lt_of_requestAt? also
      rw [List.length_append, List.length_singleton] at within
      rcases requestAt?_append_line asked with before | ⟨rfl, -⟩
      · have early := position_lt_of_requestAt? before
        have present := earlier.getElem?_jobs before
        rw [taskNumber_append_line (Nat.le_of_lt early)] at alive
        have once := Session.isLiveAt_of_readLine
          (List.getElem?_eq_some_iff.mp present).choose alive
        rcases requestAt?_append_line also with former | ⟨-, said⟩
        · exact ih before once ⟨later, second, order, former, same⟩
        -- The line just read asks under the same id, and a considerate host does not do that.
        · obtain ⟨exact, other⟩ := allowed second said
          exact other _ _ present once (Json.eq_of_render_eq exact same).symm
      · omega
  | begin _ _ ih => exact ih asked (Session.isLiveAt_of_begin alive)
  | finish _ _ ih => exact ih asked (Session.isLiveAt_of_finish alive)
  | write _ ih => exact ih asked (Session.isLiveAt_write ▸ alive)
  | close earlier ih => exact ih asked (Session.isLiveAt_of_close earlier.phase_eq alive)

/-- Once the input of a considerate host has ended, nothing is under way any more. -/
theorem isLiveAt_after_close {final : Session} {index : Nat}
    (run : Run Considerate service worlds lines (some final) session) :
    session.isLiveAt index = false := by
  rw [← Bool.not_eq_true]
  generalize ended : some final = closing at run
  induction run with
  | start | read => cases ended
  | begin _ _ ih => exact fun alive => ih ended (Session.isLiveAt_of_begin alive)
  | finish _ _ ih => exact fun alive => ih ended (Session.isLiveAt_of_finish alive)
  | write _ ih => exact fun alive => ih ended (Session.isLiveAt_write ▸ alive)
  | close earlier _ =>
      intro alive
      obtain ⟨position, request, asked, once, taken⟩ := earlier.superseded_of_isLiveAt_close alive
      exact earlier.not_superseded asked once taken

/-- Every live task of a considerate host is registered under its id. -/
theorem lookup_eq (run : Run Considerate service worlds lines closing session)
    (asked : requestAt? lines position = some request)
    (alive : session.isLiveAt (taskNumber lines position) = true) :
    session.inFlight.lookup request.id.render = some (taskNumber lines position) := by
  cases closing with
  | none =>
      rw [run.orderly.lookup_iff]
      exact run.orderly.live ((run.isLast_iff asked).mpr (run.not_superseded asked alive)) alive
  | some final =>
      rw [run.isLiveAt_after_close] at alive
      cases alive

/-- A cancellation finds a live task exactly if it names the id of its request. -/
theorem lookup_eq_iff {id : Json} (run : Run Considerate service worlds lines closing session)
    (asked : requestAt? lines position = some request)
    (alive : session.isLiveAt (taskNumber lines position) = true) :
    session.inFlight.lookup id.render = some (taskNumber lines position) ↔ request.id = id := by
  constructor
  · intro found
    have exact := run.isExact_id asked
    obtain ⟨before, behind, listed, -⟩ := List.lookup_eq_some_iff.mp found
    obtain ⟨job, present, same⟩ := run.registered (id.render, taskNumber lines position)
      (by simp [listed])
    rw [run.getElem?_jobs asked] at present
    cases present
    exact Json.eq_of_render_eq exact same
  · rintro rfl
    exact run.lookup_eq asked alive

/-- A line that takes back the id of a request under way aborts it. -/
theorem stageAt_named {line : String} {id : Json}
    (run : Run Considerate service worlds lines none session)
    (asked : requestAt? lines position = some request) (taken : cancelledIn? line = some id)
    (named : session.isLiveAt (taskNumber lines position) = true ∧ request.id = id) :
    (session.readLine line).stageAt (taskNumber lines position) = some .aborted := by
  obtain ⟨reason, same⟩ := session.readLine_eq_cancel taken
  rw [same, Session.stageAt_cancel,
    if_pos ⟨(run.lookup_eq_iff asked named.1).mpr named.2, named.1⟩]

/-- A line that takes back another id leaves a request alone, and so does one that comes too
late. -/
theorem stageAt_unnamed {line : String} {id : Json}
    (run : Run Considerate service worlds lines none session)
    (asked : requestAt? lines position = some request) (taken : cancelledIn? line = some id)
    (unnamed : ¬ (session.isLiveAt (taskNumber lines position) = true ∧ request.id = id)) :
    (session.readLine line).stageAt (taskNumber lines position) =
      session.stageAt (taskNumber lines position) := by
  obtain ⟨reason, same⟩ := session.readLine_eq_cancel taken
  rw [same, Session.stageAt_cancel, if_neg]
  rintro ⟨found, alive⟩
  exact unnamed ⟨alive, (run.lookup_eq_iff asked alive).mp found⟩

/-- **A cancellation ends exactly the request it names.** With a host that never asks under the id
of a request still under way, and under no id with a double in it:

* every request under way is registered, under its own id;
* a line that takes an id back aborts the request under way whose id is that very value, of which
  there is at most one, moves no other task and sends nothing; what is then still under way is
  still registered;
* a request that is aborted stays so whatever happens, and is never answered;
* a cancellation that names no request changes nothing. -/
theorem cancels_exactly (run : Run Considerate service worlds lines closing session) :
    (∀ position request, requestAt? lines position = some request →
      session.isLiveAt (taskNumber lines position) = true →
      session.inFlight.lookup request.id.render = some (taskNumber lines position)) ∧
    (closing = none → ∀ line id, cancelledIn? line = some id →
      (session.readLine line).sent = session.sent ∧
      (∀ first second one other,
        requestAt? lines first = some one → session.isLiveAt (taskNumber lines first) = true →
        requestAt? lines second = some other → session.isLiveAt (taskNumber lines second) = true →
        one.id = id → other.id = id → first = second) ∧
      ∀ position request, requestAt? lines position = some request →
        (session.isLiveAt (taskNumber lines position) = true ∧ request.id = id →
          (session.readLine line).stageAt (taskNumber lines position) = some .aborted) ∧
        (¬ (session.isLiveAt (taskNumber lines position) = true ∧ request.id = id) →
          (session.readLine line).stageAt (taskNumber lines position) =
            session.stageAt (taskNumber lines position)) ∧
        (session.isLiveAt (taskNumber lines position) = true → request.id ≠ id →
          (session.readLine line).inFlight.lookup request.id.render =
            some (taskNumber lines position))) ∧
    (∀ position request, requestAt? lines position = some request →
      session.stageAt (taskNumber lines position) = some .aborted →
      ∀ later, Onward Considerate worlds ⟨lines, closing, session⟩ later →
        later.session.stageAt (taskNumber later.lines position) = some .aborted ∧
          ∃ origins, Ledger service worlds later.lines later.session origins ∧
            position ∉ origins) ∧
    (∀ line notification, Message.ofLine line = .ok (.notification notification) →
      notification.method = cancellation → notification.params.member? "requestId" = none →
      session.readLine line = session) := by
  refine ⟨fun position request => run.lookup_eq, ?_, ?_, fun line notification =>
    Session.readLine_cancellation⟩
  · rintro rfl line id taken
    refine ⟨?_, ?_, fun position request asked => ⟨?_, ?_, fun alive other => ?_⟩⟩
    · obtain ⟨reason, same⟩ := session.readLine_eq_cancel taken
      rw [same, Session.sent_cancel]
    · rintro first second one other asked alive also still rfl equal
      have found := run.lookup_eq asked alive
      rw [← equal, run.lookup_eq also still] at found
      exact position_eq_of_taskNumber asked also (Option.some.inj found).symm
    · exact run.stageAt_named asked taken
    · exact run.stageAt_unnamed asked taken
    · have kept := run.stageAt_unnamed asked taken fun both => other both.2
      rw [Session.isLiveAt_iff, ← kept, ← Session.isLiveAt_iff] at alive
      have step : Step Considerate worlds ⟨lines, none, session⟩
          ⟨lines ++ [line], none, session.readLine line⟩ :=
        .read line (considerate_cancellation taken)
      obtain ⟨there, number⟩ := step.requestAt? asked
      rw [← number] at alive ⊢
      exact (run.step step).lookup_eq there alive
  · intro position request asked aborted later onward
    obtain ⟨there, number⟩ := onward.requestAt? asked
    have still := onward.stageAt_aborted aborted
    rw [← number] at still
    exact ⟨still, (run.onward onward).unanswered there (by rw [still]; exact nofun)⟩

end Run

/-! ### A number and a text as ids -/

/-- An id with a text that no request so far has is considerate. -/
theorem considerate_of_fresh {session : Session} {line : String}
    (fresh : (requestIn? line).all (fun request => request.id.isExact &&
      !(session.jobs.map fun job => job.1.id.render).contains request.id.render) = true) :
    Considerate session line := by
  intro request asked
  rw [asked, Option.all_some, Bool.and_eq_true, Bool.not_eq_true', ← Bool.not_eq_true,
    List.contains_iff_mem] at fresh
  refine ⟨fresh.1, fun index job present _ same => fresh.2 ?_⟩
  exact List.mem_map.mpr ⟨job, List.mem_of_getElem? present, by rw [same]⟩

/-- A request under a number. -/
def underNumber : String :=
  "\x7b\"id\":7,\"method\":\"tools/call\",\"params\":\x7b\"name\":\"wait\"\x7d\x7d"

/-- A request under a text of the same digit. -/
def underText : String :=
  "\x7b\"id\":\"7\",\"method\":\"tools/call\",\"params\":\x7b\"name\":\"wait\"\x7d\x7d"

/-- The line that takes the number back. -/
def numberTakenBack : String :=
  "\x7b\"method\":\"notifications/cancelled\",\"params\":\x7b\"requestId\":7\x7d\x7d"

/-- The session of a service with one capability that waits. -/
def patientStart : Session :=
  .start (.ofRegistry ⟨[patient]⟩ none)

/-- The session after the two requests, with both tasks under way. -/
def numberAndTextRead : Session :=
  (((patientStart.readLine underNumber).readLine underText).begin deafWorld 0).begin deafWorld 1

/-- Both ids are new when they are used. -/
theorem fresh_numberAndText :
    Considerate patientStart underNumber ∧
      Considerate (patientStart.readLine underNumber) underText := by
  constructor
  · exact considerate_of_fresh (by decide +kernel)
  · exact considerate_of_fresh (by decide +kernel)

theorem run_numberAndTextRead :
    Run Considerate (.ofRegistry ⟨[patient]⟩ none) (fun _ => deafWorld) [underNumber, underText]
      none numberAndTextRead := by
  have fresh : Run Considerate (.ofRegistry ⟨[patient]⟩ none) (fun _ => deafWorld) [] none
      patientStart := .start
  have both := (fresh.read underNumber fresh_numberAndText.1).read underText fresh_numberAndText.2
  exact (both.begin 0).begin 1

/-- What is read in these lines: the texts of the ids and the numbers of the tasks, both of which
are under way, and the text of the id that is taken back. -/
theorem numberAndText_read :
    ((List.range 2).map fun position =>
      ((requestAt? [underNumber, underText] position).map fun request => request.id.render,
        taskNumber [underNumber, underText] position)) = [(some "7", 0), (some "\"7\"", 1)] ∧
    (List.range 2).map numberAndTextRead.stageAt = [some .begun, some .begun] ∧
    (cancelledIn? numberTakenBack).map Json.render = some "7" := by
  decide +kernel

/-- Taking the number back aborts the first request and leaves the second one registered. -/
theorem cancels_exactly_numberAndText :
    (numberAndTextRead.readLine numberTakenBack).stageAt 0 = some .aborted ∧
      (numberAndTextRead.readLine numberTakenBack).stageAt 1 = some .begun ∧
      (numberAndTextRead.readLine numberTakenBack).inFlight.lookup "\"7\"" = some 1 := by
  obtain ⟨-, each, -, -⟩ := run_numberAndTextRead.cancels_exactly
  obtain ⟨said, stages, names⟩ := numberAndText_read
  simp only [List.range_succ, List.range_zero, List.nil_append, List.cons_append, List.map_cons,
    List.map_nil, List.cons.injEq, Prod.mk.injEq, Option.map_eq_some_iff, and_true] at said stages
  obtain ⟨⟨⟨one, asked, text⟩, zero⟩, ⟨other, also, quoted⟩, first⟩ := said
  obtain ⟨id, taken, same⟩ := Option.map_eq_some_iff.mp names
  obtain ⟨-, -, moves⟩ := each rfl numberTakenBack id taken
  have equal : one.id = id :=
    Json.eq_of_render_eq (run_numberAndTextRead.isExact_id asked) (text.trans same.symm)
  have apart : other.id ≠ id := by
    rintro rfl
    rw [quoted] at same
    exact absurd same (by decide)
  have alive : numberAndTextRead.isLiveAt 1 = true := Session.isLiveAt_iff.mpr (Or.inr stages.2)
  have ended := (moves 0 one asked).1
    ⟨zero.symm ▸ Session.isLiveAt_iff.mpr (Or.inr stages.1), equal⟩
  obtain ⟨-, kept, registered⟩ := moves 1 other also
  have still := kept fun both => apart both.2
  have found := registered (first.symm ▸ alive) apart
  rw [zero] at ended
  rw [first] at still found
  rw [quoted] at found
  exact ⟨ended, still.trans stages.2, found⟩

end SuiteBridge.Host
