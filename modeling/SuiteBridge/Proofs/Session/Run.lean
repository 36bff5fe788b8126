import Mathlib.Data.List.Forall2
import Mathlib.Data.List.Induction
import SuiteBridge.Host.Session

/-!
# Runs of a session

`Run` relates what a session has read to every state it can then be in: the tasks begin and finish,
and the replies are written, in any order and between any two lines. Each task meets a world of its
own, so its capability may give a value, a fault or break off whatever the others do.

A session is looked at through three views, and each move is described once by what it does to
them:

* `Session.jobs`: the requests of the tasks, in the order in which they came, and what they set
  going;
* `Session.stageAt`: how far the task of a number has come;
* `Session.sent`: all replies that have left their tasks, written or not.
-/

namespace SuiteBridge.Host

/-! ## What a line says -/

/-- The request in a line, if it holds one. -/
def requestIn? (line : String) : Option Request :=
  if Text.isBlank line then none
  else match Message.ofLine line with
    | .ok (.request request) => some request
    | _ => none

/-- Why a line is refused, if it is. A blank line is not. -/
def refusalIn? (line : String) : Option Refusal :=
  if Text.isBlank line then none
  else match Message.ofLine line with
    | .error refusal => some refusal
    | _ => none

/-- The id of the request that a line takes back, if it does. -/
def cancelledIn? (line : String) : Option Json :=
  if Text.isBlank line then none
  else match Message.ofLine line with
    | .ok (.notification notification) => notification.cancels?.map Prod.fst
    | _ => none

/-- A line with a request is no refused one. -/
theorem refusalIn?_eq_none_of_requestIn? {line : String} {request : Request}
    (asked : requestIn? line = some request) : refusalIn? line = none := by
  unfold requestIn? at asked
  unfold refusalIn?
  split at asked
  · cases asked
  · rename_i written
    rw [if_neg written]
    split at asked
    · rename_i message
      rw [message]
    · cases asked

namespace Session

/-! ## Views of a session -/

/-- The requests of the tasks, in order, and what they set going. -/
def jobs (session : Session) : List (Request × Work) :=
  session.tasks.map fun task => (task.request, task.work)

/-- How far the task of a number has come. -/
def stageAt (session : Session) (index : Nat) : Option Stage :=
  (session.tasks[index]?).map Task.stage

/-- All replies on their way or written. -/
def sent (session : Session) : List Reply :=
  session.written ++ session.outbox

/-- Who is served, and whether more is read. -/
def standing (session : Session) : Service × Phase :=
  (session.service, session.phase)

/-- Whether serving is over: the input has ended, no task can come to anything and every reply is
written. -/
def hasReturned (session : Session) : Prop :=
  session.phase = .closed ∧ session.isRunning = false

variable {session : Session} {index : Nat}

theorem isLiveAt_iff :
    session.isLiveAt index = true ↔
      session.stageAt index = some .waiting ∨ session.stageAt index = some .begun := by
  unfold isLiveAt stageAt Task.isLive
  cases session.tasks[index]? <;> simp

theorem stageAt_isSome_iff : (session.stageAt index).isSome ↔ index < session.jobs.length := by
  simp [stageAt, jobs]

theorem stageAt_length : session.stageAt session.jobs.length = none := by
  simp [stageAt, jobs]

/-- Ending the live tasks of some kind makes none of them done. -/
theorem ite_aborted_eq_done_iff {chosen : Prop} [Decidable chosen] :
    (if chosen ∧ session.isLiveAt index = true then some Stage.aborted
      else session.stageAt index) = some .done ↔ session.stageAt index = some .done := by
  by_cases ended : chosen ∧ session.isLiveAt index = true
  · rw [if_pos ended]
    rcases isLiveAt_iff.mp ended.2 with reached | reached <;> simp [reached]
  · rw [if_neg ended]

/-! ### The small changes -/

@[simp] theorem jobs_report (events : List Event) : (session.report events).jobs = session.jobs :=
  rfl

@[simp] theorem stageAt_report (events : List Event) :
    (session.report events).stageAt index = session.stageAt index :=
  rfl

@[simp] theorem sent_report (events : List Event) : (session.report events).sent = session.sent :=
  rfl

@[simp] theorem jobs_send (reply : Reply) : (session.send reply).jobs = session.jobs :=
  rfl

@[simp] theorem stageAt_send (reply : Reply) :
    (session.send reply).stageAt index = session.stageAt index :=
  rfl

@[simp] theorem sent_send (reply : Reply) :
    (session.send reply).sent = session.sent ++ [reply] := by
  simp [sent, send]

@[simp] theorem jobs_setStage (stage : Stage) :
    (session.setStage index stage).jobs = session.jobs := by
  apply List.ext_getElem?
  intro other
  simp only [jobs, setStage, List.getElem?_map, List.getElem?_modify]
  cases session.tasks[other]? <;> by_cases same : index = other <;> simp [same]

theorem stageAt_setStage (stage : Stage) (other : Nat) :
    (session.setStage index stage).stageAt other =
      if index = other then (session.stageAt other).map fun _ => stage
      else session.stageAt other := by
  simp only [stageAt, setStage, List.getElem?_modify]
  cases session.tasks[other]? <;> by_cases same : index = other <;> simp [same]

@[simp] theorem sent_setStage (stage : Stage) :
    (session.setStage index stage).sent = session.sent :=
  rfl

@[simp] theorem standing_abort : (session.abort index).standing = session.standing := by
  unfold abort
  split <;> rfl

@[simp] theorem inFlight_abort : (session.abort index).inFlight = session.inFlight := by
  unfold abort
  split <;> rfl

@[simp] theorem jobs_abort : (session.abort index).jobs = session.jobs := by
  unfold abort
  split
  · exact jobs_setStage .aborted
  · rfl

@[simp] theorem sent_abort : (session.abort index).sent = session.sent := by
  unfold abort
  split <;> rfl

/-- Aborting ends a live task and leaves every other one as it is. -/
theorem stageAt_abort (other : Nat) :
    (session.abort index).stageAt other =
      if index = other ∧ session.isLiveAt other = true then some .aborted
      else session.stageAt other := by
  unfold abort
  by_cases live : session.isLiveAt index = true
  · rw [if_pos live, stageAt_setStage]
    by_cases same : index = other
    · subst same
      rcases isLiveAt_iff.mp live with reached | reached <;> simp [live, reached]
    · simp [same]
  · rw [if_neg live]
    by_cases same : index = other
    · subst same
      simp [live]
    · simp [same]

/-! ### The moves -/

/-- The new task of a request waits behind the others, registered under the text of its id. -/
theorem accept_eq (request : Request) :
    session.accept request =
      { session with
        tasks := session.tasks ++ [⟨request, session.service.work request, .waiting⟩]
        inFlight := session.prune.inFlight.register request.id.render session.tasks.length } :=
  rfl

@[simp] theorem jobs_accept (request : Request) :
    (session.accept request).jobs =
      session.jobs ++ [(request, session.service.work request)] := by
  simp [jobs, accept_eq]

theorem stageAt_accept (request : Request) (other : Nat) :
    (session.accept request).stageAt other =
      if other = session.jobs.length then some .waiting else session.stageAt other := by
  simp only [stageAt, accept_eq, jobs, List.length_map]
  rcases Nat.lt_trichotomy other session.tasks.length with before | rfl | after
  · rw [List.getElem?_append_left before, if_neg (Nat.ne_of_lt before)]
  · simp
  · rw [if_neg (Nat.ne_of_gt after), List.getElem?_eq_none (by simp; omega),
      List.getElem?_eq_none (Nat.le_of_lt after)]

@[simp] theorem sent_accept (request : Request) : (session.accept request).sent = session.sent :=
  rfl

/-- Taking a request back changes nothing, or aborts the task registered under the text of its id
and takes it off the register. -/
theorem cancel_cases (id : Json) (reason : String) :
    session.inFlight.lookup id.render = none ∧ session.cancel id reason = session ∨
      ∃ index, session.inFlight.lookup id.render = some index ∧
        session.cancel id reason =
          ({ session with inFlight := session.inFlight.erase id.render }.abort index).report
            [.requestCancelled id reason] := by
  unfold cancel
  cases registered : session.inFlight.lookup id.render with
  | none => exact Or.inl ⟨rfl, rfl⟩
  | some index => exact Or.inr ⟨index, rfl, rfl⟩

@[simp] theorem standing_cancel (id : Json) (reason : String) :
    (session.cancel id reason).standing = session.standing := by
  rcases session.cancel_cases id reason with ⟨-, same⟩ | ⟨index, -, taken⟩
  · rw [same]
  · rw [taken]
    exact standing_abort

@[simp] theorem jobs_cancel (id : Json) (reason : String) :
    (session.cancel id reason).jobs = session.jobs := by
  rcases session.cancel_cases id reason with ⟨-, same⟩ | ⟨index, -, taken⟩
  · rw [same]
  · rw [taken]
    exact jobs_abort

@[simp] theorem sent_cancel (id : Json) (reason : String) :
    (session.cancel id reason).sent = session.sent := by
  rcases session.cancel_cases id reason with ⟨-, same⟩ | ⟨index, -, taken⟩
  · rw [same]
  · rw [taken]
    exact sent_abort

/-- Taking a request back ends the live task registered under the text of its id, if there is one,
and leaves every other task as it is. -/
theorem stageAt_cancel (id : Json) (reason : String) (other : Nat) :
    (session.cancel id reason).stageAt other =
      if session.inFlight.lookup id.render = some other ∧ session.isLiveAt other = true then
        some .aborted
      else session.stageAt other := by
  rcases session.cancel_cases id reason with ⟨absent, same⟩ | ⟨index, registered, taken⟩
  · rw [same, absent]
    simp
  · rw [taken, registered]
    refine (stageAt_abort other).trans ?_
    simp only [Option.some.injEq]
    rfl

theorem mem_inFlight_of_cancel {id : Json} {reason : String} {entry : String × Nat}
    (kept : entry ∈ (session.cancel id reason).inFlight) : entry ∈ session.inFlight := by
  rcases session.cancel_cases id reason with ⟨-, same⟩ | ⟨index, -, taken⟩
  · rwa [same] at kept
  · rw [taken] at kept
    change entry ∈
      ({ session with inFlight := session.inFlight.erase id.render }.abort index).inFlight at kept
    rw [inFlight_abort] at kept
    exact List.mem_of_mem_filter kept

/-- One line is refused, asks for something, takes a request back, or is at most reported. -/
theorem readLine_cases (line : String) :
    (∃ refusal, refusalIn? line = some refusal ∧ requestIn? line = none ∧
      session.readLine line = session.send refusal.reply) ∨
    (∃ request, refusalIn? line = none ∧ requestIn? line = some request ∧
      session.readLine line = session.accept request) ∨
    (∃ id reason, refusalIn? line = none ∧ requestIn? line = none ∧ cancelledIn? line = some id ∧
      session.readLine line = session.cancel id reason) ∨
    (∃ events, refusalIn? line = none ∧ requestIn? line = none ∧
      session.readLine line = session.report events) := by
  unfold refusalIn? requestIn? cancelledIn? readLine
  by_cases blank : Text.isBlank line
  · refine Or.inr (Or.inr (Or.inr ⟨[], ?_⟩))
    simp [blank, report]
  · simp only [blank, Bool.false_eq_true, if_false]
    cases Message.ofLine line with
    | error refusal => exact Or.inl ⟨refusal, rfl, rfl, rfl⟩
    | ok message =>
        cases message with
        | request request => exact Or.inr (Or.inl ⟨request, rfl, rfl, rfl⟩)
        | notification notification =>
            simp only [notice]
            cases notification.cancels? with
            | none => exact Or.inr (Or.inr (Or.inr ⟨_, trivial, trivial, rfl⟩))
            | some taken =>
                exact Or.inr (Or.inr (Or.inl ⟨taken.1, taken.2, trivial, trivial, rfl, rfl⟩))

@[simp] theorem standing_readLine (line : String) :
    (session.readLine line).standing = session.standing := by
  rcases session.readLine_cases line with ⟨_, _, _, same⟩ | ⟨_, _, _, same⟩ |
    ⟨_, _, _, _, _, same⟩ | ⟨_, _, _, same⟩
  · rw [same]
    rfl
  · rw [same]
    rfl
  · rw [same, standing_cancel]
  · rw [same]
    rfl

/-- A line adds the job of its request, if it holds one, behind the others. -/
theorem jobs_readLine (line : String) :
    (session.readLine line).jobs =
      session.jobs ++ (requestIn? line).toList.map fun request =>
        (request, session.service.work request) := by
  rcases session.readLine_cases line with ⟨_, _, asked, same⟩ | ⟨_, _, asked, same⟩ |
    ⟨_, _, _, asked, _, same⟩ | ⟨_, _, asked, same⟩
  · rw [same, asked, jobs_send]
    simp
  · rw [same, asked, jobs_accept]
    simp
  · rw [same, asked, jobs_cancel]
    simp
  · rw [same, asked, jobs_report]
    simp

/-- Reading a line leaves a task as it is, unless it is the new one or the line takes it back. -/
theorem stageAt_readLine (line : String) (other : Nat) :
    (session.readLine line).stageAt other = session.stageAt other ∨
    (other = session.jobs.length ∧ (session.readLine line).stageAt other = some .waiting) ∨
    ((session.readLine line).stageAt other = some .aborted ∧ session.isLiveAt other = true ∧
      ∃ id, cancelledIn? line = some id ∧ session.inFlight.lookup id.render = some other) := by
  rcases session.readLine_cases line with ⟨_, _, _, same⟩ | ⟨request, _, _, same⟩ |
    ⟨id, reason, _, _, cancels, same⟩ | ⟨_, _, _, same⟩
  · exact Or.inl (by rw [same, stageAt_send])
  · rw [same, stageAt_accept]
    by_cases last : other = session.jobs.length
    · exact Or.inr (Or.inl ⟨last, if_pos last⟩)
    · exact Or.inl (if_neg last)
  · rw [same, stageAt_cancel]
    by_cases taken : session.inFlight.lookup id.render = some other ∧ session.isLiveAt other = true
    · exact Or.inr (Or.inr ⟨if_pos taken, taken.2, id, cancels, taken.1⟩)
    · exact Or.inl (if_neg taken)
  · exact Or.inl (by rw [same, stageAt_report])

/-- The session after several more lines. -/
def readEach (lines : List String) (session : Session) : Session :=
  lines.foldl (fun session line => session.readLine line) session

@[simp] theorem readEach_cons (line : String) (lines : List String) :
    session.readEach (line :: lines) = (session.readLine line).readEach lines :=
  rfl

/-- Beginning a task changes nothing unless the task waits. -/
theorem begin_cases (world : World) (index : Nat) :
    session.begin world index = session ∨
      session.stageAt index = some .waiting ∧
        ∃ events, session.begin world index = (session.setStage index .begun).report events := by
  unfold begin stageAt
  cases session.tasks[index]? with
  | none => exact Or.inl rfl
  | some task =>
      by_cases waiting : task.stage = .waiting
      · simp only [if_pos waiting]
        exact Or.inr ⟨by rw [Option.map_some, waiting], _, rfl⟩
      · exact Or.inl (if_neg waiting)

@[simp] theorem standing_begin (world : World) :
    (session.begin world index).standing = session.standing := by
  rcases session.begin_cases world index with same | ⟨_, _, same⟩
  · rw [same]
  · rw [same]
    rfl

@[simp] theorem jobs_begin (world : World) : (session.begin world index).jobs = session.jobs := by
  rcases session.begin_cases world index with same | ⟨_, _, same⟩
  · rw [same]
  · rw [same, jobs_report, jobs_setStage]

@[simp] theorem inFlight_begin (world : World) :
    (session.begin world index).inFlight = session.inFlight := by
  rcases session.begin_cases world index with same | ⟨_, _, same⟩
  · rw [same]
  · rw [same]
    rfl

@[simp] theorem sent_begin (world : World) : (session.begin world index).sent = session.sent := by
  rcases session.begin_cases world index with same | ⟨_, _, same⟩
  · rw [same]
  · rw [same, sent_report, sent_setStage]

/-- Beginning a task moves no other task, and this one only out of waiting. -/
theorem stageAt_begin (world : World) (other : Nat) :
    (session.begin world index).stageAt other = session.stageAt other ∨
      session.stageAt other = some .waiting ∧
        (session.begin world index).stageAt other = some .begun := by
  rcases session.begin_cases world index with same | ⟨waiting, _, same⟩
  · exact Or.inl (by rw [same])
  · rw [same, stageAt_report, stageAt_setStage]
    by_cases equal : index = other
    · subst equal
      exact Or.inr ⟨waiting, by simp [waiting]⟩
    · exact Or.inl (if_neg equal)

/-- Finishing a task changes nothing unless the task is under way and something comes of it. -/
theorem finish_cases (world : World) (index : Nat) :
    session.finish world index = session ∨
      ∃ task reply events, session.tasks[index]? = some task ∧ task.stage = .begun ∧
        task.work.reply? world = some reply ∧
        session.finish world index =
          ((session.setStage index .done).report events).send reply := by
  unfold finish
  cases session.tasks[index]? with
  | none => exact Or.inl rfl
  | some task =>
      by_cases begun : task.stage = .begun
      · simp only [if_pos begun]
        cases answered : task.work.reply? world with
        | none => exact Or.inl rfl
        | some reply => exact Or.inr ⟨task, reply, _, rfl, begun, answered, rfl⟩
      · exact Or.inl (if_neg begun)

@[simp] theorem standing_finish (world : World) :
    (session.finish world index).standing = session.standing := by
  rcases session.finish_cases world index with same | ⟨_, _, _, _, _, _, same⟩
  · rw [same]
  · rw [same]
    rfl

@[simp] theorem jobs_finish (world : World) : (session.finish world index).jobs = session.jobs := by
  rcases session.finish_cases world index with same | ⟨_, _, _, _, _, _, same⟩
  · rw [same]
  · rw [same, jobs_send, jobs_report, jobs_setStage]

@[simp] theorem inFlight_finish (world : World) :
    (session.finish world index).inFlight = session.inFlight := by
  rcases session.finish_cases world index with same | ⟨_, _, _, _, _, _, same⟩
  · rw [same]
  · rw [same]
    rfl

/-- Finishing a task moves no other task, and this one only from under way to done. -/
theorem stageAt_finish (world : World) (other : Nat) :
    (session.finish world index).stageAt other = session.stageAt other ∨
      session.stageAt other = some .begun ∧
        (session.finish world index).stageAt other = some .done := by
  rcases session.finish_cases world index with same | ⟨task, _, _, present, begun, _, same⟩
  · exact Or.inl (by rw [same])
  · rw [same, stageAt_send, stageAt_report, stageAt_setStage]
    by_cases equal : index = other
    · subst equal
      have reached : session.stageAt index = some .begun := by
        rw [stageAt, present, Option.map_some, begun]
      exact Or.inr ⟨reached, by simp [reached]⟩
    · exact Or.inl (if_neg equal)

@[simp] theorem standing_write : session.write.standing = session.standing := by
  unfold write
  split <;> rfl

@[simp] theorem inFlight_write : session.write.inFlight = session.inFlight := by
  unfold write
  split <;> rfl

@[simp] theorem jobs_write : session.write.jobs = session.jobs := by
  unfold write
  split <;> rfl

@[simp] theorem stageAt_write : session.write.stageAt index = session.stageAt index := by
  unfold write
  split <;> rfl

/-- Writing moves a reply over without losing or adding any. -/
@[simp] theorem sent_write : session.write.sent = session.sent := by
  unfold write
  split
  · rfl
  · rename_i reply rest waiting
    simp [sent, waiting]

/-- The session with the tasks of some entries aborted, one after the other. -/
def abortAll (entries : InFlight) (session : Session) : Session :=
  entries.foldl (fun session entry => session.abort entry.2) session

@[simp] theorem jobs_abortAll (entries : InFlight) :
    (session.abortAll entries).jobs = session.jobs := by
  induction entries generalizing session with
  | nil => rfl
  | cons entry entries ih => exact ih.trans jobs_abort

@[simp] theorem standing_abortAll (entries : InFlight) :
    (session.abortAll entries).standing = session.standing := by
  induction entries generalizing session with
  | nil => rfl
  | cons entry entries ih => exact ih.trans standing_abort

@[simp] theorem sent_abortAll (entries : InFlight) :
    (session.abortAll entries).sent = session.sent := by
  induction entries generalizing session with
  | nil => rfl
  | cons entry entries ih => exact ih.trans sent_abort

/-- Aborting several tasks ends those of them that are live and leaves every other one as it is. -/
theorem stageAt_abortAll (entries : InFlight) (other : Nat) :
    (session.abortAll entries).stageAt other =
      if other ∈ entries.map Prod.snd ∧ session.isLiveAt other = true then some .aborted
      else session.stageAt other := by
  induction entries generalizing session with
  | nil => simp [abortAll]
  | cons entry entries ih =>
      have step : (session.abort entry.2).stageAt other =
          if entry.2 = other ∧ session.isLiveAt other = true then some .aborted
          else session.stageAt other := stageAt_abort other
      change ((session.abort entry.2).abortAll entries).stageAt other = _
      rw [ih]
      simp only [List.map_cons, List.mem_cons]
      by_cases same : entry.2 = other
      · rw [if_neg, step]
        · simp [same]
        · rintro ⟨-, live⟩
          rw [isLiveAt_iff, step] at live
          by_cases alive : session.isLiveAt other = true
          · simp [same, alive] at live
          · simp [alive, ← isLiveAt_iff] at live
      · rw [if_neg (fun both => same both.1)] at step
        have live : (session.abort entry.2).isLiveAt other = session.isLiveAt other := by
          rw [Bool.eq_iff_iff, isLiveAt_iff, isLiveAt_iff, step]
        have listed : other = entry.2 ∨ other ∈ entries.map Prod.snd ↔
            other ∈ entries.map Prod.snd :=
          or_iff_right (Ne.symm same)
        rw [live, step]
        simp only [listed]

/-- The end of the input aborts what is registered, and the session reads no more. -/
theorem close_eq (serving : session.phase = .serving) :
    session.close =
      { (session.prune.report [.hostClosed session.prune.inFlight.length]).abortAll
          session.prune.inFlight with
        inFlight := []
        phase := .closed } := by
  unfold close
  rw [if_pos serving]
  rfl

theorem standing_close (serving : session.phase = .serving) :
    session.close.standing = (session.service, .closed) := by
  have kept : ((session.prune.report [.hostClosed session.prune.inFlight.length]).abortAll
      session.prune.inFlight).standing = session.standing := standing_abortAll _
  have served := congrArg Prod.fst kept
  rw [close_eq serving]
  exact Prod.ext served rfl

theorem inFlight_close (serving : session.phase = .serving) : session.close.inFlight = [] := by
  rw [close_eq serving]

theorem jobs_close (serving : session.phase = .serving) :
    session.close.jobs = session.jobs := by
  rw [close_eq serving]
  exact jobs_abortAll _

theorem sent_close (serving : session.phase = .serving) : session.close.sent = session.sent := by
  rw [close_eq serving]
  exact sent_abortAll _

/-- At the end of the input the live tasks that are registered are aborted, and no others. -/
theorem stageAt_close (serving : session.phase = .serving) (other : Nat) :
    session.close.stageAt other =
      if other ∈ session.inFlight.map Prod.snd ∧ session.isLiveAt other = true then some .aborted
      else session.stageAt other := by
  have registered : other ∈ session.prune.inFlight.map Prod.snd ∧ session.isLiveAt other = true ↔
      other ∈ session.inFlight.map Prod.snd ∧ session.isLiveAt other = true := by
    simp only [prune, List.mem_map, List.mem_filter]
    constructor
    · rintro ⟨⟨entry, ⟨member, -⟩, rfl⟩, live⟩
      exact ⟨⟨entry, member, rfl⟩, live⟩
    · rintro ⟨⟨entry, member, rfl⟩, live⟩
      exact ⟨⟨entry, ⟨member, live⟩, rfl⟩, live⟩
  rw [close_eq serving]
  refine (stageAt_abortAll _ other).trans ?_
  change (if other ∈ session.prune.inFlight.map Prod.snd ∧ session.isLiveAt other = true then
    some Stage.aborted else session.stageAt other) = _
  simp only [registered]

end Session

/-! ## Runs -/

/-- `Run host service worlds lines closing session`: having read `lines`, a session of `service` can
be in the state `session`. The host may send a line whenever `host` allows it. The task of a number
meets the world that `worlds` gives for it. Once the input has ended, `closing` is the session as it
was when that happened. -/
inductive Run (host : Session → String → Prop) (service : Service) (worlds : Nat → World) :
    List String → Option Session → Session → Prop
  | start : Run host service worlds [] none (.start service)
  | read {lines : List String} {session : Session} (line : String) :
    Run host service worlds lines none session → host session line →
    Run host service worlds (lines ++ [line]) none (session.readLine line)
  | begin {lines : List String} {closing : Option Session} {session : Session} (index : Nat) :
    Run host service worlds lines closing session →
    Run host service worlds lines closing (session.begin (worlds index) index)
  | finish {lines : List String} {closing : Option Session} {session : Session} (index : Nat) :
    Run host service worlds lines closing session →
    Run host service worlds lines closing (session.finish (worlds index) index)
  | write {lines : List String} {closing : Option Session} {session : Session} :
    Run host service worlds lines closing session →
    Run host service worlds lines closing session.write
  | close {lines : List String} {session : Session} :
    Run host service worlds lines none session →
    Run host service worlds lines (some session) session.close

namespace Run

variable {host : Session → String → Prop} {service : Service} {worlds : Nat → World}
  {lines : List String} {closing : Option Session} {session : Session}

/-- A session serves until the input has ended, and always the same service. -/
theorem standing_eq (run : Run host service worlds lines closing session) :
    session.standing = (service, if closing.isSome then .closed else .serving) := by
  induction run with
  | start => rfl
  | read line _ _ ih => rw [Session.standing_readLine, ih]
  | begin index _ ih => rw [Session.standing_begin, ih]
  | finish index _ ih => rw [Session.standing_finish, ih]
  | write _ ih => rw [Session.standing_write, ih]
  | close _ ih =>
      have serving := congrArg Prod.snd ih
      have served := congrArg Prod.fst ih
      rw [Session.standing_close serving]
      exact Prod.ext served rfl

theorem service_eq (run : Run host service worlds lines closing session) :
    session.service = service :=
  congrArg Prod.fst run.standing_eq

theorem phase_eq (run : Run host service worlds lines none session) : session.phase = .serving :=
  congrArg Prod.snd run.standing_eq

/-- The tasks are those of the requests that were read, each set going by the service. -/
theorem jobs_eq (run : Run host service worlds lines closing session) :
    session.jobs =
      (lines.filterMap requestIn?).map fun request => (request, service.work request) := by
  induction run with
  | start => rfl
  | read line earlier _ ih =>
      rw [Session.jobs_readLine, ih, earlier.service_eq, List.filterMap_append, List.map_append]
      cases asked : requestIn? line <;> simp [asked]
  | begin index _ ih => rw [Session.jobs_begin, ih]
  | finish index _ ih => rw [Session.jobs_finish, ih]
  | write _ ih => rw [Session.jobs_write, ih]
  | close earlier ih => rw [Session.jobs_close earlier.phase_eq, ih]

/-- What is registered is registered under the text of its own id. -/
theorem registered (run : Run host service worlds lines closing session) :
    ∀ entry ∈ session.inFlight,
      ∃ job, session.jobs[entry.2]? = some job ∧ job.1.id.render = entry.1 := by
  induction run with
  | start => simp [Session.start]
  | @read lines session line earlier _ ih =>
      intro entry member
      rcases session.readLine_cases line with ⟨_, _, _, same⟩ | ⟨request, _, _, same⟩ |
        ⟨_, _, _, _, _, same⟩ | ⟨_, _, _, same⟩
      · rw [same] at member ⊢
        exact ih entry member
      · rw [same] at member ⊢
        rw [Session.jobs_accept]
        rcases List.mem_cons.mp member with rfl | kept
        · refine ⟨(request, session.service.work request), ?_, rfl⟩
          simp [Session.jobs, Session.prune]
        · have former : entry ∈ session.inFlight :=
            List.mem_of_mem_filter (List.mem_of_mem_filter kept)
          obtain ⟨job, present, text⟩ := ih entry former
          have within := (List.getElem?_eq_some_iff.mp present).choose
          exact ⟨job, by rwa [List.getElem?_append_left within], text⟩
      · rw [same] at member ⊢
        rw [Session.jobs_cancel]
        exact ih entry (Session.mem_inFlight_of_cancel member)
      · rw [same] at member ⊢
        exact ih entry member
  | begin index _ ih => simpa using ih
  | finish index _ ih => simpa using ih
  | write _ ih => simpa using ih
  | close earlier ih => simp [Session.inFlight_close earlier.phase_eq]

/-! ### The one order in which `settle` and `release` make the moves -/

theorem writeAll (run : Run host service worlds lines closing session) :
    Run host service worlds lines closing session.writeAll := by
  generalize waiting : session.outbox = outbox
  induction outbox generalizing session with
  | nil =>
      have same : session.writeAll = session := by
        cases session
        simp_all [Session.writeAll]
      rwa [same]
  | cons reply rest ih =>
      have same : session.write.writeAll = session.writeAll := by
        simp [Session.write, Session.writeAll, waiting]
      rw [← same]
      exact ih run.write (by simp [Session.write, waiting])

theorem advance {world : World} (index : Nat)
    (run : Run host service (fun _ => world) lines closing session) :
    Run host service (fun _ => world) lines closing (session.advance world index) := by
  unfold Session.advance
  split
  · split
    · split
      · exact (run.begin index).finish index
      · exact run.begin index
    · exact run
  · exact run

/-- Letting every waiting task begin is a run like any other. -/
theorem settle {world : World} (run : Run host service (fun _ => world) lines closing session) :
    Run host service (fun _ => world) lines closing (session.settle world) := by
  unfold Session.settle
  generalize List.range session.tasks.length = indices
  induction indices generalizing session with
  | nil => exact run.writeAll
  | cons index indices ih => exact ih (run.advance index)

/-- Letting every task go on that was held up is a run like any other. -/
theorem release {world : World} (run : Run host service (fun _ => world) lines closing session) :
    Run host service (fun _ => world) lines closing (session.release world) := by
  unfold Session.release
  generalize List.range session.tasks.length = indices
  induction indices generalizing session with
  | nil => exact run.writeAll
  | cons index indices ih => exact ih (run.finish index)

/-- A host that may always send can send any number of lines at once. -/
theorem readAll (free : ∀ session line, host session line) (more : List String)
    (run : Run host service worlds lines none session) :
    Run host service worlds (lines ++ more) none (session.readEach more) := by
  induction more generalizing lines session with
  | nil => rwa [List.append_nil]
  | cons line more ih =>
      rw [List.append_cons, Session.readEach_cons]
      exact ih (run.read line (free session line))

/-- The bytes of a line are read as the text they spell. -/
theorem readBytes {bytes : List UInt8} {line : String}
    (run : Run host service worlds lines none session) (spelt : Text.Utf8.decode? bytes = some line)
    (allowed : host session line) :
    Run host service worlds (lines ++ [line]) none (session.readBytes bytes) := by
  have same : session.readBytes bytes = session.readLine line := by
    simp [Session.readBytes, run.phase_eq, spelt]
  rw [same]
  exact run.read line allowed

end Run

end SuiteBridge.Host
