import SuiteBridge.Proofs.Session.Run

/-!
# Which line a reply answers

Every reply of a session is booked on the line it answers. A `Ledger` lists the positions of these
lines in the order of the replies: no position comes twice, the refused lines come in their own
order, and a request is booked exactly when its task is done. Every run keeps such a ledger
(`Run.exists_ledger`). A task that is aborted was taken back by a later line, or was still under way
when the input ended (`Run.aborted`).
-/

namespace SuiteBridge.Host

/-! ## Positions of lines -/

/-- The request in the line at a position. -/
def requestAt? (lines : List String) (position : Nat) : Option Request :=
  (lines[position]?).bind requestIn?

/-- Whether the line at a position is refused. -/
def isRefusedAt (lines : List String) (position : Nat) : Bool :=
  ((lines[position]?).bind refusalIn?).isSome

/-- The number of the task for the request at a position: how many requests come before it. -/
def taskNumber (lines : List String) (position : Nat) : Nat :=
  ((lines.take position).filterMap requestIn?).length

/-- The reply is what the line at a position, which is not blank, gets when it is answered alone. -/
def Answers (service : Service) (worlds : Nat → World) (lines : List String) (position : Nat)
    (reply : Reply) : Prop :=
  ∃ line, lines[position]? = some line ∧ Text.isBlank line = false ∧
    service.answerLine (worlds (taskNumber lines position)) line = some reply

/-- A line after a position takes back a request whose id has the same text. -/
def TakenBack (lines : List String) (position : Nat) (request : Request) : Prop :=
  ∃ later id, position < later ∧ (lines[later]?).bind cancelledIn? = some id ∧
    id.render = request.id.render

/-- The input ended while the task of a number could still come to something. -/
def CutOff (closing : Option Session) (index : Nat) : Prop :=
  ∃ final, closing = some final ∧ final.isLiveAt index = true

/-- The task of a number was done before the input ended. -/
def DoneInTime (closing : Option Session) (index : Nat) : Prop :=
  ∃ final, closing = some final ∧ final.stageAt index = some .done

section Positions

variable {lines : List String} {line : String} {position : Nat} {request : Request}

theorem getElem?_append_line (before : position < lines.length) :
    (lines ++ [line])[position]? = lines[position]? :=
  List.getElem?_append_left before

theorem position_lt_of_requestAt? (asked : requestAt? lines position = some request) :
    position < lines.length := by
  by_contra beyond
  simp [requestAt?, List.getElem?_eq_none (Nat.le_of_not_lt beyond)] at asked

theorem taskNumber_append_line (before : position ≤ lines.length) :
    taskNumber (lines ++ [line]) position = taskNumber lines position := by
  rw [taskNumber, List.take_append_of_le_length before, taskNumber]

theorem taskNumber_length :
    taskNumber lines lines.length = (lines.filterMap requestIn?).length := by
  rw [taskNumber, List.take_length]

theorem taskNumber_succ :
    taskNumber lines (position + 1) =
      taskNumber lines position + (requestAt? lines position).toList.length := by
  rw [taskNumber, List.take_add_one, List.filterMap_append, List.length_append, taskNumber,
    requestAt?]
  cases lines[position]? with
  | none => rfl
  | some line => cases asked : requestIn? line <;> simp [asked]

theorem taskNumber_mono {earlier later : Nat} (order : earlier ≤ later) :
    taskNumber lines earlier ≤ taskNumber lines later := by
  induction order with
  | refl => exact Nat.le_refl _
  | step _ ih => exact Nat.le_trans ih (taskNumber_succ ▸ Nat.le_add_right _ _)

/-- A later request has a task of a greater number. -/
theorem taskNumber_lt {later : Nat} (asked : requestAt? lines position = some request)
    (order : position < later) : taskNumber lines position < taskNumber lines later := by
  have next : taskNumber lines (position + 1) = taskNumber lines position + 1 := by
    rw [taskNumber_succ, asked]
    rfl
  have most : taskNumber lines (position + 1) ≤ taskNumber lines later := taskNumber_mono order
  omega

theorem position_eq_of_taskNumber {other : Nat} {second : Request}
    (asked : requestAt? lines position = some request)
    (also : requestAt? lines other = some second)
    (same : taskNumber lines position = taskNumber lines other) : position = other := by
  rcases Nat.lt_trichotomy position other with before | equal | after
  · have := taskNumber_lt asked before
    omega
  · exact equal
  · have := taskNumber_lt also after
    omega

/-- Line by line, the requests are numbered as their tasks are. -/
theorem exists_requestAt? {index : Nat}
    (numbered : (lines.filterMap requestIn?)[index]? = some request) :
    ∃ position, requestAt? lines position = some request ∧ taskNumber lines position = index := by
  induction lines using List.reverseRecOn with
  | nil => simp at numbered
  | append_singleton lines line ih =>
      rw [List.filterMap_append] at numbered
      rcases Nat.lt_or_ge index (lines.filterMap requestIn?).length with before | beyond
      · rw [List.getElem?_append_left before] at numbered
        obtain ⟨position, asked, number⟩ := ih numbered
        have early := position_lt_of_requestAt? asked
        refine ⟨position, ?_, ?_⟩
        · rwa [requestAt?, getElem?_append_line early]
        · rwa [taskNumber_append_line (Nat.le_of_lt early)]
      · rw [List.getElem?_append_right beyond] at numbered
        have last :
            index = (lines.filterMap requestIn?).length ∧ requestIn? line = some request := by
          cases asked : requestIn? line with
          | none => simp [asked] at numbered
          | some found =>
              simp only [List.filterMap_cons, asked, List.filterMap_nil,
                List.getElem?_singleton] at numbered
              split at numbered
              · exact ⟨by omega, numbered⟩
              · cases numbered
        refine ⟨lines.length, ?_, ?_⟩
        · simp [requestAt?, last.2]
        · rw [taskNumber_append_line (Nat.le_refl _), taskNumber_length, last.1]

/-- The task of a request has the number that its position gives. -/
theorem getElem?_requests (asked : requestAt? lines position = some request) :
    (lines.filterMap requestIn?)[taskNumber lines position]? = some request := by
  have within : taskNumber lines position < (lines.filterMap requestIn?).length :=
    taskNumber_length ▸ taskNumber_lt asked (position_lt_of_requestAt? asked)
  have numbered := List.getElem?_eq_getElem within
  obtain ⟨other, also, same⟩ := exists_requestAt? numbered
  cases position_eq_of_taskNumber asked also same.symm
  rw [numbered, ← also, asked]

end Positions

theorem TakenBack.append_line {lines : List String} {line : String} {position : Nat}
    {request : Request} (back : TakenBack lines position request) :
    TakenBack (lines ++ [line]) position request := by
  obtain ⟨later, id, order, cancels, text⟩ := back
  obtain ⟨found, present, said⟩ := Option.bind_eq_some_iff.mp cancels
  have early := (List.getElem?_eq_some_iff.mp present).choose
  exact ⟨later, id, order, by rwa [getElem?_append_line early], text⟩

/-! ## Ledgers -/

/-- `Ledger service worlds lines session origins`: the replies that `session` has sent answer the
lines at the positions `origins`, in this order. -/
structure Ledger (service : Service) (worlds : Nat → World) (lines : List String)
    (session : Session) (origins : List Nat) : Prop where
  /-- No line is answered twice. -/
  distinct : origins.Nodup
  /-- Each reply is what its line gets when it is answered alone. -/
  answers : List.Forall₂ (Answers service worlds lines) origins session.sent
  /-- The refused lines are answered, all of them and in their order. -/
  refused : origins.filter (isRefusedAt lines) =
    (List.range lines.length).filter (isRefusedAt lines)
  /-- A request is answered exactly when its task is done. -/
  done : ∀ {position : Nat} {request : Request}, requestAt? lines position = some request →
    (position ∈ origins ↔ session.stageAt (taskNumber lines position) = some .done)

section Ledgers

variable {service : Service} {worlds : Nat → World} {lines : List String} {line : String}
  {session after : Session} {origins : List Nat}

theorem Answers.append_line {position : Nat} {reply : Reply}
    (answer : Answers service worlds lines position reply) :
    Answers service worlds (lines ++ [line]) position reply := by
  obtain ⟨found, present, written, answered⟩ := answer
  have early := (List.getElem?_eq_some_iff.mp present).choose
  exact ⟨found, by rwa [getElem?_append_line early], written,
    by rwa [taskNumber_append_line (Nat.le_of_lt early)]⟩

/-- Only requests and refused lines are answered. -/
theorem Answers.asked_or_refused {position : Nat} {reply : Reply}
    (answer : Answers service worlds lines position reply) :
    (requestAt? lines position).isSome ∨ isRefusedAt lines position = true := by
  obtain ⟨line, present, written, answered⟩ := answer
  simp only [requestAt?, isRefusedAt, present, Option.bind_some, requestIn?, refusalIn?, written]
  unfold Service.answerLine at answered
  cases said : Message.ofLine line with
  | error refusal => simp
  | ok message =>
      cases message with
      | request request => simp
      | notification notification => simp [said] at answered

theorem Ledger.exists_answer (ledger : Ledger service worlds lines session origins) :
    ∀ position ∈ origins, ∃ reply, Answers service worlds lines position reply := by
  have both : List.Forall₂ (fun position reply =>
      (∃ reply, Answers service worlds lines position reply) ∧
        Answers service worlds lines position reply) origins session.sent :=
    ledger.answers.imp fun position reply answer => ⟨⟨reply, answer⟩, answer⟩
  exact ((List.forall₂_and_left _ _).mp both).1

theorem Ledger.origin_lt (ledger : Ledger service worlds lines session origins) :
    ∀ position ∈ origins, position < lines.length := by
  intro position member
  obtain ⟨_, _, present, _⟩ := ledger.exists_answer position member
  exact (List.getElem?_eq_some_iff.mp present).choose

/-- A ledger stays as it is while nothing is sent and no task comes to be done. -/
theorem Ledger.frame (ledger : Ledger service worlds lines session origins)
    (sent : after.sent = session.sent)
    (done : ∀ index, after.stageAt index = some .done ↔ session.stageAt index = some .done) :
    Ledger service worlds lines after origins where
  distinct := ledger.distinct
  answers := by rw [sent]; exact ledger.answers
  refused := ledger.refused
  done asked := (ledger.done asked).trans (done _).symm

/-- Which lines are refused does not change when one more is read. -/
theorem filter_isRefusedAt_append_line {positions : List Nat}
    (early : ∀ position ∈ positions, position < lines.length) :
    positions.filter (isRefusedAt (lines ++ [line])) = positions.filter (isRefusedAt lines) := by
  apply List.filter_congr
  intro position member
  rw [isRefusedAt, getElem?_append_line (early position member), isRefusedAt]

theorem isRefusedAt_length :
    isRefusedAt (lines ++ [line]) lines.length = (refusalIn? line).isSome := by
  simp [isRefusedAt]

theorem Ledger.filter_append_line (ledger : Ledger service worlds lines session origins) :
    (List.range (lines ++ [line]).length).filter (isRefusedAt (lines ++ [line])) =
      origins.filter (isRefusedAt (lines ++ [line])) ++
        if (refusalIn? line).isSome then [lines.length] else [] := by
  rw [List.length_append, List.length_singleton, List.range_succ, List.filter_append,
    filter_isRefusedAt_append_line fun _ => List.mem_range.mp,
    filter_isRefusedAt_append_line ledger.origin_lt, ledger.refused, List.filter_cons,
    isRefusedAt_length, List.filter_nil]

theorem requestAt?_append_line {position : Nat} {request : Request}
    (asked : requestAt? (lines ++ [line]) position = some request) :
    requestAt? lines position = some request ∨
      position = lines.length ∧ requestIn? line = some request := by
  rcases Nat.lt_trichotomy position lines.length with before | rfl | beyond
  · rw [requestAt?, getElem?_append_line before] at asked
    exact Or.inl asked
  · exact Or.inr ⟨rfl, by simpa [requestAt?] using asked⟩
  · have := position_lt_of_requestAt? asked
    simp at this
    omega

/-- A line that is not refused books nothing by itself. -/
theorem Ledger.append_line (ledger : Ledger service worlds lines session origins)
    (accepted : refusalIn? line = none)
    (new : session.stageAt (lines.filterMap requestIn?).length = none) :
    Ledger service worlds (lines ++ [line]) session origins where
  distinct := ledger.distinct
  answers := ledger.answers.imp fun _ _ => Answers.append_line
  refused := by rw [ledger.filter_append_line, accepted]; simp
  done := by
    intro position request asked
    rcases requestAt?_append_line asked with before | ⟨rfl, -⟩
    · rw [taskNumber_append_line (Nat.le_of_lt (position_lt_of_requestAt? before))]
      exact ledger.done before
    · rw [taskNumber_append_line (Nat.le_refl _), taskNumber_length, new]
      constructor
      · intro member
        exact absurd (ledger.origin_lt _ member) (Nat.lt_irrefl _)
      · intro absent
        cases absent

/-- A refused line books its reply at once. -/
theorem Ledger.refuse {refusal : Refusal} (ledger : Ledger service worlds lines session origins)
    (refused : refusalIn? line = some refusal) :
    Ledger service worlds (lines ++ [line]) (session.send refusal.reply)
      (origins ++ [lines.length]) where
  distinct := by
    rw [List.nodup_append]
    refine ⟨ledger.distinct, by simp, ?_⟩
    intro position member other last
    cases List.mem_singleton.mp last
    exact Nat.ne_of_lt (ledger.origin_lt position member)
  answers := by
    rw [Session.sent_send]
    refine List.rel_append (ledger.answers.imp fun _ _ => Answers.append_line)
      (.cons ⟨line, by simp, ?_⟩ .nil)
    unfold refusalIn? at refused
    split at refused
    · cases refused
    · rename_i written
      refine ⟨by simpa using written, ?_⟩
      unfold Service.answerLine
      split at refused
      · rename_i said
        cases refused
        rw [said]
      · cases refused
  refused := by
    rw [ledger.filter_append_line, List.filter_append, List.filter_cons, isRefusedAt_length,
      List.filter_nil]
  done := by
    intro position request asked
    rcases requestAt?_append_line asked with before | ⟨-, asks⟩
    · have early := position_lt_of_requestAt? before
      rw [taskNumber_append_line (Nat.le_of_lt early), Session.stageAt_send,
        ← ledger.done before, List.mem_append]
      exact or_iff_left fun last => Nat.ne_of_lt early (List.mem_singleton.mp last)
    · rw [refusalIn?_eq_none_of_requestIn? asks] at refused
      cases refused

/-- A line that is read is booked at once if it is refused, and not at all otherwise. -/
theorem Ledger.exists_readLine (ledger : Ledger service worlds lines session origins)
    (next : session.stageAt (lines.filterMap requestIn?).length = none) (line : String) :
    ∃ origins, Ledger service worlds (lines ++ [line]) (session.readLine line) origins := by
  rcases session.readLine_cases line with ⟨refusal, refused, _, same⟩ |
    ⟨request, accepted, _, same⟩ | ⟨id, reason, accepted, _, _, same⟩ | ⟨events, accepted, _, same⟩
  · exact ⟨_, same ▸ ledger.refuse refused⟩
  · refine ⟨origins, (ledger.append_line accepted next).frame ?_ fun index => ?_⟩
    · rw [same, Session.sent_accept]
    · rw [same, Session.stageAt_accept]
      split
      · rename_i last
        simp [last, Session.stageAt_length]
      · rfl
  · refine ⟨origins, (ledger.append_line accepted next).frame ?_ fun index => ?_⟩
    · rw [same, Session.sent_cancel]
    · rw [same, Session.stageAt_cancel]
      exact Session.ite_aborted_eq_done_iff
  · refine ⟨origins, (ledger.append_line accepted next).frame ?_ fun index => ?_⟩
    · rw [same, Session.sent_report]
    · rw [same, Session.stageAt_report]

/-- The reply to a request, given by its own work, is the one its line gets when answered alone. -/
theorem answers_of_requestAt? {position : Nat} {request : Request} {reply : Reply}
    (asked : requestAt? lines position = some request)
    (answered : (service.work request).reply? (worlds (taskNumber lines position)) = some reply) :
    Answers service worlds lines position reply := by
  obtain ⟨line, present, said⟩ := Option.bind_eq_some_iff.mp asked
  unfold requestIn? at said
  split at said
  · cases said
  · rename_i written
    refine ⟨line, present, by simpa using written, ?_⟩
    unfold Service.answerLine
    split at said
    · rename_i message
      cases said
      rw [message]
      exact answered
    · cases said

/-- A task that comes to be done books its reply on the line of its request. -/
theorem Ledger.finish {position : Nat} {request : Request} {reply : Reply}
    (ledger : Ledger service worlds lines session origins)
    (asked : requestAt? lines position = some request)
    (answered : (service.work request).reply? (worlds (taskNumber lines position)) = some reply)
    (undone : session.stageAt (taskNumber lines position) ≠ some .done)
    (sent : after.sent = session.sent ++ [reply])
    (done : ∀ index, after.stageAt index = some .done ↔
      session.stageAt index = some .done ∨ index = taskNumber lines position) :
    Ledger service worlds lines after (origins ++ [position]) where
  distinct := by
    rw [List.nodup_append]
    refine ⟨ledger.distinct, by simp, ?_⟩
    rintro booked member other last rfl
    cases List.mem_singleton.mp last
    exact undone ((ledger.done asked).mp member)
  answers := by
    rw [sent]
    exact List.rel_append ledger.answers (.cons (answers_of_requestAt? asked answered) .nil)
  refused := by
    have accepted : isRefusedAt lines position = false := by
      obtain ⟨line, present, said⟩ := Option.bind_eq_some_iff.mp asked
      simp [isRefusedAt, present, refusalIn?_eq_none_of_requestIn? said]
    rw [List.filter_append, List.filter_cons, accepted, ← ledger.refused]
    simp
  done := by
    intro other second also
    rw [List.mem_append, List.mem_singleton, done, ledger.done also]
    refine or_congr_right ⟨fun same => by rw [same], fun same => ?_⟩
    exact position_eq_of_taskNumber also asked same

end Ledgers

namespace Run

variable {host : Session → String → Prop} {service : Service} {worlds : Nat → World}
  {lines : List String} {closing : Option Session} {session : Session}

/-- The next task is the one of the next request. -/
theorem stageAt_next (run : Run host service worlds lines closing session) :
    session.stageAt (lines.filterMap requestIn?).length = none := by
  rw [← Option.not_isSome_iff_eq_none, Session.stageAt_isSome_iff, run.jobs_eq, List.length_map]
  exact Nat.lt_irrefl _

/-- Every task works on the request of its number. -/
theorem exists_request {index : Nat} {task : Task}
    (run : Run host service worlds lines closing session)
    (present : session.tasks[index]? = some task) :
    ∃ request, (lines.filterMap requestIn?)[index]? = some request ∧
      task.work = service.work request := by
  have job : session.jobs[index]? = some (task.request, task.work) := by
    rw [Session.jobs, List.getElem?_map, present, Option.map_some]
  rw [run.jobs_eq, List.getElem?_map] at job
  obtain ⟨request, asked, same⟩ := Option.map_eq_some_iff.mp job
  injection same with _ work
  exact ⟨request, asked, work.symm⟩

/-- **Every run keeps a ledger of its replies.** -/
theorem exists_ledger (run : Run host service worlds lines closing session) :
    ∃ origins, Ledger service worlds lines session origins := by
  induction run with
  | start =>
      refine ⟨[], List.nodup_nil, .nil, rfl, ?_⟩
      intro position request asked
      simp [requestAt?] at asked
  | @read lines session line earlier _ ih =>
      obtain ⟨origins, ledger⟩ := ih
      exact ledger.exists_readLine earlier.stageAt_next line
  | begin index _ ih =>
      obtain ⟨origins, ledger⟩ := ih
      refine ⟨origins, ledger.frame (Session.sent_begin _) fun other => ?_⟩
      rcases Session.stageAt_begin (worlds index) other with same | ⟨waiting, begun⟩
      · rw [same]
      · simp [waiting, begun]
  | @finish lines closing session index earlier ih =>
      obtain ⟨origins, ledger⟩ := ih
      rcases session.finish_cases (worlds index) index with
        same | ⟨task, reply, events, present, begun, answered, same⟩
      · exact ⟨origins, by rwa [same]⟩
      · obtain ⟨request, asked, work⟩ := earlier.exists_request present
        obtain ⟨position, there, number⟩ := exists_requestAt? asked
        subst number
        have reached : session.stageAt (taskNumber lines position) = some .begun := by
          rw [Session.stageAt, present, Option.map_some, begun]
        refine ⟨_, ledger.finish there (work ▸ answered) (by simp [reached]) (by rw [same]; simp)
          fun other => ?_⟩
        rw [same, Session.stageAt_send, Session.stageAt_report, Session.stageAt_setStage]
        by_cases equal : taskNumber lines position = other
        · subst equal
          simp [reached]
        · simp [equal, Ne.symm equal]
  | write _ ih =>
      obtain ⟨origins, ledger⟩ := ih
      exact ⟨origins, ledger.frame Session.sent_write fun _ => by rw [Session.stageAt_write]⟩
  | close earlier ih =>
      obtain ⟨origins, ledger⟩ := ih
      refine ⟨origins, ledger.frame (Session.sent_close earlier.phase_eq) fun other => ?_⟩
      rw [Session.stageAt_close earlier.phase_eq]
      exact Session.ite_aborted_eq_done_iff

/-- A line that takes a request back aborts only a task with an id of the same text. -/
theorem render_eq_of_registered {position : Nat} {request : Request} {key : String}
    (run : Run host service worlds lines closing session)
    (asked : requestAt? lines position = some request)
    (registered : session.inFlight.lookup key = some (taskNumber lines position)) :
    key = request.id.render := by
  obtain ⟨before, after, listed, -⟩ := List.lookup_eq_some_iff.mp registered
  obtain ⟨job, present, text⟩ := run.registered (key, taskNumber lines position) (by simp [listed])
  rw [run.jobs_eq, List.getElem?_map, getElem?_requests asked, Option.map_some,
    Option.some.injEq] at present
  subst present
  exact text.symm

/-- A task is aborted only after its request was taken back, or at the end of the input. -/
theorem aborted {position : Nat} {request : Request}
    (run : Run host service worlds lines closing session)
    (asked : requestAt? lines position = some request)
    (ended : session.stageAt (taskNumber lines position) = some .aborted) :
    TakenBack lines position request ∨ CutOff closing (taskNumber lines position) := by
  induction run with
  | start => simp [requestAt?] at asked
  | @read lines session line earlier _ ih =>
      rcases requestAt?_append_line asked with before | ⟨rfl, -⟩
      · have early := position_lt_of_requestAt? before
        rw [taskNumber_append_line (Nat.le_of_lt early)] at ended ⊢
        rcases Session.stageAt_readLine line (taskNumber lines position) with
          same | ⟨-, waiting⟩ | ⟨-, -, id, cancels, registered⟩
        · exact (ih before (same ▸ ended)).imp_left TakenBack.append_line
        · rw [waiting] at ended
          cases ended
        · exact Or.inl ⟨lines.length, id, early, by simpa using cancels,
            earlier.render_eq_of_registered before registered⟩
      -- The request was read just now, so there is no task to abort before that.
      · rw [taskNumber_append_line (Nat.le_refl _), taskNumber_length] at ended
        rcases Session.stageAt_readLine line (lines.filterMap requestIn?).length with
          same | ⟨-, waiting⟩ | ⟨-, live, -⟩
        · rw [same, earlier.stageAt_next] at ended
          cases ended
        · rw [waiting] at ended
          cases ended
        · rw [Session.isLiveAt_iff, earlier.stageAt_next] at live
          rcases live with never | never <;> cases never
  | @begin _ _ session index _ ih =>
      rcases Session.stageAt_begin (worlds index) (taskNumber _ position) with same | ⟨-, begun⟩
      · exact ih asked (same ▸ ended)
      · rw [begun] at ended
        cases ended
  | @finish _ _ session index _ ih =>
      rcases Session.stageAt_finish (worlds index) (taskNumber _ position) with same | ⟨-, done⟩
      · exact ih asked (same ▸ ended)
      · rw [done] at ended
        cases ended
  | write _ ih => exact ih asked (Session.stageAt_write ▸ ended)
  | @close _ session earlier ih =>
      rw [Session.stageAt_close earlier.phase_eq] at ended
      split at ended
      · rename_i live
        exact Or.inr ⟨session, rfl, live.2⟩
      · rcases ih asked ended with back | ⟨final, never, -⟩
        · exact Or.inl back
        · cases never

/-- What is done stays done. -/
theorem done_of_doneInTime {index : Nat} (run : Run host service worlds lines closing session)
    (early : DoneInTime closing index) : session.stageAt index = some .done := by
  induction run with
  | start =>
      obtain ⟨final, never, -⟩ := early
      cases never
  | read line _ _ _ =>
      obtain ⟨final, never, -⟩ := early
      cases never
  | begin moved _ ih =>
      rcases Session.stageAt_begin (worlds moved) index with same | ⟨waiting, -⟩
      · exact same.trans (ih early)
      · rw [ih early] at waiting
        cases waiting
  | finish moved _ ih =>
      rcases Session.stageAt_finish (worlds moved) index with same | ⟨-, done⟩
      · exact same.trans (ih early)
      · exact done
  | write _ ih => exact Session.stageAt_write.trans (ih early)
  | close earlier _ =>
      obtain ⟨final, same, done⟩ := early
      cases same
      rw [Session.stageAt_close earlier.phase_eq, Session.ite_aborted_eq_done_iff]
      exact done

/-- When serving is over, everything that was sent is written. -/
theorem sent_eq_written (returned : session.hasReturned) : session.sent = session.written := by
  obtain ⟨closed, still⟩ := returned
  simp only [Session.isRunning, closed, Bool.or_eq_false_iff, Bool.not_eq_false',
    List.isEmpty_iff] at still
  rw [Session.sent, still.2, List.append_nil]

/-- When serving is over, no task can come to anything. -/
theorem not_isLiveAt {index : Nat} (returned : session.hasReturned) :
    session.isLiveAt index = false := by
  obtain ⟨closed, still⟩ := returned
  simp only [Session.isRunning, closed, Bool.or_eq_false_iff, List.any_eq_false] at still
  unfold Session.isLiveAt
  cases present : session.tasks[index]? with
  | none => rfl
  | some task => simpa using still.1 task (List.mem_of_getElem? present)

/-- A request whose task is not done when serving is over has been aborted. -/
theorem aborted_of_hasReturned {position : Nat} {request : Request}
    (run : Run host service worlds lines closing session) (returned : session.hasReturned)
    (asked : requestAt? lines position = some request)
    (undone : session.stageAt (taskNumber lines position) ≠ some .done) :
    session.stageAt (taskNumber lines position) = some .aborted := by
  have there : (session.stageAt (taskNumber lines position)).isSome := by
    rw [Session.stageAt_isSome_iff, run.jobs_eq, List.length_map]
    exact (List.getElem?_eq_some_iff.mp (getElem?_requests asked)).choose
  have still : ¬ session.isLiveAt (taskNumber lines position) = true := by
    simp [not_isLiveAt returned]
  rw [Session.isLiveAt_iff, not_or] at still
  obtain ⟨stage, reached⟩ := Option.isSome_iff_exists.mp there
  rw [reached] at still undone ⊢
  cases stage <;> simp_all

/-- **Every reply answers a line of its own, and no line is lost silently.** At any point of a run
the replies written so far answer lines read before, each the reply that its line gets alone, no two
of them the same line, and none of them a blank line or a notification. Once serving is over, the
refused lines have been answered in their order, and so has every request whose task was done before
the input ended; a request goes without a reply only when a later line takes back an id of the same
text, or when the input ended before its task was done. -/
theorem replies_accounted (run : Run host service worlds lines closing session) :
    ∃ origins : List Nat,
      origins.Nodup ∧
      List.Forall₂ (Answers service worlds lines) origins session.written ∧
      (∀ position ∈ origins,
        (requestAt? lines position).isSome ∨ isRefusedAt lines position = true) ∧
      (session.hasReturned →
        origins.filter (isRefusedAt lines) =
          (List.range lines.length).filter (isRefusedAt lines) ∧
        (∀ position request, requestAt? lines position = some request →
          DoneInTime closing (taskNumber lines position) → position ∈ origins) ∧
        ∀ position request, requestAt? lines position = some request → position ∉ origins →
          TakenBack lines position request ∨ CutOff closing (taskNumber lines position)) := by
  obtain ⟨origins, ledger⟩ := run.exists_ledger
  refine ⟨origins.take session.written.length, ledger.distinct.sublist (List.take_sublist _ _),
    List.forall₂_take_append _ _ _ ledger.answers,
    fun position member => ?_, fun returned => ?_⟩
  · obtain ⟨_, answer⟩ := ledger.exists_answer position (List.mem_of_mem_take member)
    exact answer.asked_or_refused
  have all : origins.take session.written.length = origins := by
    rw [← sent_eq_written returned, ← ledger.answers.length_eq, List.take_length]
  rw [all]
  refine ⟨ledger.refused, fun position request asked early => ?_,
    fun position request asked unanswered => ?_⟩
  · exact (ledger.done asked).mpr (run.done_of_doneInTime early)
  · have undone := mt (ledger.done asked).mpr unanswered
    exact run.aborted asked (run.aborted_of_hasReturned returned asked undone)

end Run

/-! ### A session with one line of each kind -/

/-- A service without any capability. -/
def bareService : Service :=
  .ofRegistry ⟨[]⟩ none

/-- A world that nobody can be reached in. -/
def deafWorld : World where
  settings := ⟨⟨"http", "", none, "localhost", none, Url.rootPath, none, none⟩, "key", ⟨30000⟩⟩
  now := ⟨2025, 1, 1, 0, 0, 0, 0⟩
  outcome := .failed .refused

/-- A refused line, a request, the line that takes it back, and another request. -/
def fourLines : List String := [
  "x",
  "\x7b\"id\":7,\"method\":\"ping\"\x7d",
  "\x7b\"method\":\"notifications/cancelled\",\"params\":\x7b\"requestId\":7\x7d\x7d",
  "\x7b\"id\":8,\"method\":\"ping\"\x7d"]

/-- The session after these lines, with the second request answered and the input not yet ended. -/
def fourLinesRead : Session :=
  (((Session.start bareService).readEach fourLines).begin deafWorld 1).finish deafWorld 1

/-- The session when serving is over. -/
def fourLinesServed : Session :=
  fourLinesRead.close.write.write

/-- The four lines are accounted for: the request that was taken back is the only one without a
reply. -/
theorem replies_accounted_fourLines :
    ∃ origins : List Nat,
      origins.Nodup ∧
      List.Forall₂ (Answers bareService (fun _ => deafWorld) fourLines) origins
        fourLinesServed.written ∧
      (∀ position ∈ origins,
        (requestAt? fourLines position).isSome ∨ isRefusedAt fourLines position = true) ∧
      origins.filter (isRefusedAt fourLines) = (List.range 4).filter (isRefusedAt fourLines) ∧
      (∀ position request, requestAt? fourLines position = some request →
        DoneInTime (some fourLinesRead) (taskNumber fourLines position) → position ∈ origins) ∧
      ∀ position request, requestAt? fourLines position = some request → position ∉ origins →
        TakenBack fourLines position request ∨
          CutOff (some fourLinesRead) (taskNumber fourLines position) := by
  have fresh : Run (fun _ _ => True) bareService (fun _ => deafWorld) [] none
      (Session.start bareService) := .start
  have read := fresh.readAll (fun _ _ => trivial) fourLines
  rw [List.nil_append] at read
  have served : Run (fun _ _ => True) bareService (fun _ => deafWorld) fourLines
      (some fourLinesRead) fourLinesServed := by
    unfold fourLinesServed
    refine Run.write (Run.write (Run.close ?_))
    unfold fourLinesRead
    exact (read.begin 1).finish 1
  have returned : fourLinesServed.hasReturned := ⟨by decide +kernel, by decide +kernel⟩
  obtain ⟨origins, distinct, answers, kinds, final⟩ := served.replies_accounted
  exact ⟨origins, distinct, answers, kinds, final returned⟩

end SuiteBridge.Host
