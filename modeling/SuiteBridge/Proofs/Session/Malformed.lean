import SuiteBridge.Proofs.Session.Answer
import SuiteBridge.Proofs.Session.Beside

/-!
# Lines that are malformed

A malformed line is no text, or it is a text that is no document. What it does to a session is told
by comparing the session with one that was not sent the line (`malformed_cases`):

* after a line that is a text the sessions are in step: one has one more reply than the other, and
  each can do what the other does;
* a line that is no text ends the session where it stands: it has no reply, and nothing after it is
  read.
-/

namespace SuiteBridge.Host

/-- A line that is no text, or one that is not blank and no document. -/
def Malformed (line : List UInt8) : Prop :=
  ∀ text, Text.Utf8.decode? line = some text → Text.isBlank text = false ∧ NotJson text

namespace Session

variable {session : Session} {reply : Reply}

/-- A line that is no document is refused. -/
theorem readLine_of_notJson {line : String} (written : Text.isBlank line = false)
    (unread : NotJson line) :
    ∃ problem, ∀ session : Session,
      session.readLine line = session.send (Refusal.notJson problem).reply := by
  obtain ⟨problem, refused⟩ := (Message.tells_ofLine line).notJson_iff.mp unread
  refine ⟨problem, ?_⟩
  intro session
  simp [readLine, written, refused]

/-- A line that is met with a reply, wherever it is sent. -/
def MetWith (line : List UInt8) (reply : Reply) : Prop :=
  ∀ session : Session, session.AtLine →
    (session.keep line).receive [lineFeed] = session.send reply

/-- A malformed line that is a text is met with the refusal of it. -/
theorem exists_metWith {line : List UInt8} (free : lineFeed ∉ line)
    (malformed : Malformed (withoutReturn line))
    (spelt : (Text.Utf8.decode? (withoutReturn line)).isSome = true) :
    ∃ problem, MetWith line (Refusal.notJson problem).reply := by
  obtain ⟨text, decoded⟩ := Option.isSome_iff_exists.mp spelt
  obtain ⟨written, unread⟩ := malformed text decoded
  obtain ⟨problem, refused⟩ := readLine_of_notJson written unread
  refine ⟨problem, ?_⟩
  intro session ready
  rw [ready.receive_line free, readBytes_of_decode ready.1 decoded, refused]

theorem AtLine.readBytes_of_not_text {line : List UInt8} (ready : session.AtLine)
    (noText : Text.Utf8.decode? line = none) :
    session.readBytes line = session.withInput [] .failed := by
  obtain ⟨serving, kept⟩ := ready
  rw [← kept]
  simp [readBytes, serving, noText, withInput]

theorem phase_failed_ne : (session.withInput [] .failed).phase ≠ .serving :=
  Phase.noConfusion

theorem endInput_of_ne (stopped : session.phase ≠ .serving) : session.endInput = session := by
  simp [endInput, close, stopped]

end Session

namespace Feed

variable {worlds : Nat → World} {first session bare : Session} {reply : Reply}
  {front line back stream : List UInt8} {ended : Bool}

/-! ### A line with a reply -/

/-- With a line that is met with a reply, a session does what it does without the line, and it sends
the reply as well. -/
theorem exists_without (fed : Feed worlds first (front ++ (line ++ lineFeed :: back)) ended session)
    (fresh : first.AtLine) (legible : Legible front) (free : lineFeed ∉ line)
    (met : Session.MetWith line reply) :
    ∃ other, Feed worlds first (front ++ back) ended other ∧
      Session.Beside reply session other := by
  obtain ⟨bare, before, after⟩ := (around_iff fresh legible free).mp fed
  rw [met bare (before.atLine fresh legible)] at after
  obtain ⟨other, own, beside⟩ := after.beside (.send reply bare)
  exact ⟨other, before.trans own, beside⟩

/-- What a session does without a line that is met with a reply, it does with the line as well. -/
theorem exists_with (fed : Feed worlds first (front ++ back) ended session)
    (fresh : first.AtLine) (legible : Legible front) (free : lineFeed ∉ line)
    (met : Session.MetWith line reply) :
    ∃ other, Feed worlds first (front ++ (line ++ lineFeed :: back)) ended other ∧
      Session.Beside reply other session := by
  obtain ⟨middle, before, after⟩ := fed.exists_middle
  obtain ⟨other, own, beside⟩ := after.beside_of (.send reply middle)
  rw [← met middle (before.atLine fresh legible)] at own
  exact ⟨other, (around_iff fresh legible free).mpr ⟨middle, before, own⟩, beside⟩

/-! ### A session that reads no more -/

/-- A session that has failed does the work that it would do while it waits for more input. -/
theorem failed (fed : Feed worlds bare [] false session) :
    Feed worlds (bare.withInput [] .failed) [] false (session.withInput [] .failed) := by
  generalize nothing : [] = stream at fed
  generalize lasting : false = ended at fed
  induction fed with
  | start => exact .start
  | receive byte _ _ => exact absurd nothing.symm (List.append_ne_nil_of_right_ne_nil _ nofun)
  | endInput => cases lasting
  | begin index _ ih =>
      rw [← (Session.blind_begin _ index).withInput]
      exact (ih nothing lasting).begin index
  | finish index _ ih =>
      rw [← (Session.blind_finish _ index).withInput]
      exact (ih nothing lasting).finish index
  | write _ ih =>
      rw [← Session.write_withInput]
      exact (ih nothing lasting).write

/-- A session that has failed is as it was, but for the work on what it has read before. -/
theorem failed_iff : Feed worlds (bare.withInput [] .failed) stream ended session ↔
    ∃ other, Feed worlds bare [] false other ∧ session = other.withInput [] .failed := by
  constructor
  · intro fed
    induction fed with
    | start => exact ⟨bare, .start, rfl⟩
    | receive byte _ ih =>
        obtain ⟨other, own, rfl⟩ := ih
        exact ⟨other, own, Session.receive_of_ne Session.phase_failed_ne [byte]⟩
    | endInput _ ih =>
        obtain ⟨other, own, rfl⟩ := ih
        exact ⟨other, own, Session.endInput_of_ne Session.phase_failed_ne⟩
    | begin index _ ih =>
        obtain ⟨other, own, rfl⟩ := ih
        exact ⟨_, own.begin index, (Session.blind_begin _ index).withInput [] .failed other⟩
    | finish index _ ih =>
        obtain ⟨other, own, rfl⟩ := ih
        exact ⟨_, own.finish index, (Session.blind_finish _ index).withInput [] .failed other⟩
    | write _ ih =>
        obtain ⟨other, own, rfl⟩ := ih
        exact ⟨_, own.write, Session.write_withInput [] .failed⟩
  · intro found
    obtain ⟨other, own, rfl⟩ := found
    have deaf : Feed worlds (bare.withInput [] .failed) stream false
        (other.withInput [] .failed) := by
      induction stream using List.reverseRecOn with
      | nil => exact own.failed
      | append_singleton stream byte ih =>
          have more := ih.receive byte
          rwa [Session.receive_of_ne Session.phase_failed_ne] at more
    cases ended with
    | false => exact deaf
    | true =>
        have closed := deaf.endInput
        rwa [Session.endInput_of_ne Session.phase_failed_ne] at closed

/-- A line that is no text ends a session as it was before the line. -/
theorem around_iff_of_not_text (fresh : first.AtLine) (legible : Legible front)
    (free : lineFeed ∉ line) (noText : Text.Utf8.decode? (withoutReturn line) = none) :
    Feed worlds first (front ++ (line ++ lineFeed :: back)) ended session ↔
      ∃ bare, Feed worlds first front false bare ∧ session = bare.withInput [] .failed := by
  have fails (bare : Session) (ready : bare.AtLine) :
      (bare.keep line).receive [lineFeed] = bare.withInput [] .failed := by
    rw [ready.receive_line free, ready.readBytes_of_not_text noText]
  rw [around_iff fresh legible free]
  constructor
  · intro found
    obtain ⟨bare, before, after⟩ := found
    rw [fails bare (before.atLine fresh legible), failed_iff] at after
    obtain ⟨other, own, same⟩ := after
    have whole := before.trans own
    rw [List.append_nil] at whole
    exact ⟨other, whole, same⟩
  · intro found
    obtain ⟨bare, before, same⟩ := found
    refine ⟨bare, before, ?_⟩
    rw [fails bare (before.atLine fresh legible), failed_iff]
    exact ⟨bare, .start, same⟩

end Feed

/-- **A malformed line that is a text is answered, and one that is no text ends the session.** With
the first kind of line a session can do exactly what it can do without the line, but for one error
reply under no id, which is written by the time the session returns. With the second kind of line it
stays as it was before the line, but for the work on earlier requests: it sends nothing for the
line, reads nothing after it, and does not go on. -/
theorem malformed_cases {service : Service} {worlds : Nat → World} {front bad back : List UInt8}
    (legible : Legible front) (free : lineFeed ∉ bad) (malformed : Malformed (withoutReturn bad)) :
    ((Text.Utf8.decode? (withoutReturn bad)).isSome = true →
      ∃ reply : Reply, errorCode? reply.toJson = some (.int (-32700)) ∧ reply.id = .null ∧ ∀ ended,
        (∀ session,
          Feed worlds (.start service) (front ++ (bad ++ lineFeed :: back)) ended session →
          (session.hasReturned → reply ∈ session.written) ∧
          ∃ bare, Feed worlds (.start service) (front ++ back) ended bare ∧
            Session.Beside reply session bare) ∧
        ∀ bare, Feed worlds (.start service) (front ++ back) ended bare →
          ∃ session,
            Feed worlds (.start service) (front ++ (bad ++ lineFeed :: back)) ended session ∧
              Session.Beside reply session bare) ∧
    (Text.Utf8.decode? (withoutReturn bad) = none →
      ∀ ended session,
        Feed worlds (.start service) (front ++ (bad ++ lineFeed :: back)) ended session ↔
          ∃ bare, Feed worlds (.start service) front false bare ∧
            session = bare.withInput [] .failed) := by
  have fresh := Session.atLine_start service
  constructor
  · intro spelt
    obtain ⟨problem, met⟩ := Session.exists_metWith free malformed spelt
    have code := (errorCode?_toJson_eq_iff (Refusal.notJson problem).reply .parseError).mpr rfl
    refine ⟨(Refusal.notJson problem).reply, code, rfl, ?_⟩
    intro ended
    constructor
    · intro session fed
      obtain ⟨bare, own, beside⟩ := fed.exists_without fresh legible free met
      refine ⟨?_, bare, own, beside⟩
      intro returned
      obtain ⟨earlier, later, sent, -⟩ := beside.exists_sent
      rw [← Run.sent_eq_written returned, sent]
      exact List.mem_append_cons_self
    · intro bare fed
      exact fed.exists_with fresh legible free met
  · intro noText ended session
    exact Feed.around_iff_of_not_text fresh legible free noText

/-- A request and the end of its line, in bytes. -/
def pingBytes : List UInt8 :=
  Text.Utf8.encode "\x7b\"id\":1,\"method\":\"ping\"\x7d".toList ++ [lineFeed]

/-- A session that has received the request and finished with it. -/
def pinged : Session :=
  (((Session.start bareService).receive pingBytes).begin deafWorld 0).finish deafWorld 0

theorem feed_pinged :
    Feed (fun _ => deafWorld) (.start bareService) pingBytes false pinged := by
  have spelt : Spelt pingBytes := by
    unfold Spelt
    decide +kernel
  have received : Feed (fun _ => deafWorld) (.start bareService) pingBytes false
      ((Session.start bareService).receive pingBytes) :=
    .receiveAll (Session.atLine_start bareService) spelt
  exact (received.begin 0).finish 0

theorem malformed_text : Malformed [120] := by
  intro text decoded
  have same : Text.Utf8.decode? [120] = some "x" := by decide +kernel
  obtain rfl := Option.some.inj (same.symm.trans decoded)
  refine ⟨by decide, ?_⟩
  intro document
  exact nofun

theorem decode_stray : Text.Utf8.decode? [255] = none := by decide +kernel

theorem malformed_stray : Malformed [255] := by
  intro text decoded
  rw [decode_stray] at decoded
  cases decoded

/-- After a line that is a text, the request is answered as well; after a byte that belongs to no
text, nothing is sent at all. -/
theorem malformed_cases_stray :
    Legible [] ∧ lineFeed ∉ [120] ∧ Malformed (withoutReturn [120]) ∧
      lineFeed ∉ [255] ∧ Malformed (withoutReturn [255]) ∧
      (∃ session, Feed (fun _ => deafWorld) (.start bareService)
        ([] ++ ([120] ++ lineFeed :: pingBytes)) false session ∧ session.sent.length = 2) ∧
      ∀ ended session, Feed (fun _ => deafWorld) (.start bareService)
        ([] ++ ([255] ++ lineFeed :: pingBytes)) ended session → session.sent = [] := by
  have noFeed : lineFeed ∉ [120] := by decide
  have noFeedToo : lineFeed ∉ [255] := by decide
  refine ⟨.nil, noFeed, malformed_text, noFeedToo, malformed_stray, ?_, ?_⟩
  · have spelt : (Text.Utf8.decode? (withoutReturn [120])).isSome = true := by decide +kernel
    obtain ⟨told, -⟩ := @malformed_cases bareService (fun _ => deafWorld) [] [120] pingBytes .nil
      noFeed malformed_text
    obtain ⟨reply, -, -, both⟩ := told spelt
    obtain ⟨session, own, beside⟩ := (both false).2 pinged feed_pinged
    obtain ⟨earlier, later, sent, rest⟩ := beside.exists_sent
    have one : pinged.sent.length = 1 := by decide +kernel
    refine ⟨session, own, ?_⟩
    rw [rest, List.length_append] at one
    rw [sent, List.length_append, List.length_cons, ← Nat.add_assoc, one]
  · intro ended session fed
    obtain ⟨-, told⟩ := @malformed_cases bareService (fun _ => deafWorld) [] [255] pingBytes .nil
      noFeedToo malformed_stray
    obtain ⟨bare, own, rfl⟩ := (told decode_stray ended session).mp fed
    rw [own.eq_start]
    rfl

/-- A byte that belongs to no text is malformed, and so it should be answered; it is not, and nor is
the request after it, which is answered where the byte is not sent. -/
theorem unanswered_stray :
    Malformed [255] ∧
      (∃ session, Feed (fun _ => deafWorld) (.start bareService) pingBytes false session ∧
        session.sent ≠ []) ∧
      (∃ session, Feed (fun _ => deafWorld) (.start bareService)
        ([255] ++ lineFeed :: pingBytes) true session) ∧
      ∀ ended session, Feed (fun _ => deafWorld) (.start bareService)
        ([255] ++ lineFeed :: pingBytes) ended session →
          session.sent = [] ∧ session.isRunning = false := by
  have noFeed : lineFeed ∉ [255] := by decide
  have fresh := Session.atLine_start bareService
  have ends (ended : Bool) (session : Session) := @Feed.around_iff_of_not_text (fun _ => deafWorld)
    (.start bareService) session [] [255] pingBytes ended fresh .nil noFeed decode_stray
  refine ⟨malformed_stray, ⟨pinged, feed_pinged, by decide +kernel⟩, ?_, ?_⟩
  · exact ⟨_, (ends true _).mpr ⟨_, .start, rfl⟩⟩
  · intro ended session fed
    obtain ⟨bare, own, rfl⟩ := (ends ended session).mp fed
    rw [own.eq_start]
    exact ⟨rfl, rfl⟩

end SuiteBridge.Host
