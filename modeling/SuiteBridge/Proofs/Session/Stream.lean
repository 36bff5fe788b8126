import SuiteBridge.Proofs.Session.Run

/-!
# Sessions over streams of bytes

`Feed` relates the bytes that a session has received to every state it can then be in: one byte
comes in at a time, the input may end, and in between the tasks begin and finish and replies are
written in any order. Many bytes at once are no more than one after the other (`Feed.receiveAll`).

As long as all its lines are texts, a session reads on and keeps the bytes after the last line feed
(`Feed.reading`). What comes before a line, the line itself and what comes after it can be told
apart in any feed (`Feed.around_iff`), because the work that goes on meanwhile does not look at the
input (`Session.Blind`).
-/

namespace SuiteBridge.Host

/-! ## Cutting lines -/

/-- One more byte ends the last line, or it is kept. -/
theorem cutLines_concat (bytes : List UInt8) (byte : UInt8) :
    cutLines (bytes ++ [byte]) =
      if byte = lineFeed then ((cutLines bytes).1 ++ [(cutLines bytes).2], [])
      else ((cutLines bytes).1, (cutLines bytes).2 ++ [byte]) := by
  induction bytes with
  | nil =>
      by_cases ends : byte = lineFeed
      · simp [cutLines, ends]
      · simp [cutLines, ends]
  | cons first bytes ih =>
      rw [List.cons_append, cutLines, cutLines, ih]
      obtain ⟨lines, tail⟩ := cutLines bytes
      by_cases ends : byte = lineFeed <;> by_cases starts : first = lineFeed <;>
        cases lines <;> simp [ends, starts]

theorem linesOf_eq (bytes : List UInt8) :
    linesOf bytes = ((cutLines bytes).1.map withoutReturn, (cutLines bytes).2) :=
  rfl

/-- Bytes without a line feed are kept. -/
theorem cutLines_eq_of_not_mem {bytes : List UInt8} (free : lineFeed ∉ bytes) :
    cutLines bytes = ([], bytes) := by
  induction bytes with
  | nil => rfl
  | cons first bytes ih =>
      obtain ⟨other, rest⟩ := List.ne_and_not_mem_of_not_mem_cons free
      simp [cutLines, ih rest, Ne.symm other]

theorem lineFeed_not_mem_tail (bytes : List UInt8) : lineFeed ∉ (cutLines bytes).2 := by
  induction bytes using List.reverseRecOn with
  | nil => simp [cutLines]
  | append_singleton bytes byte ih =>
      rw [cutLines_concat]
      split
      · simp
      · rename_i other
        simp [ih, Ne.symm other]

namespace Session

variable {session : Session}

/-- The session with other bytes kept. -/
def keep (unread : List UInt8) (session : Session) : Session :=
  { session with unread }

theorem keep_eq_self {unread : List UInt8} (kept : session.unread = unread) :
    session.keep unread = session := by
  rw [← kept]
  rfl

/-! ## Moves that look neither at the input nor at the replies -/

/-- The session with other bytes kept, in another phase and with other replies. -/
def around (unread : List UInt8) (phase : Phase) (outbox written : List Reply)
    (session : Session) : Session :=
  { session with unread, phase, outbox, written }

/-- The session with other bytes kept and in another phase. -/
def withInput (unread : List UInt8) (phase : Phase) (session : Session) : Session :=
  { session with unread, phase }

/-- A move that looks neither at the input nor at the replies: it leaves the input as it is, and
puts some replies, whatever the others are, behind those that wait. -/
def Blind (move : Session → Session) : Prop :=
  ∀ session, ∃ replies, ∀ unread phase outbox written,
    move (session.around unread phase outbox written) =
      (move session).around unread phase (outbox ++ replies) written

/-- A blind move does not mind another input. -/
theorem Blind.withInput {move : Session → Session} (blind : Blind move) (unread : List UInt8)
    (phase : Phase) (session : Session) :
    move (session.withInput unread phase) = (move session).withInput unread phase := by
  obtain ⟨replies, moved⟩ := blind session
  have own : move session = (move session).around session.unread session.phase
      (session.outbox ++ replies) session.written := moved _ _ _ _
  calc move (session.withInput unread phase)
      = (move session).around unread phase (session.outbox ++ replies) session.written :=
        moved unread phase session.outbox session.written
    _ = (move session).withInput unread phase := by
        rw [own]
        rfl

theorem Blind.keep {move : Session → Session} (blind : Blind move) (unread : List UInt8)
    (session : Session) : move (session.keep unread) = (move session).keep unread := by
  have phase : (move session).phase = session.phase := by
    have same : move session = (move session).withInput session.unread session.phase :=
      blind.withInput session.unread session.phase session
    rw [same]
    rfl
  have moved : move (session.keep unread) = (move session).withInput unread session.phase :=
    blind.withInput unread session.phase session
  rw [moved, ← phase]
  rfl

theorem Blind.unread_eq {move : Session → Session} (blind : Blind move) (session : Session) :
    (move session).unread = session.unread := by
  have same : move session = (move session).keep session.unread :=
    blind.keep session.unread session
  rw [same]
  rfl

/-- A move that takes no notice of the input and the replies, and sends nothing, is blind. -/
theorem Blind.of_around {move : Session → Session}
    (quiet : ∀ session unread phase outbox written,
      move (around unread phase outbox written session) =
        (move session).around unread phase outbox written) : Blind move := by
  intro session
  refine ⟨[], ?_⟩
  intro unread phase outbox written
  rw [List.append_nil]
  exact quiet session unread phase outbox written

theorem abort_around (index : Nat) (session : Session) (unread : List UInt8) (phase : Phase)
    (outbox written : List Reply) :
    (session.around unread phase outbox written).abort index =
      (session.abort index).around unread phase outbox written := by
  have same : (session.around unread phase outbox written).isLiveAt index =
      session.isLiveAt index := rfl
  unfold abort
  rw [same]
  split <;> rfl

theorem blind_abort (index : Nat) : Blind (abort index) :=
  .of_around (abort_around index)

theorem blind_report (events : List Event) : Blind (report events) :=
  .of_around fun _ _ _ _ _ => rfl

theorem blind_accept (request : Request) : Blind (accept request) :=
  .of_around fun _ _ _ _ _ => rfl

theorem blind_send (reply : Reply) : Blind (send reply) := by
  intro session
  exact ⟨[reply], fun _ _ _ _ => rfl⟩

theorem blind_cancel (id : Json) (reason : String) : Blind (cancel id reason) := by
  apply Blind.of_around
  intro session unread phase outbox written
  have same : (session.around unread phase outbox written).inFlight = session.inFlight := rfl
  unfold cancel
  rw [same]
  cases session.inFlight.lookup id.render with
  | none => rfl
  | some index =>
      have aborted := abort_around index
        { session with inFlight := session.inFlight.erase id.render } unread phase outbox written
      exact congrArg (report [.requestCancelled id reason]) aborted

theorem blind_readLine (line : String) : Blind (readLine line) := by
  intro session
  unfold readLine
  by_cases blank : Text.isBlank line = true
  · simp only [if_pos blank]
    exact ⟨[], by simp⟩
  · simp only [if_neg blank]
    cases Message.ofLine line with
    | error refusal => exact blind_send refusal.reply session
    | ok message =>
        cases message with
        | request request => exact blind_accept request session
        | notification notification =>
            simp only [notice]
            cases notification.cancels? with
            | none => exact blind_report (session.service.noticeEvents notification.method) session
            | some taken => exact blind_cancel taken.1 taken.2 session

theorem blind_begin (world : World) (index : Nat) : Blind (begin world index) := by
  apply Blind.of_around
  intro session unread phase outbox written
  have same : (session.around unread phase outbox written).tasks = session.tasks := rfl
  unfold begin
  rw [same]
  cases session.tasks[index]? with
  | none => rfl
  | some task =>
      by_cases waiting : task.stage = .waiting
      · simp only [if_pos waiting]
        rfl
      · simp only [if_neg waiting]

theorem blind_finish (world : World) (index : Nat) : Blind (finish world index) := by
  intro session
  have same : ∀ unread phase outbox written,
      (session.around unread phase outbox written).tasks = session.tasks :=
    fun _ _ _ _ => rfl
  unfold finish
  simp only [same]
  cases session.tasks[index]? with
  | none => exact ⟨[], by simp⟩
  | some task =>
      by_cases begun : task.stage = .begun
      · simp only [if_pos begun]
        cases task.work.reply? world with
        | none => exact ⟨[], by simp⟩
        | some reply => exact ⟨[reply], fun _ _ _ _ => rfl⟩
      · simp only [if_neg begun]
        exact ⟨[], by simp⟩

/-- Writing a reply does not mind another input. -/
theorem write_withInput (unread : List UInt8) (phase : Phase) :
    (session.withInput unread phase).write = session.write.withInput unread phase := by
  have same : (session.withInput unread phase).outbox = session.outbox := rfl
  unfold write
  rw [same]
  cases session.outbox with
  | nil => rfl
  | cons reply rest => rfl

theorem write_keep (unread : List UInt8) :
    (session.keep unread).write = session.write.keep unread := by
  have phase : session.write.phase = session.phase := congrArg Prod.snd standing_write
  have moved : (session.keep unread).write = session.write.withInput unread session.phase :=
    write_withInput unread session.phase
  rw [moved, ← phase]
  rfl

theorem unread_write : session.write.unread = session.unread := by
  unfold write
  split <;> rfl

/-! ## Receiving -/

/-- The session after several more lines of bytes. -/
def readEachBytes (lines : List (List UInt8)) (session : Session) : Session :=
  lines.foldl (fun session line => session.readBytes line) session

theorem readBytes_of_decode {bytes : List UInt8} {line : String}
    (serving : session.phase = .serving) (decoded : Text.Utf8.decode? bytes = some line) :
    session.readBytes bytes = session.readLine line := by
  simp [readBytes, serving, decoded]

/-- Reading a line does not mind what is kept of the next one. -/
theorem readBytes_keep (unread line : List UInt8) :
    (session.keep unread).readBytes line = (session.readBytes line).keep unread := by
  by_cases serving : session.phase = .serving
  · have serves : (session.keep unread).phase = .serving := serving
    cases decoded : Text.Utf8.decode? line with
    | none => simp [readBytes, serving, decoded, keep]
    | some text =>
        rw [readBytes_of_decode serves decoded, readBytes_of_decode serving decoded]
        exact (blind_readLine text).keep unread session
  · have stops : (session.keep unread).phase ≠ .serving := serving
    simp [readBytes, serving, stops]

theorem readEachBytes_append (lines more : List (List UInt8)) :
    session.readEachBytes (lines ++ more) = (session.readEachBytes lines).readEachBytes more :=
  List.foldl_append ..

theorem readEachBytes_keep (unread : List UInt8) (lines : List (List UInt8)) :
    (session.keep unread).readEachBytes lines = (session.readEachBytes lines).keep unread := by
  induction lines generalizing session with
  | nil => rfl
  | cons line lines ih =>
      calc (session.keep unread).readEachBytes (line :: lines)
          = ((session.readBytes line).keep unread).readEachBytes lines :=
            congrArg (readEachBytes lines) (readBytes_keep unread line)
        _ = ((session.readBytes line).readEachBytes lines).keep unread := ih

/-- The complete lines are read, and what follows them is kept. -/
theorem receive_eq (serving : session.phase = .serving) (bytes : List UInt8) :
    session.receive bytes =
      (session.readEachBytes (linesOf (session.unread ++ bytes)).1).keep
        (linesOf (session.unread ++ bytes)).2 := by
  unfold receive
  rw [if_pos serving]
  exact readEachBytes_keep _ _

theorem receive_of_ne (stopped : session.phase ≠ .serving) (bytes : List UInt8) :
    session.receive bytes = session := by
  simp [receive, stopped]

/-- A line feed ends the line that was begun. -/
theorem receive_lineFeed (serving : session.phase = .serving) (free : lineFeed ∉ session.unread) :
    session.receive [lineFeed] =
      (session.readBytes (withoutReturn session.unread)).keep [] := by
  rw [receive_eq serving, linesOf_eq, cutLines_concat, if_pos rfl, cutLines_eq_of_not_mem free]
  rfl

/-- Any other byte is kept. -/
theorem receive_other (serving : session.phase = .serving) (free : lineFeed ∉ session.unread)
    {byte : UInt8} (other : byte ≠ lineFeed) :
    session.receive [byte] = session.keep (session.unread ++ [byte]) := by
  rw [receive_eq serving, linesOf_eq, cutLines_concat, if_neg other, cutLines_eq_of_not_mem free]
  rfl

/-- One more byte can as well come later, unless a line before it ended the session. -/
theorem receive_concat {bytes : List UInt8} (byte : UInt8) (serving : session.phase = .serving)
    (after : (session.receive bytes).phase = .serving) :
    session.receive (bytes ++ [byte]) = (session.receive bytes).receive [byte] := by
  have kept : (session.receive bytes).unread = (cutLines (session.unread ++ bytes)).2 := by
    rw [receive_eq serving]
    rfl
  have free : lineFeed ∉ (session.receive bytes).unread := by
    rw [kept]
    exact lineFeed_not_mem_tail _
  rw [receive_eq serving, linesOf_eq, ← List.append_assoc, cutLines_concat]
  by_cases ends : byte = lineFeed
  · subst ends
    have keep_keep (unread : List UInt8) (session : Session) :
        (session.keep unread).keep [] = session.keep [] := rfl
    rw [receive_lineFeed after free, kept, if_pos rfl, receive_eq serving, linesOf_eq,
      readBytes_keep, keep_keep, List.map_append, readEachBytes_append]
    rfl
  · rw [receive_other after free ends, kept, if_neg ends, receive_eq serving]
    rfl

end Session

/-! ## Feeding a session -/

/-- `Feed worlds first stream ended session`: having received the bytes of `stream` after it was in
the state `first`, a session can be in the state `session`; `ended` tells whether the input has
ended. The task of a number meets the world that `worlds` gives for it. -/
inductive Feed (worlds : Nat → World) (first : Session) : List UInt8 → Bool → Session → Prop
  | start : Feed worlds first [] false first
  | receive {stream : List UInt8} {session : Session} (byte : UInt8) :
    Feed worlds first stream false session →
    Feed worlds first (stream ++ [byte]) false (session.receive [byte])
  | endInput {stream : List UInt8} {session : Session} :
    Feed worlds first stream false session → Feed worlds first stream true session.endInput
  | begin {stream : List UInt8} {ended : Bool} {session : Session} (index : Nat) :
    Feed worlds first stream ended session →
    Feed worlds first stream ended (session.begin (worlds index) index)
  | finish {stream : List UInt8} {ended : Bool} {session : Session} (index : Nat) :
    Feed worlds first stream ended session →
    Feed worlds first stream ended (session.finish (worlds index) index)
  | write {stream : List UInt8} {ended : Bool} {session : Session} :
    Feed worlds first stream ended session → Feed worlds first stream ended session.write

/-- Every line of a stream is a text. -/
def Spelt (stream : List UInt8) : Prop :=
  ∀ line ∈ (linesOf stream).1, (Text.Utf8.decode? line).isSome = true

theorem Spelt.of_concat {stream : List UInt8} {byte : UInt8} (spelt : Spelt (stream ++ [byte])) :
    Spelt stream := by
  intro line member
  apply spelt line
  rw [linesOf_eq, cutLines_concat] at *
  split
  · rw [List.map_append]
    exact List.mem_append_left _ member
  · exact member

/-- A stream of complete lines that are all texts. -/
structure Legible (stream : List UInt8) : Prop where
  complete : (linesOf stream).2 = []
  spelt : Spelt stream

theorem Legible.nil : Legible [] :=
  ⟨rfl, nofun⟩

/-- A session that reads and keeps nothing. -/
def Session.AtLine (session : Session) : Prop :=
  session.phase = .serving ∧ session.unread = []

theorem Session.atLine_start (service : Service) : (Session.start service).AtLine :=
  ⟨rfl, rfl⟩

/-- A whole line is read, wherever the one before it is complete. -/
theorem Session.AtLine.receive_line {session : Session} {line : List UInt8}
    (ready : session.AtLine) (free : lineFeed ∉ line) :
    (session.keep line).receive [lineFeed] = session.readBytes (withoutReturn line) := by
  have serving : (session.keep line).phase = .serving := ready.1
  calc (session.keep line).receive [lineFeed]
      = ((session.keep line).readBytes (withoutReturn line)).keep [] :=
        Session.receive_lineFeed serving free
    _ = (session.keep []).readBytes (withoutReturn line) := (Session.readBytes_keep [] _).symm
    _ = session.readBytes (withoutReturn line) := by rw [Session.keep_eq_self ready.2]

namespace Feed

variable {worlds : Nat → World} {first middle session : Session}
  {front line back stream : List UInt8} {ended : Bool}

/-- A session can go on from any state that it has come to. -/
theorem trans (fed : Feed worlds first front false middle)
    (more : Feed worlds middle back ended session) :
    Feed worlds first (front ++ back) ended session := by
  induction more with
  | start =>
      rw [List.append_nil]
      exact fed
  | receive byte _ ih =>
      rw [← List.append_assoc]
      exact ih.receive byte
  | endInput _ ih => exact ih.endInput
  | begin index _ ih => exact ih.begin index
  | finish index _ ih => exact ih.finish index
  | write _ ih => exact ih.write

/-- A session that has received two streams, one after the other, was in some state between. -/
theorem exists_middle (fed : Feed worlds first (front ++ back) ended session) :
    ∃ middle, Feed worlds first front false middle ∧ Feed worlds middle back ended session := by
  generalize whole : front ++ back = stream at fed
  induction fed generalizing back with
  | start =>
      obtain ⟨rfl, rfl⟩ := List.append_eq_nil_iff.mp whole
      exact ⟨first, .start, .start⟩
  | @receive stream session byte earlier ih =>
      rcases List.eq_nil_or_concat back with rfl | ⟨back, last, rfl⟩
      · rw [List.append_nil] at whole
        rw [whole]
        exact ⟨_, earlier.receive byte, .start⟩
      · rw [List.concat_eq_append, ← List.append_assoc] at whole
        obtain ⟨before, same⟩ := List.append_inj' whole rfl
        cases same
        obtain ⟨middle, fed, more⟩ := ih before
        rw [List.concat_eq_append]
        exact ⟨middle, fed, more.receive byte⟩
  | endInput _ ih =>
      obtain ⟨middle, fed, more⟩ := ih whole
      exact ⟨middle, fed, more.endInput⟩
  | begin index _ ih =>
      obtain ⟨middle, fed, more⟩ := ih whole
      exact ⟨middle, fed, more.begin index⟩
  | finish index _ ih =>
      obtain ⟨middle, fed, more⟩ := ih whole
      exact ⟨middle, fed, more.finish index⟩
  | write _ ih =>
      obtain ⟨middle, fed, more⟩ := ih whole
      exact ⟨middle, fed, more.write⟩

/-- A session that has received nothing has nothing to do. -/
theorem eq_start {service : Service}
    (fed : Feed worlds (.start service) [] false session) : session = .start service := by
  generalize nothing : [] = stream at fed
  generalize lasting : false = ended at fed
  induction fed with
  | start => rfl
  | receive byte _ _ => exact absurd nothing.symm (List.append_ne_nil_of_right_ne_nil _ nofun)
  | endInput => cases lasting
  | begin index _ ih =>
      rw [ih nothing lasting]
      rfl
  | finish index _ ih =>
      rw [ih nothing lasting]
      rfl
  | write _ ih =>
      rw [ih nothing lasting]
      rfl

/-- A session whose lines are all texts reads on, and it keeps what follows the last of them. -/
theorem reading (fed : Feed worlds first stream false session) (fresh : first.AtLine)
    (spelt : Spelt stream) : session.phase = .serving ∧ session.unread = (cutLines stream).2 := by
  generalize lasting : false = ended at fed
  induction fed with
  | start => exact fresh
  | @receive stream session byte _ ih =>
      obtain ⟨serving, kept⟩ := ih spelt.of_concat lasting
      have free : lineFeed ∉ session.unread := by
        rw [kept]
        exact lineFeed_not_mem_tail stream
      rw [cutLines_concat]
      by_cases ends : byte = lineFeed
      · subst ends
        have member : withoutReturn (cutLines stream).2 ∈ (linesOf (stream ++ [lineFeed])).1 := by
          simp [linesOf_eq, cutLines_concat]
        obtain ⟨text, decoded⟩ := Option.isSome_iff_exists.mp (spelt _ member)
        have phase : (session.readLine text).phase = session.phase :=
          congrArg Prod.snd (Session.standing_readLine text)
        rw [if_pos rfl, Session.receive_lineFeed serving free, kept,
          Session.readBytes_of_decode serving decoded]
        exact ⟨phase.trans serving, rfl⟩
      · rw [if_neg ends, Session.receive_other serving free ends, kept]
        exact ⟨serving, rfl⟩
  | endInput => cases lasting
  | begin index _ ih =>
      obtain ⟨serving, kept⟩ := ih spelt lasting
      exact ⟨(congrArg Prod.snd (Session.standing_begin _)).trans serving,
        ((Session.blind_begin _ index).unread_eq _).trans kept⟩
  | finish index _ ih =>
      obtain ⟨serving, kept⟩ := ih spelt lasting
      exact ⟨(congrArg Prod.snd (Session.standing_finish _)).trans serving,
        ((Session.blind_finish _ index).unread_eq _).trans kept⟩
  | write _ ih =>
      obtain ⟨serving, kept⟩ := ih spelt lasting
      exact ⟨(congrArg Prod.snd Session.standing_write).trans serving,
        Session.unread_write.trans kept⟩

/-- Any number of bytes can come at once. -/
theorem receiveAll {chunk : List UInt8} (fresh : first.AtLine) (spelt : Spelt chunk) :
    Feed worlds first chunk false (first.receive chunk) := by
  induction chunk using List.reverseRecOn with
  | nil =>
      have same : first.receive [] = first := by
        rw [Session.receive_eq fresh.1, fresh.2]
        exact Session.keep_eq_self fresh.2
      rw [same]
      exact .start
  | append_singleton chunk byte ih =>
      have before : Feed worlds first chunk false (first.receive chunk) := ih spelt.of_concat
      obtain ⟨serving, -⟩ := before.reading fresh spelt.of_concat
      rw [Session.receive_concat byte fresh.1 serving]
      exact before.receive byte

/-! ### A line in the stream -/

/-- After complete lines that are all texts, a session is at a line again. -/
theorem atLine (fed : Feed worlds first front false session) (fresh : first.AtLine)
    (legible : Legible front) : session.AtLine := by
  obtain ⟨serving, kept⟩ := fed.reading fresh legible.spelt
  exact ⟨serving, kept.trans legible.complete⟩

theorem exists_receive {byte : UInt8} (fed : Feed worlds first [byte] false session) :
    ∃ before, Feed worlds first [] false before ∧
      Feed worlds (before.receive [byte]) [] false session := by
  generalize whole : [byte] = stream at fed
  generalize lasting : false = ended at fed
  induction fed with
  | start => cases whole
  | @receive stream session last earlier _ =>
      have both : [] ++ [byte] = stream ++ [last] := whole
      obtain ⟨rfl, same⟩ := List.append_inj' both rfl
      cases same
      exact ⟨_, earlier, .start⟩
  | endInput => cases lasting
  | begin index _ ih =>
      obtain ⟨before, fed, more⟩ := ih whole lasting
      exact ⟨before, fed, more.begin index⟩
  | finish index _ ih =>
      obtain ⟨before, fed, more⟩ := ih whole lasting
      exact ⟨before, fed, more.finish index⟩
  | write _ ih =>
      obtain ⟨before, fed, more⟩ := ih whole lasting
      exact ⟨before, fed, more.write⟩

/-- While a line comes in, nothing but its bytes is kept. -/
theorem exists_keep (fed : Feed worlds first line false session) (fresh : first.AtLine)
    (free : lineFeed ∉ line) :
    ∃ bare, Feed worlds first [] false bare ∧ session = bare.keep line := by
  generalize lasting : false = ended at fed
  induction fed with
  | start => exact ⟨first, .start, (Session.keep_eq_self fresh.2).symm⟩
  | @receive line session byte _ ih =>
      have rest : lineFeed ∉ line := fun member => free (List.mem_append_left _ member)
      have other : byte ≠ lineFeed := by
        intro same
        exact free (by simp [same])
      obtain ⟨bare, own, rfl⟩ := ih rest lasting
      have serving : (bare.keep line).phase = .serving := (own.atLine fresh .nil).1
      exact ⟨bare, own, Session.receive_other serving rest other⟩
  | endInput => cases lasting
  | @begin line _ _ index _ ih =>
      obtain ⟨bare, own, rfl⟩ := ih free lasting
      exact ⟨_, own.begin index, (Session.blind_begin _ index).keep line bare⟩
  | @finish line _ _ index _ ih =>
      obtain ⟨bare, own, rfl⟩ := ih free lasting
      exact ⟨_, own.finish index, (Session.blind_finish _ index).keep line bare⟩
  | @write line _ _ _ ih =>
      obtain ⟨bare, own, rfl⟩ := ih free lasting
      exact ⟨_, own.write, Session.write_keep line⟩

/-- The bytes of a line can come in wherever the lines before it are complete. -/
theorem keep (fresh : first.AtLine) (free : lineFeed ∉ line) :
    Feed worlds first line false (first.keep line) := by
  induction line using List.reverseRecOn with
  | nil =>
      rw [Session.keep_eq_self fresh.2]
      exact .start
  | append_singleton line byte ih =>
      have rest : lineFeed ∉ line := fun member => free (List.mem_append_left _ member)
      have other : byte ≠ lineFeed := by
        intro same
        exact free (by simp [same])
      have serving : (first.keep line).phase = .serving := fresh.1
      have more := (ih rest).receive byte
      rw [Session.receive_other serving rest other] at more
      exact more

/-- What a session has come to after some lines, another one and more bytes is what it comes to with
these bytes, from where the line left it. -/
theorem around_iff (fresh : first.AtLine) (legible : Legible front) (free : lineFeed ∉ line) :
    Feed worlds first (front ++ (line ++ lineFeed :: back)) ended session ↔
      ∃ bare, Feed worlds first front false bare ∧
        Feed worlds ((bare.keep line).receive [lineFeed]) back ended session := by
  constructor
  · intro fed
    obtain ⟨middle, before, rest⟩ := fed.exists_middle
    rw [List.append_cons] at rest
    obtain ⟨after, whole, later⟩ := rest.exists_middle
    obtain ⟨begun, partly, last⟩ := whole.exists_middle
    obtain ⟨ready, waited, onward⟩ := last.exists_receive
    have kept := partly.trans waited
    rw [List.append_nil] at kept
    obtain ⟨bare, worked, rfl⟩ := kept.exists_keep (before.atLine fresh legible) free
    have own := before.trans worked
    rw [List.append_nil] at own
    exact ⟨bare, own, onward.trans later⟩
  · intro found
    obtain ⟨bare, own, later⟩ := found
    have kept : Feed worlds bare line false (bare.keep line) :=
      keep (own.atLine fresh legible) free
    have whole := own.trans ((kept.receive lineFeed).trans later)
    rwa [List.append_assoc, List.singleton_append] at whole

end Feed

end SuiteBridge.Host
