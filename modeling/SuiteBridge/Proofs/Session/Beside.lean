import SuiteBridge.Proofs.Session.Stream

/-!
# Sessions in step

Two sessions are in step when one is the other with one more reply somewhere (`Session.Beside`). No
move but writing looks at the replies (`Session.Posts`), so the sessions stay in step whatever is
done with both of them, and each can do what the other does (`Feed.beside`, `Feed.beside_of`).
-/

namespace SuiteBridge.Host

namespace Session

variable {session full bare : Session} {reply : Reply}

/-! ## Moves that do not look at the replies -/

/-- The session with other replies. -/
def withMail (outbox written : List Reply) (session : Session) : Session :=
  { session with outbox, written }

/-- A move that does not look at the replies: it puts some more, whatever the others are, behind
those that wait. -/
def Posts (move : Session → Session) : Prop :=
  ∀ session, ∃ replies, ∀ outbox written,
    move (session.withMail outbox written) = (move session).withMail (outbox ++ replies) written

theorem Blind.posts {move : Session → Session} (blind : Blind move) : Posts move := by
  intro session
  obtain ⟨replies, moved⟩ := blind session
  refine ⟨replies, ?_⟩
  intro outbox written
  have own : move session = (move session).around session.unread session.phase
      (session.outbox ++ replies) session.written := moved _ _ _ _
  calc move (session.withMail outbox written)
      = (move session).around session.unread session.phase (outbox ++ replies) written :=
        moved session.unread session.phase outbox written
    _ = (move session).withMail (outbox ++ replies) written := by
        rw [own]
        rfl

theorem Posts.comp {first second : Session → Session} (posts : Posts first)
    (more : Posts second) : Posts fun session => second (first session) := by
  intro session
  obtain ⟨replies, moved⟩ := posts session
  obtain ⟨others, onward⟩ := more (first session)
  refine ⟨replies ++ others, ?_⟩
  intro outbox written
  simp only [moved, onward, List.append_assoc]

theorem posts_id : Posts fun session => session := by
  intro session
  refine ⟨[], ?_⟩
  intro outbox written
  rw [List.append_nil]

theorem posts_keep (unread : List UInt8) : Posts (keep unread) := by
  intro session
  refine ⟨[], ?_⟩
  intro outbox written
  rw [List.append_nil]
  rfl

/-- A move that only a session makes that reads has to be looked at for such sessions alone. -/
theorem posts_of_serving {move : Session → Session}
    (idle : ∀ session, session.phase ≠ .serving → move session = session)
    (busy : ∀ session, session.phase = .serving → ∃ replies, ∀ outbox written,
      move (withMail outbox written session) =
        (move session).withMail (outbox ++ replies) written) : Posts move := by
  intro session
  by_cases serving : session.phase = .serving
  · exact busy session serving
  · refine ⟨[], ?_⟩
    intro outbox written
    have stops : (session.withMail outbox written).phase ≠ .serving := serving
    rw [idle _ stops, idle session serving, List.append_nil]

theorem posts_readBytes (line : List UInt8) : Posts (readBytes line) := by
  apply posts_of_serving
  · intro session stopped
    exact if_neg stopped
  · intro session serving
    have serves : ∀ outbox written, (session.withMail outbox written).phase = .serving :=
      fun _ _ => serving
    cases decoded : Text.Utf8.decode? line with
    | none =>
        refine ⟨[], ?_⟩
        intro outbox written
        simp [readBytes, serving, decoded, withMail]
    | some text =>
        simp only [readBytes_of_decode serving decoded, readBytes_of_decode (serves _ _) decoded]
        exact (blind_readLine text).posts session

theorem posts_readEachBytes (lines : List (List UInt8)) : Posts (readEachBytes lines) := by
  induction lines with
  | nil => exact posts_id
  | cons line lines ih => exact (posts_readBytes line).comp ih

theorem posts_receive (bytes : List UInt8) : Posts (receive bytes) := by
  apply posts_of_serving
  · intro session stopped
    exact receive_of_ne stopped bytes
  · intro session serving
    have serves : ∀ outbox written, (session.withMail outbox written).phase = .serving :=
      fun _ _ => serving
    simp only [receive_eq serving, receive_eq (serves _ _)]
    have posts := (posts_readEachBytes (linesOf (session.unread ++ bytes)).1).comp
      (posts_keep (linesOf (session.unread ++ bytes)).2)
    exact posts session

theorem posts_abortAll (entries : InFlight) : Posts (abortAll entries) := by
  induction entries with
  | nil => exact posts_id
  | cons entry entries ih => exact (blind_abort entry.2).posts.comp ih

theorem posts_close : Posts close := by
  apply posts_of_serving
  · intro session stopped
    exact if_neg stopped
  · intro session serving
    have serves : ∀ outbox written, (session.withMail outbox written).phase = .serving :=
      fun _ _ => serving
    simp only [close_eq serving, close_eq (serves _ _)]
    obtain ⟨replies, moved⟩ := posts_abortAll session.prune.inFlight
      (session.prune.report [.hostClosed session.prune.inFlight.length])
    refine ⟨replies, ?_⟩
    intro outbox written
    exact congrArg (fun session => { session with inFlight := [], phase := .closed })
      (moved outbox written)

theorem posts_endInput : Posts endInput := by
  intro session
  -- Whether a last line is read shows in the phase and in what is kept, not in the replies.
  by_cases begun : session.phase = .serving ∧ session.unread ≠ []
  · have begins : ∀ outbox written, (session.withMail outbox written).phase = .serving ∧
        (session.withMail outbox written).unread ≠ [] :=
      fun _ _ => begun
    simp only [endInput, if_pos begun, if_pos (begins _ _)]
    exact ((posts_keep []).comp (posts_readBytes session.unread)).comp posts_close session
  · have stops : ∀ outbox written, ¬ ((session.withMail outbox written).phase = .serving ∧
        (session.withMail outbox written).unread ≠ []) :=
      fun _ _ => begun
    simp only [endInput, if_neg begun, if_neg (stops _ _)]
    exact posts_close session

/-! ## One more reply -/

/-- `Beside reply full bare`: the session `full` is `bare` with one more reply, which waits or is
written. -/
inductive Beside (reply : Reply) : Session → Session → Prop
  | waiting (session : Session) (front back written : List Reply) :
    Beside reply (session.withMail (front ++ reply :: back) written)
      (session.withMail (front ++ back) written)
  | written (session : Session) (outbox front back : List Reply) :
    Beside reply (session.withMail outbox (front ++ reply :: back))
      (session.withMail outbox (front ++ back))

theorem Beside.send (reply : Reply) (session : Session) :
    Beside reply (session.send reply) session := by
  have beside := @Beside.waiting reply session session.outbox [] session.written
  rw [List.append_nil] at beside
  exact beside

theorem Posts.beside {move : Session → Session} (posts : Posts move)
    (beside : Beside reply full bare) : Beside reply (move full) (move bare) := by
  cases beside with
  | waiting session front back written =>
      obtain ⟨replies, moved⟩ := posts session
      rw [moved, moved, List.append_assoc, List.append_assoc, List.cons_append]
      exact .waiting (move session) front (back ++ replies) written
  | written session outbox front back =>
      obtain ⟨replies, moved⟩ := posts session
      rw [moved, moved]
      exact .written (move session) (outbox ++ replies) front back

/-- If the one more reply is not the next to be written, both sessions write the same. Otherwise one
session writes it and is beside the other as it was, and as it will be. -/
theorem Beside.write (beside : Beside reply full bare) :
    Beside reply full.write bare.write ∨
      Beside reply full.write bare ∧ Beside reply full.write.write bare.write := by
  have step (session : Session) (outbox front back : List Reply) :
      Beside reply (session.withMail outbox (front ++ reply :: back)).write
        (session.withMail outbox (front ++ back)).write := by
    cases outbox with
    | nil => exact .written session [] front back
    | cons next rest =>
        have moved := @Beside.written reply session rest front (back ++ [next])
        rw [← List.append_assoc, ← List.cons_append, ← List.append_assoc] at moved
        exact moved
  cases beside with
  | waiting session front back written =>
      cases front with
      | nil =>
          have before := @Beside.written reply session back written []
          have after := step session back written []
          rw [List.append_nil] at before after
          exact Or.inr ⟨before, after⟩
      | cons next rest => exact Or.inl (.waiting session rest back (written ++ [next]))
  | written session outbox front back => exact Or.inl (step session outbox front back)

/-- What the two sessions have sent differs in one reply. -/
theorem Beside.exists_sent (beside : Beside reply full bare) :
    ∃ front back, full.sent = front ++ reply :: back ∧ bare.sent = front ++ back := by
  cases beside with
  | waiting session front back written =>
      refine ⟨written ++ front, back, ?_, ?_⟩
      · exact (List.append_assoc written front (reply :: back)).symm
      · exact (List.append_assoc written front back).symm
  | written session outbox front back =>
      refine ⟨front, back ++ outbox, ?_, ?_⟩
      · exact List.append_assoc front (reply :: back) outbox
      · exact List.append_assoc front back outbox

end Session

/-! ## Feeding both sessions -/

namespace Feed

variable {worlds : Nat → World} {session full bare : Session} {reply : Reply}
  {stream : List UInt8} {ended : Bool}

/-- A session follows another one if every move that does not look at the replies keeps them
together, and at most two replies have to be written for each one that the other writes. -/
theorem follow {together : Session → Session → Prop} {first second : Session}
    (moves : ∀ move, Session.Posts move → ∀ one other, together one other →
      together (move one) (move other))
    (writes : ∀ one other, together one other → together one.write other ∨
      together one.write other.write ∨ together one.write other.write.write)
    (fed : Feed worlds first stream ended session) (start : together first second) :
    ∃ after, Feed worlds second stream ended after ∧ together session after := by
  induction fed with
  | start => exact ⟨second, .start, start⟩
  | receive byte _ ih =>
      obtain ⟨after, own, near⟩ := ih
      exact ⟨_, own.receive byte, moves _ (Session.posts_receive [byte]) _ _ near⟩
  | endInput _ ih =>
      obtain ⟨after, own, near⟩ := ih
      exact ⟨_, own.endInput, moves _ Session.posts_endInput _ _ near⟩
  | begin index _ ih =>
      obtain ⟨after, own, near⟩ := ih
      exact ⟨_, own.begin index, moves _ (Session.blind_begin _ index).posts _ _ near⟩
  | finish index _ ih =>
      obtain ⟨after, own, near⟩ := ih
      exact ⟨_, own.finish index, moves _ (Session.blind_finish _ index).posts _ _ near⟩
  | write _ ih =>
      obtain ⟨after, own, near⟩ := ih
      rcases writes _ _ near with still | once | twice
      · exact ⟨after, own, still⟩
      · exact ⟨_, own.write, once⟩
      · exact ⟨_, own.write.write, twice⟩

/-- What a session with one more reply comes to, the other comes to as well. -/
theorem beside (fed : Feed worlds full stream ended session)
    (near : Session.Beside reply full bare) :
    ∃ other, Feed worlds bare stream ended other ∧ Session.Beside reply session other := by
  refine follow ?_ ?_ fed near
  · intro move posts one other
    exact posts.beside
  · intro one other together
    rcases together.write with both | ⟨alone, -⟩
    · exact Or.inr (Or.inl both)
    · exact Or.inl alone

/-- What the other session comes to, the one with one more reply comes to as well. -/
theorem beside_of (fed : Feed worlds bare stream ended session)
    (near : Session.Beside reply full bare) :
    ∃ other, Feed worlds full stream ended other ∧ Session.Beside reply other session := by
  have follows := @follow worlds session stream ended (flip (Session.Beside reply)) bare full
  refine follows ?_ ?_ fed near
  · intro move posts one other
    exact posts.beside
  · intro one other together
    rcases Session.Beside.write together with both | ⟨-, twice⟩
    · exact Or.inr (Or.inl both)
    · exact Or.inr (Or.inr twice)

end Feed

end SuiteBridge.Host
