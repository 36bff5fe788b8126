import SuiteBridge.Host.Lines
import SuiteBridge.Host.Service
import SuiteBridge.Text.Blank

/-!
# Sessions

A session serves a host over a stream. Every request becomes a task of its own, and the tasks are
worked on side by side: a reply goes out when its task is done, in whatever order that happens. A
task can be taken back as long as it is registered under the text of its id; a later request with
the same id takes its place there.

The moves of a session are small: `readLine`, `begin`, `finish`, `write` and `close`. Which of them
comes next is open. `settle` makes the moves that can be made, in one order: the tasks begin as they
came in, those that need nothing else finish at once, and all replies are written.

The last step of a task is one move, `finish`. It stands for all that happens from the start of the
poll in which the work comes to its end until the reply is sent. An abort does not stop a poll that
is running already, so a task counts as done from that start on, and nothing comes between the end
of the work and the reply.
-/

namespace SuiteBridge.Host

/-- How far a task has come. -/
inductive Stage where
  | waiting
  | begun
  | done
  | aborted
  deriving DecidableEq, Repr

/-- A request being worked on. -/
structure Task where
  request : Request
  work : Work
  stage : Stage

/-- Whether anything can still come of a task. -/
def Task.isLive (task : Task) : Bool :=
  task.stage == .waiting || task.stage == .begun

/-- Whether a session reads on, and if not, why. -/
inductive Phase where
  | serving
  /-- The input has ended. -/
  | closed
  /-- A line was no text. -/
  | failed
  deriving DecidableEq, Repr

/-- What is registered: the texts of ids, each with the number of its task. -/
abbrev InFlight := List (String × Nat)

/-- A session with a host. -/
structure Session where
  service : Service
  /-- The tasks in the order of their requests. -/
  tasks : List Task
  inFlight : InFlight
  /-- The start of a line whose end has not come. -/
  unread : List UInt8
  phase : Phase
  /-- The replies that wait to be written. -/
  outbox : List Reply
  written : List Reply
  events : List Event

namespace InFlight

/-- Without the entry of a text. -/
def erase (key : String) (inFlight : InFlight) : InFlight :=
  inFlight.filter fun entry => entry.1 != key

/-- With one entry for a text, whatever was there before. -/
def register (key : String) (task : Nat) (inFlight : InFlight) : InFlight :=
  (key, task) :: inFlight.erase key

end InFlight

namespace Session

/-- A session before anything has happened. -/
def start (service : Service) : Session :=
  ⟨service, [], [], [], .serving, [], [], []⟩

/-- With more reported. -/
def report (events : List Event) (session : Session) : Session :=
  { session with events := session.events ++ events }

/-- With a reply on its way. -/
def send (reply : Reply) (session : Session) : Session :=
  { session with outbox := session.outbox ++ [reply] }

/-- With a task at another stage. -/
def setStage (index : Nat) (stage : Stage) (session : Session) : Session :=
  { session with tasks := session.tasks.modify index fun task => { task with stage } }

/-- Whether the task of a number can still come to something. -/
def isLiveAt (session : Session) (index : Nat) : Bool :=
  (session.tasks[index]?).any Task.isLive

/-- With a task aborted, unless it is done. -/
def abort (index : Nat) (session : Session) : Session :=
  if session.isLiveAt index then session.setStage index .aborted else session

/-- Without the registered tasks that have ended. -/
def prune (session : Session) : Session :=
  { session with inFlight := session.inFlight.filter fun entry => session.isLiveAt entry.2 }

/-! ## Reading -/

/-- With a task for a request, registered under its id. -/
def accept (request : Request) (session : Session) : Session :=
  let session := session.prune
  { session with
    tasks := session.tasks ++ [⟨request, session.service.work request, .waiting⟩]
    inFlight := session.inFlight.register request.id.render session.tasks.length }

/-- With the request of an id taken back, if it is registered. -/
def cancel (id : Json) (reason : String) (session : Session) : Session :=
  match session.inFlight.lookup id.render with
  | none => session
  | some index =>
    ({ session with inFlight := session.inFlight.erase id.render }.abort index).report
      [.requestCancelled id reason]

/-- With a notification taken in. -/
def notice (notification : Notification) (session : Session) : Session :=
  match notification.cancels? with
  | some (id, reason) => session.cancel id reason
  | none => session.report (session.service.noticeEvents notification.method)

/-- With one line read. A blank line is nothing. -/
def readLine (line : String) (session : Session) : Session :=
  if Text.isBlank line then session
  else match Message.ofLine line with
    | .error refusal => session.send refusal.reply
    | .ok (.notification notification) => session.notice notification
    | .ok (.request request) => session.accept request

/-- With the bytes of one line read. Bytes that are no text end the session. -/
def readBytes (line : List UInt8) (session : Session) : Session :=
  if session.phase = .serving then
    match Text.Utf8.decode? line with
    | some line => session.readLine line
    | none => { session with phase := .failed }
  else session

/-- With more bytes received: all complete lines are read. -/
def receive (bytes : List UInt8) (session : Session) : Session :=
  if session.phase = .serving then
    match linesOf (session.unread ++ bytes) with
    | (lines, tail) =>
      lines.foldl (fun session line => session.readBytes line) { session with unread := tail }
  else session

/-- With the input at its end: what is registered is aborted. -/
def close (session : Session) : Session :=
  if session.phase = .serving then
    let session := session.prune.report [.hostClosed session.prune.inFlight.length]
    { session.inFlight.foldl (fun session entry => session.abort entry.2) session with
      inFlight := []
      phase := .closed }
  else session

/-- With the last bytes of the input read as a line, and the input at its end. -/
def endInput (session : Session) : Session :=
  if session.phase = .serving ∧ session.unread ≠ [] then
    ({ session with unread := [] }.readBytes session.unread).close
  else session.close

/-! ## Working -/

/-- With a task begun. -/
def begin (world : World) (index : Nat) (session : Session) : Session :=
  match session.tasks[index]? with
  | some task =>
    if task.stage = .waiting then
      (session.setStage index .begun).report
        (.requestReceived task.request.method task.request.id :: task.work.beginEvents world)
    else session
  | none => session

/-- With a task done and its reply on the way, if anything comes of it. -/
def finish (world : World) (index : Nat) (session : Session) : Session :=
  match session.tasks[index]? with
  | some task =>
    if task.stage = .begun then
      match task.work.reply? world with
      | some reply =>
        ((session.setStage index .done).report (task.work.doneEvents world)).send reply
      | none => session
    else session
  | none => session

/-- With the next reply written. -/
def write (session : Session) : Session :=
  match session.outbox with
  | [] => session
  | reply :: rest => { session with outbox := rest, written := session.written ++ [reply] }

/-! ## One order of the moves -/

/-- With all replies written that wait for it. -/
def writeAll (session : Session) : Session :=
  { session with outbox := [], written := session.written ++ session.outbox }

/-- With a waiting task begun, and finished if it needs nothing else. -/
def advance (world : World) (session : Session) (index : Nat) : Session :=
  match session.tasks[index]? with
  | some task =>
    if task.stage = .waiting then
      if task.work.isPrompt world then (session.begin world index).finish world index
      else session.begin world index
    else session
  | none => session

/-- With every waiting task begun and every reply written. -/
def settle (world : World) (session : Session) : Session :=
  ((List.range session.tasks.length).foldl (advance world) session).writeAll

/-- With every task let go on that was held up, in order, and every reply written. -/
def release (world : World) (session : Session) : Session :=
  ((List.range session.tasks.length).foldl (fun session index => session.finish world index)
    session).writeAll

/-- Whether the session still goes on: it reads, or some task may yet come to something. -/
def isRunning (session : Session) : Bool :=
  match session.phase with
  | .serving => true
  | .closed => session.tasks.any Task.isLive || !session.outbox.isEmpty
  | .failed => false

end Session

end SuiteBridge.Host
