import CommandLink.Interpreter.Dispatch

/-!
# Sessions

An interpreter at work: the state of its device, and the subscribers who are notified of each outcome
of the lines that it interprets.
-/

namespace CommandLink

/-- A subscriber to notifications. -/
structure Subscriber where
  /-- Whether they have not left. -/
  present : Bool := true
  /-- What they received and have not looked at yet, in order. -/
  received : List Notification := []

/-- Receive notifications after those that were received before. -/
def Subscriber.receive (notifications : List Notification) (subscriber : Subscriber) : Subscriber :=
  { subscriber with received := subscriber.received ++ notifications }

/-- Notify subscribers of an outcome. Those who have left are forgotten. -/
def Outcome.notify (outcome : Outcome) (subscribers : List Subscriber) : List Subscriber :=
  (subscribers.filter (·.present)).map (·.receive [outcome.notification])

namespace Interpreter

/-- An interpreter with the state of its device and its subscribers. -/
structure Session (σ : Type) where
  interpreter : Interpreter σ := {}
  /-- The state of the device. -/
  world : σ
  subscribers : List Subscriber := [{}]

namespace Session

variable {σ : Type}

/-- A run that begins in the state as it is. -/
def run (session : Session σ) : Run σ where
  state := session.world

/-- Go on from the end of a run, and notify the subscribers of its outcomes, one after the other. -/
def resume (session : Session σ) (outcomes : List Outcome) (run : Run σ) : Session σ :=
  { session with
    world := run.state
    subscribers := outcomes.foldl (fun subscribers outcome => outcome.notify subscribers)
      session.subscribers }

/-- Take what the first subscriber received. -/
def takeNotifications (session : Session σ) : List Notification × Session σ :=
  match session.subscribers with
  | [] => ([], session)
  | first :: others =>
      (first.received, { session with subscribers := { first with received := [] } :: others })

/-- Interpret a line. -/
def interpret (line : Text) (session : Session σ) : Answer × Session σ :=
  let (answer, outcomes, run) := session.interpreter.interpret line session.run
  (answer, session.resume outcomes run)

/-- Dispatch a line. Nobody is notified. -/
def dispatch (line : Text) (session : Session σ) : List Outcome × Session σ :=
  let (outcomes, run) := session.interpreter.dispatch line session.run
  (outcomes, session.resume [] run)

/-- The state dump as lines. -/
def stateLines (session : Session σ) : Text × Session σ :=
  let (text, run) := session.interpreter.stateLines session.run
  (text, session.resume [] run)

/-- The state dump as a JSON object. -/
def jsonState (session : Session σ) : Text × Session σ :=
  let (text, run) := session.interpreter.jsonState session.run
  (text, session.resume [] run)

end Session

end Interpreter

end CommandLink
