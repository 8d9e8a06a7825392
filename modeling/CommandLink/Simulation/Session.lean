import CommandLink.Interpreter.Session
import CommandLink.Server.Stream
import CommandLink.Simulation.Script

/-!
# Simulated sessions

A session over a simulated world, the desk where aliases are administered, and servers.
-/

namespace CommandLink.Simulation

/-- A session over a simulated world. -/
abbrev Session := Interpreter.Session World

namespace Session

/-- Work at the desk where aliases are administered. -/
def atDesk {α : Type}
    (work : Directory → AliasDesk SimulatedSettings → α × AliasDesk SimulatedSettings)
    (session : Session) : α × Session :=
  let (result, aliases) := work session.interpreter.directory session.world.aliases
  (result, { session with world := { session.world with aliases } })

/-- Interpret what a line stands for, if it uses an alias. -/
def receive (line : Text) (session : Session) : Option Answer × Session :=
  match session.world.aliases.table.expand? line with
  | none => (none, session)
  | some command =>
      let (answer, session) := session.interpret command
      (some answer, session)

/-- The server of a session. -/
def server (session : Session) (usesAliases : Bool) : Server World where
  interpreter := session.interpreter
  aliases? := if usesAliases then some (·.aliases.table) else none

/-- Have a server handle a message for a peer that takes no more than `limit?` messages. -/
def handle (usesAliases : Bool) (limit? : Option Nat) (message : Text) (session : Session) :
    (Except ConnectionError Unit × List Text) × Session :=
  let handled := (session.server usesAliases).handle message session.run
  (deliver limit? handled.replies, session.resume handled.outcomes handled.run)

/-- Have a server serve a stream: how it ended, what was sent after each event, and what after the
last. Without a usable framer the server hangs up at once and sends nothing. -/
def serve (usesAliases : Bool) (config : FramerConfig) (events : List StreamEvent)
    (session : Session) :
    (Except ConnectionError Unit × List (List Text) × List Text) × Session :=
  match config.framer? with
  | none => ((.error .framer, events.map fun _ => [], []), session)
  | some framer =>
      let transcript := (session.server usesAliases).serve framer events session.run
      ((.ok (), transcript.replies, transcript.last),
        session.resume transcript.final.outcomes transcript.final.run)

end Session

end CommandLink.Simulation
