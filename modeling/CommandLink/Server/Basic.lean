import CommandLink.Alias.Table
import CommandLink.Interpreter.Dispatch

/-!
# Servers

What a server makes of one message: aliases are expanded, the interpreter carries the command out,
and the answer is sent, followed by the reply aliases of a command that succeeded.
-/

namespace CommandLink

/-- Why a connection came to its end. -/
inductive ConnectionError where
  /-- The peer could not be written to, for the reason that the text gives. -/
  | io (detail : Text)
  | disconnected
  /-- The pattern of the framer is ill-formed. -/
  | framer
deriving DecidableEq, Repr

/-- What the operator is told. -/
def ConnectionError.message : ConnectionError → Text
  | .io detail => "I/O error: " ++ detail
  | .disconnected => "connection closed by peer"
  | .framer => "invalid framer pattern"

/-- How writing to a peer can fail. -/
inductive WriteFault where
  | brokenPipe
  | connectionReset
  | other
deriving DecidableEq, Repr

/-- What a failed write means for the connection. -/
def ConnectionError.ofWrite (fault : WriteFault) (detail : Text) : ConnectionError :=
  match fault with
  | .brokenPipe | .connectionReset => .disconnected
  | .other => .io detail

/-- A message as it is written to the peer. -/
def wire (message : Text) : Text :=
  message ++ ['\n']

/-- Send messages in order to a peer that takes no more than `limit?` of them: how it ended, and
what was sent. -/
def deliver (limit? : Option Nat) (messages : List Text) :
    Except ConnectionError Unit × List Text :=
  match limit?.filter (· < messages.length) with
  | some limit => (.error .disconnected, messages.take limit)
  | none => (.ok (), messages)

/-- A command server. -/
structure Server (σ : Type) where
  interpreter : Interpreter σ
  /-- Where the aliases are found in the state of the device, if they are used at all. -/
  aliases? : Option (σ → AliasTable) := none

/-- What came of a message. -/
structure Handled (σ : Type) where
  /-- The messages to send, in order. -/
  replies : List Text := []
  outcomes : List Outcome := []
  run : Run σ

namespace Server

variable {σ : Type}

/-- The command that a line stands for. -/
def expandAliases (server : Server σ) (line : Text) (state : σ) : Text :=
  (server.aliases?.bind fun aliases => (aliases state).expand? line).getD line

/-- The reply aliases of a command: those of its whole path, or else those of its name. -/
def repliesTo (server : Server σ) (command : Text) (state : σ) : List Text :=
  match server.aliases? with
  | none => []
  | some aliases =>
      let line := Line.parse command
      match (aliases state).repliesFor (Text.join ['.'] line.segments) with
      | [] => (aliases state).repliesFor line.name
      | replies => replies

/-- Handle a message. A blank one is passed over. -/
def handle (server : Server σ) (message : Text) (run : Run σ) : Handled σ :=
  let line := Text.trim message
  if line.isEmpty then { run }
  else
    let command := server.expandAliases line run.state
    let (answer, outcomes, run) := server.interpreter.interpret command run
    { replies :=
        (if answer.message.isEmpty then [] else [answer.message]) ++
          if answer.success then server.repliesTo command run.state else []
      outcomes
      run }

end Server

end CommandLink
