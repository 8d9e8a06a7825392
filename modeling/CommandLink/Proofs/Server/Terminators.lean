import CommandLink.Proofs.Server.Commands

/-!
# Terminators behind a command

A framer leaves the terminators on its messages, and a server strips white space. So terminators are
kept from commands exactly if they are white space (`sparesCommands_iff`).
-/

namespace CommandLink

variable {σ : Type}

namespace Server

/-- If terminators are white space, a message is handled as the command in front of them. -/
theorem handleAll_concat_blank (server : Server σ) {command ending : Text}
    (blank : ∀ c ∈ ending, isBlank c = true) (run : Run σ) :
    server.handleAll ([command ++ ending].filter fun _ => !command.isEmpty) run =
      server.handle command run := by
  by_cases empty : command = []
  · subst empty
    rfl
  · simp [empty, handleAll, server.handle_append_right command blank]

/-- A server that tells two messages apart: each is a reply alias of a command of its own. -/
def switch (left right : Text) : Server Unit where
  interpreter :=
    let turn (name : Text) : Operation Unit :=
      { name, handler := fun _ _ state => (.ok .null, state) }
    { components :=
        [{ identity := 0, name := "Switch", operations := [turn "Left", turn "Right"] }] }
  aliases? := some fun _ =>
    [{ internal := "Left", replies := [left] }, { internal := "Right", replies := [right] }]

/-- The first message turns the switch to the left. -/
theorem replies_switch_left {left : Text} (right : Text) {message : Text}
    (said : Text.trim message = left) (filled : left ≠ []) :
    ((switch left right).handle message { state := () }).replies =
      (["Left", left] : List Text) := by
  have trimmed : Text.trim left = left := by rw [← said, Text.trim_trim]
  have expanded : (switch left right).expandAliases left () = "Left" := by
    simp [expandAliases, switch, AliasTable.expand?, AliasRecord.has, AliasRecord.texts, trimmed,
      Text.sameName]
  have answered : (switch left right).interpreter.interpret "Left" { state := () } =
      (⟨true, "Left"⟩, [⟨"Left", .ok "Left"⟩], { state := (), calls := [.handler 0 0 []] }) := rfl
  have replied : (switch left right).repliesTo "Left" () = [left] := rfl
  simp only [handle, said, expanded, answered, replied]
  simp [filled]

/-- The other message turns it to the right, if it is not blank. -/
theorem replies_switch_right {left right message : Text} (said : Text.trim message = right)
    (apart : Text.sameName left right = false) :
    ((switch left right).handle message { state := () }).replies = [] ∨
      ∃ rest : List Text,
        ((switch left right).handle message { state := () }).replies =
          ("Right" : Text) :: rest := by
  by_cases empty : right = []
  · refine .inl ?_
    simp [handle, said, empty]
  · have trimmed : Text.trim right = right := by rw [← said, Text.trim_trim]
    have same : Text.sameName right right = true := by simp [Text.sameName]
    have expanded : (switch left right).expandAliases right () = "Right" := by
      simp [expandAliases, switch, AliasTable.expand?, AliasRecord.has, AliasRecord.texts, trimmed,
        apart, same]
    have answered : (switch left right).interpreter.interpret "Right" { state := () } =
        (⟨true, "Right"⟩, [⟨"Right", .ok "Right"⟩],
          { state := (), calls := [.handler 0 1 []] }) := rfl
    refine .inr ⟨(switch left right).repliesTo "Right" (), ?_⟩
    simp only [handle, said, expanded, answered]
    simp [empty]

end Server

/-- The octets that messages are written as. -/
def written (messages : List Text) : List UInt8 :=
  Utf8.encode (messages.flatMap wire)

namespace Framer

/-- A command with terminators behind it does what the command does by itself: the same octets are
written, and the state that is left is the same. This holds if all of it arrives at once, and, as
long as no timer comes due, if it arrives in parts. -/
def SparesCommands (framer : Framer) : Prop :=
  ∀ (σ : Type) (server : Server σ) (run : Run σ) (command ending : Text)
    (events : List StreamEvent),
    (∀ c ∈ command, c ∉ framer.terminators) → ending ≠ [] →
    (∀ c ∈ ending, c ∈ framer.terminators) →
    StreamEvent.arrivals events = Utf8.encode (command ++ ending) →
    (events = [.octets (Utf8.encode (command ++ ending))] ∨
      (server.serve framer events run).final.timedOut = false) →
    written (server.serve framer events run).sent = written (server.handle command run).replies ∧
      (server.serve framer events run).final.run = (server.handle command run).run

variable {framer : Framer}

/-- Terminators that are white space are kept from commands. -/
theorem sparesCommands_of_isBlank (plain : framer.pattern? = none)
    (blank : ∀ c ∈ framer.terminators, isBlank c = true) : framer.SparesCommands := by
  intro σ server run command ending events outside ended among arrived arrival
  have inside : ∀ c ∈ command, framer.ends c = false := fun c member => by
    simpa [ends] using outside c member
  have terminators : ∀ c ∈ ending, framer.ends c = true := fun c member => by
    simpa [ends] using among c member
  rcases arrival with rfl | quiet
  · obtain ⟨front, _, leads, served⟩ :=
      server.handleAll_eq_serve_octets plain inside terminators ended run
    have blankFront : ∀ c ∈ front, isBlank c = true := fun c member =>
      blank c (among c (leads.subset member))
    rw [server.handleAll_concat_blank blankFront] at served
    rw [served]
    exact ⟨rfl, rfl⟩
  · have served := server.outlook_serve plain blank events run quiet
    rw [arrived, Utf8.decodeLossy_encode, framer.lines_append_of_ends inside terminators,
      server.handleAll_singleton] at served
    rw [served]
    exact ⟨rfl, rfl⟩

/-- A terminator that is no white space makes a difference to the character in front of it. -/
theorem apart_of_solid (c : Char) {d : Char} (solid : isBlank d = false) :
    Text.trim [c, d] ≠ [] ∧ Text.sameName (Text.trim [c, d]) (Text.trim [c]) = false := by
  cases blank : isBlank c with
  | true =>
      have kept : Text.trim [d] = [d] := Text.strip_eq_self (by simp [solid]) (by simp [solid])
      rw [Text.trim_cons_of_isBlank blank, Text.trim_cons_of_isBlank blank, kept]
      exact ⟨List.cons_ne_nil d [], rfl⟩
  | false =>
      have kept : Text.trim [c, d] = [c, d] :=
        Text.strip_eq_self (by simp [blank]) (by simp [solid])
      have keptFirst : Text.trim [c] = [c] :=
        Text.strip_eq_self (by simp [blank]) (by simp [blank])
      rw [kept, keptFirst]
      refine ⟨List.cons_ne_nil c [d], ?_⟩
      simp [Text.sameName, Text.foldCase]

/-- A terminator that is no white space reaches commands. -/
theorem not_sparesCommands (plain : framer.pattern? = none) {c d : Char}
    (outside : c ∉ framer.terminators) (among : d ∈ framer.terminators)
    (solid : isBlank d = false) : ¬ framer.SparesCommands := by
  intro spares
  obtain ⟨filled, apart⟩ := apart_of_solid c solid
  let server := Server.switch (Text.trim [c, d]) (Text.trim [c])
  obtain ⟨same, _⟩ := spares Unit server { state := () } [c] [d]
    [.octets (Utf8.encode ([c] ++ [d]))] (by simpa using outside) (List.cons_ne_nil d [])
    (by simpa using among) (by simp [StreamEvent.arrivals, StreamEvent.arrival]) (.inl rfl)
  have inside : ∀ e ∈ [c], framer.ends e = false := by simpa [ends] using outside
  have isEnd : framer.ends d = true := by simpa [ends] using among
  have left := Server.replies_switch_left (Text.trim [c]) rfl filled
  rw [server.sent_serve_octets_concat plain (List.cons_ne_nil c []) inside isEnd] at same
  have texts := Utf8.encode_injective ((congrArg written left).symm.trans same)
  rcases Server.replies_switch_right rfl apart with silent | ⟨rest, right⟩
  · rw [silent] at texts
    cases texts
  · rw [right] at texts
    cases texts

/-- Commands are spared exactly if all terminators are white space. Some character must not be a
terminator, for otherwise there are no commands. -/
theorem sparesCommands_iff (plain : framer.pattern? = none) {c : Char}
    (outside : c ∉ framer.terminators) :
    framer.SparesCommands ↔ ∀ d ∈ framer.terminators, isBlank d = true := by
  constructor
  · intro spares d among
    by_contra solid
    exact not_sparesCommands plain outside among (by simpa using solid) spares
  · exact sparesCommands_of_isBlank plain

/-- Messages end with a semicolon. -/
def semicolons : Framer :=
  ⟨";", none, 5000, 500⟩

/-- Line endings are kept from commands, and semicolons are not. -/
theorem sparesCommands_iff_semicolons :
    Server.lineFramer.SparesCommands ∧ ¬ semicolons.SparesCommands := by
  have outsideLines : 'a' ∉ Server.lineFramer.terminators := by decide
  have outside : 'a' ∉ semicolons.terminators := by decide
  have blank : Server.lineFramer.terminators.all isBlank = true := rfl
  refine ⟨(sparesCommands_iff rfl outsideLines).mpr (List.all_eq_true.mp blank), ?_⟩
  intro spares
  have semicolonBlank : isBlank ';' = true :=
    (sparesCommands_iff rfl outside).mp spares ';' List.mem_cons_self
  contradiction

/-- The sensitivity of a camera is shown for its name, and nothing is shown for its name and a
semicolon. -/
theorem written_serve_semicolons :
    written (Server.cameraServer.serve semicolons [.octets (Utf8.encode "Iso;")]
        { state := {} }).sent = [] ∧
      written (Server.cameraServer.handle "Iso" { state := {} }).replies =
        Utf8.encode "Iso:100\n" := by
  have inside : ("Iso" : Text).all (!semicolons.ends ·) = true := rfl
  have isEnd : semicolons.ends ';' = true := rfl
  have filled : ("Iso" : Text) ≠ [] := List.cons_ne_nil 'I' ['s', 'o']
  have sent := Server.cameraServer.sent_serve_octets_concat rfl filled
    (fun c member => by simpa using List.all_eq_true.mp inside c member) isEnd { state := {} }
  exact ⟨congrArg written sent, rfl⟩

end Framer

end CommandLink
