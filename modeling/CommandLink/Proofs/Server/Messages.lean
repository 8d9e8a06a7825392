import CommandLink.Proofs.Framing.Completion
import CommandLink.Proofs.Text.Trimming
import CommandLink.Server.Basic

/-!
# Handling messages in order

What a server makes of one message after another. White space around a message does not count, so
a message with its terminators is handled as the piece of text in front of them, and a piece that is
empty need not be handled at all.
-/

namespace CommandLink

variable {σ : Type}

namespace Server

variable (server : Server σ)

/-- Handle messages in order. -/
def handleAll : List Text → Run σ → Handled σ
  | [], run => { run }
  | message :: rest, run =>
      let first := server.handle message run
      let later := handleAll rest first.run
      { replies := first.replies ++ later.replies
        outcomes := first.outcomes ++ later.outcomes
        run := later.run }

theorem handleAll_append (left right : List Text) (run : Run σ) :
    server.handleAll (left ++ right) run =
      let first := server.handleAll left run
      let later := server.handleAll right first.run
      { replies := first.replies ++ later.replies
        outcomes := first.outcomes ++ later.outcomes
        run := later.run } := by
  induction left generalizing run with
  | nil => rfl
  | cons message left inductionHypothesis => simp [handleAll, inductionHypothesis]

/-- Only what trimming leaves of a message counts. -/
theorem handle_eq_of_trim {left right : Text} (same : Text.trim left = Text.trim right)
    (run : Run σ) : server.handle left run = server.handle right run := by
  simp only [handle, same]

/-- White space at the end of a message does not count. -/
theorem handle_append_right (message : Text) {ending : Text}
    (blank : ∀ c ∈ ending, isBlank c = true) (run : Run σ) :
    server.handle (message ++ ending) run = server.handle message run :=
  server.handle_eq_of_trim (Text.trim_append_right message blank) run

theorem handleAll_singleton (message : Text) (run : Run σ) :
    server.handleAll ([message].filter (!·.isEmpty)) run = server.handle message run := by
  cases message with
  | nil => rfl
  | cons c message => simp [handleAll]

/-- If all terminators are white space, messages are handled as the pieces that they complete. -/
theorem handleAll_eq_of_completes {framer : Framer}
    (blank : ∀ c ∈ framer.terminators, isBlank c = true) {pieces messages : List Text}
    (completed : List.Forall₂ framer.Completes pieces messages) (run : Run σ) :
    server.handleAll messages run = server.handleAll pieces run := by
  induction completed generalizing run with
  | nil => rfl
  | cons completes _ inductionHypothesis =>
      obtain ⟨ending, _, terminators, rfl⟩ := completes
      have blankEnding : ∀ c ∈ ending, isBlank c = true := fun c member =>
        blank c (by simpa [Framer.ends] using terminators c member)
      simp only [handleAll, server.handle_append_right _ blankEnding, inductionHypothesis]

end Server

end CommandLink
