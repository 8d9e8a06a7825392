import CommandLink.Framing.Config

/-!
# Frame buffers

What arrives is appended to the text that is pending, and messages are cut off its front. The
pending text is all the state there is.
-/

namespace CommandLink

/-- A stretch of text without terminators, and the terminators that follow it. -/
structure Chunk where
  body : Text
  ending : Text
deriving DecidableEq, Repr

namespace Chunk

/-- The text of a chunk. -/
def text (chunk : Chunk) : Text :=
  chunk.body ++ chunk.ending

/-- Whether a chunk is a message: it has both a body and an ending. -/
def isMessage (chunk : Chunk) : Bool :=
  !chunk.body.isEmpty && !chunk.ending.isEmpty

/-- Put a character in front of chunks. A terminator in front of a body is a chunk of its own. -/
def cons (ends : Char → Bool) (c : Char) : List Chunk → List Chunk
  | [] => if ends c then [⟨[], [c]⟩] else [⟨[c], []⟩]
  | chunk :: rest =>
      if !ends c then { chunk with body := c :: chunk.body } :: rest
      else if chunk.body.isEmpty then { chunk with ending := c :: chunk.ending } :: rest
      else ⟨[], [c]⟩ :: chunk :: rest

/-- The chunks of a text. Only the first may lack a body, and only the last an ending. -/
def ofText (ends : Char → Bool) : Text → List Chunk
  | [] => []
  | c :: text => cons ends c (ofText ends text)

/-- The messages among chunks. -/
def messages (chunks : List Chunk) : List Text :=
  (chunks.filter isMessage).map text

/-- The text that no terminator has ended yet. -/
def unfinished (chunks : List Chunk) : Text :=
  match chunks.getLast? with
  | some ⟨body, []⟩ => body
  | _ => []

end Chunk

namespace Framer

/-- Append a fragment to the pending text: the messages that are now complete, and what is pending
after them. If the pattern matches, its match is the message and all else is dropped. -/
def push (framer : Framer) (fragment pending : Text) : List Text × Text :=
  let text := pending ++ fragment
  match framer.pattern?.bind (·.firstMatch? text) with
  | some message => ([message], [])
  | none =>
      let chunks := Chunk.ofText framer.terminators.contains text
      (Chunk.messages chunks, Chunk.unfinished chunks)

/-- The message that pending text is taken for when nothing more is waited for: the last match of
the pattern, or the text as it is. -/
def flush (framer : Framer) (pending : Text) : Option Text :=
  (framer.pattern?.bind (·.lastMatch? pending)).or
    (if pending.isEmpty then none else some pending)

end Framer

end CommandLink
