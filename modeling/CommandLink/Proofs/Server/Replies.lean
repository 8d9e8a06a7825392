import CommandLink.Proofs.Alias.Table
import CommandLink.Server.Basic

/-!
# Replies to what ran

The replies that follow a command are looked up under the text of the line, and not under the names
of the operations that ran: all of them come from one record, that of the whole path or else that of
the last segment (`AliasTable.Brings`). A line that names an operation by its own name brings the
replies of that name; one that uses another name of the operation, or has arguments in its path, need
not (`follows_iff_of_success`).
-/

namespace CommandLink

variable {σ : Type}

/-- The dotted path of a line, as records of aliases spell it. -/
def Line.path (line : Line) : Text :=
  Text.join ['.'] line.segments

theorem Line.path_eq_name {line : Line} (unqualified : line.qualifiers = []) :
    line.path = line.name := by
  unfold qualifiers at unqualified
  unfold path name
  match segments : line.segments with
  | [] => rfl
  | [word] => simp [Text.join]
  | first :: second :: rest =>
      rw [segments] at unqualified
      cases unqualified

namespace AliasTable

variable {table : AliasTable} {line : Line} {record : AliasRecord} {command other : Text}

/-- The first record of a command, in any letter case. -/
def IsFirst (table : AliasTable) (command : Text) (record : AliasRecord) : Prop :=
  table.find? (fun record => Text.sameName record.internal command) = some record

/-- The replies of a record follow a line that succeeded. -/
inductive Brings (table : AliasTable) (line : Line) (record : AliasRecord) : Prop where
  /-- The whole path is its command. -/
  | path (first : table.IsFirst line.path record) (filled : record.replies ≠ [])
  /-- The last segment is its command, and there are no replies to the whole path. -/
  | name (silent : table.repliesFor line.path = []) (first : table.IsFirst line.name record)

theorem IsFirst.repliesFor_eq (first : table.IsFirst command record) :
    table.repliesFor command = record.replies := by
  unfold IsFirst at first
  simp [repliesFor, first]

theorem exists_isFirst_of_repliesFor_ne_nil (filled : table.repliesFor command ≠ []) :
    ∃ record, table.IsFirst command record := by
  unfold IsFirst
  cases found : table.find? fun record => Text.sameName record.internal command with
  | none => simp [repliesFor, found] at filled
  | some record => exact ⟨record, rfl⟩

theorem IsFirst.sameName (first : table.IsFirst command record) :
    Text.sameName record.internal command = true := by
  unfold IsFirst at first
  have found := List.find?_some first
  exact found

theorem Brings.mem (brings : table.Brings line record) : record ∈ table := by
  cases brings with
  | path first _ => exact List.mem_of_find?_eq_some first
  | name _ first => exact List.mem_of_find?_eq_some first

/-- A line brings nothing of a command that neither its path nor its last segment spells. -/
theorem Brings.not_sameName (brings : table.Brings line record)
    (path : Text.sameName line.path command = false)
    (name : Text.sameName line.name command = false) :
    Text.sameName record.internal command = false := by
  cases brings with
  | path first _ => rwa [Text.sameName, Text.sameName_iff.mp first.sameName]
  | name _ first => rwa [Text.sameName, Text.sameName_iff.mp first.sameName]

/-- Letter case does not count. -/
theorem repliesFor_congr (same : Text.sameName command other = true) :
    table.repliesFor command = table.repliesFor other := by
  simp only [repliesFor, Text.sameName, Text.sameName_iff.mp same]

end AliasTable

namespace Server

variable {server : Server σ} {aliases : σ → AliasTable} {state : σ} {command name : Text}

theorem repliesTo_eq (used : server.aliases? = some aliases) (command : Text) (state : σ) :
    server.repliesTo command state =
      if (aliases state).repliesFor (Line.parse command).path = [] then
        (aliases state).repliesFor (Line.parse command).name
      else (aliases state).repliesFor (Line.parse command).path := by
  unfold repliesTo
  simp only [used]
  split
  case h_1 silent => exact (if_pos silent).symm
  case h_2 filled => exact (if_neg filled).symm

/-- All that follows a command is from the record that it brings. -/
theorem repliesTo_eq_of_brings (used : server.aliases? = some aliases) {record : AliasRecord}
    (brings : (aliases state).Brings (Line.parse command) record) :
    server.repliesTo command state = record.replies := by
  rw [repliesTo_eq used]
  cases brings with
  | path first filled =>
      rw [first.repliesFor_eq]
      exact if_neg filled
  | name silent first => rw [if_pos silent, first.repliesFor_eq]

theorem exists_brings (used : server.aliases? = some aliases)
    (filled : server.repliesTo command state ≠ []) :
    ∃ record, (aliases state).Brings (Line.parse command) record := by
  rw [repliesTo_eq used] at filled
  split at filled
  case isTrue silent =>
    obtain ⟨record, first⟩ := AliasTable.exists_isFirst_of_repliesFor_ne_nil filled
    exact ⟨record, .name silent first⟩
  case isFalse =>
    obtain ⟨record, first⟩ := AliasTable.exists_isFirst_of_repliesFor_ne_nil filled
    exact ⟨record, .path first (first.repliesFor_eq ▸ filled)⟩

theorem mem_repliesTo_iff (used : server.aliases? = some aliases) {reply : Text} :
    reply ∈ server.repliesTo command state ↔
      ∃ record, (aliases state).Brings (Line.parse command) record ∧ reply ∈ record.replies := by
  constructor
  · intro follows
    obtain ⟨record, brings⟩ := exists_brings used (List.ne_nil_of_mem follows)
    exact ⟨record, brings, repliesTo_eq_of_brings used brings ▸ follows⟩
  · rintro ⟨record, brings, among⟩
    rwa [repliesTo_eq_of_brings used brings]

/-- What follows a line that spells a name nowhere is of other commands. -/
theorem exists_record_of_mem_repliesTo (used : server.aliases? = some aliases)
    (path : Text.sameName (Line.parse command).path name = false)
    (last : Text.sameName (Line.parse command).name name = false) {reply : Text}
    (follows : reply ∈ server.repliesTo command state) :
    ∃ record ∈ aliases state, Text.sameName record.internal name = false ∧
      reply ∈ record.replies := by
  obtain ⟨record, brings, among⟩ := (mem_repliesTo_iff used).mp follows
  exact ⟨record, brings.mem, brings.not_sameName path last, among⟩

/-- A line that ends with a name brings the replies of that name, unless there are others to the
whole path. -/
theorem repliesTo_eq_repliesFor (used : server.aliases? = some aliases)
    (named : Text.sameName (Line.parse command).name name = true)
    (unshadowed : (Line.parse command).qualifiers = [] ∨
      (aliases state).repliesFor (Line.parse command).path = []) :
    server.repliesTo command state = (aliases state).repliesFor name := by
  rw [repliesTo_eq used, ← AliasTable.repliesFor_congr named]
  rcases unshadowed with unqualified | silent
  · rw [Line.path_eq_name unqualified, ite_id]
  · exact if_pos silent

/-- All replies of a command follow a line exactly if the line brings a record that has them. -/
theorem subset_repliesTo_iff (used : server.aliases? = some aliases) :
    (∀ record ∈ aliases state, Text.sameName record.internal name = true →
        record.replies ⊆ server.repliesTo command state) ↔
      ∀ record ∈ aliases state, Text.sameName record.internal name = true → record.replies ≠ [] →
        ∃ brought, (aliases state).Brings (Line.parse command) brought ∧
          record.replies ⊆ brought.replies := by
  constructor
  · intro follow record member named filled
    have among := follow record member named
    obtain ⟨brought, brings⟩ := exists_brings used fun silent =>
      filled (List.subset_nil.mp (silent ▸ among))
    exact ⟨brought, brings, repliesTo_eq_of_brings used brings ▸ among⟩
  · intro brought record member named
    by_cases silent : record.replies = []
    · rw [silent]
      exact List.nil_subset _
    · obtain ⟨other, brings, among⟩ := brought record member named silent
      rwa [repliesTo_eq_of_brings used brings]

/-- A message that no alias rewrites and that succeeds is answered by the outcomes, and then by what
its line brings. Of a command that ran these are the replies, if the line ends with the name of the
command and there are no others to its whole path. They are replies of other commands, if the line
spells the name nowhere, and in general all replies of the command are among them exactly if the line
brings a record that has them. -/
theorem follows_iff_of_success (used : server.aliases? = some aliases) {message : Text}
    {run next : Run σ} {answer : Answer} {outcomes : List Outcome}
    (filled : Text.trim message ≠ [])
    (plain : (aliases run.state).expand? (Text.trim message) = none)
    (interpreted : server.interpreter.interpret (Text.trim message) run = (answer, outcomes, next))
    (succeeded : answer.success = true) :
    let line := Line.parse (Text.trim message)
    let table := aliases next.state
    ∃ follow, server.handle message run =
        { replies := (if answer.message.isEmpty then [] else [answer.message]) ++ follow
          outcomes
          run := next } ∧
      ∀ outcome ∈ outcomes,
        (Text.sameName line.name outcome.command = true →
          line.qualifiers = [] ∨ table.repliesFor line.path = [] →
          follow = table.repliesFor outcome.command) ∧
        (Text.sameName line.path outcome.command = false →
          Text.sameName line.name outcome.command = false → ∀ reply ∈ follow,
          ∃ record ∈ table, Text.sameName record.internal outcome.command = false ∧
            reply ∈ record.replies) ∧
        ((∀ record ∈ table, Text.sameName record.internal outcome.command = true →
            record.replies ⊆ follow) ↔
          ∀ record ∈ table, Text.sameName record.internal outcome.command = true →
            record.replies ≠ [] → ∃ brought, table.Brings line brought ∧
              record.replies ⊆ brought.replies) := by
  intro line table
  refine ⟨server.repliesTo (Text.trim message) next.state, ?_, fun outcome _ =>
    ⟨repliesTo_eq_repliesFor used,
      fun path last _ => exists_record_of_mem_repliesTo used path last,
      subset_repliesTo_iff used⟩⟩
  have unexpanded : server.expandAliases (Text.trim message) run.state = Text.trim message := by
    simp [expandAliases, used, plain]
  simp [handle, filled, unexpanded, interpreted, succeeded]

/-- Replies to the shutter of a camera and to its mode. -/
def studioReplies : AliasTable :=
  [{ internal := "snap", replies := ["Cheese!"] }, { internal := "SetMode", replies := ["Ready"] }]

/-- A camera whose shutter has two names. -/
def studio : Server Unit where
  interpreter := {
    components := [{
      identity := 0
      name := "Camera"
      operations := [
        { name := "Snap"
          aliases := ["Shoot"]
          handler := fun _ _ state => (.ok (.string "clicked"), state) },
        { name := "SetMode"
          parameters := [⟨"mode", .string⟩]
          converter? := some fun raw _ => .ok (.string raw)
          handler := fun _ _ state => (.ok (.string "set"), state) }] }] }
  aliases? := some fun _ => studioReplies

/-- The shutter is released by its own name below that of the camera, and all replies to it follow. -/
theorem follows_iff_of_success_studio :
    Text.trim "Camera.Snap" ≠ [] ∧ studioReplies.expand? (Text.trim "Camera.Snap") = none ∧
      ∃ next, studio.interpreter.interpret (Text.trim "Camera.Snap") { state := () } =
        (⟨true, "clicked"⟩, [⟨"Snap", .ok "clicked"⟩], next) ∧
      (studio.handle "Camera.Snap" { state := () }).replies = ["clicked", "Cheese!"] := by
  have used : studio.aliases? = some fun _ => studioReplies := rfl
  have filled : Text.trim "Camera.Snap" ≠ [] := List.cons_ne_nil _ _
  have plain : studioReplies.expand? (Text.trim "Camera.Snap") = none := rfl
  have interpreted : studio.interpreter.interpret (Text.trim "Camera.Snap") { state := () } =
      (⟨true, "clicked"⟩, [⟨"Snap", .ok "clicked"⟩],
        { state := (), calls := [.handler 0 0 []] }) := rfl
  refine ⟨filled, plain, _, interpreted, ?_⟩
  obtain ⟨follow, handled, follows⟩ :=
    follows_iff_of_success used filled plain interpreted rfl
  obtain ⟨own, _⟩ := follows _ List.mem_cons_self
  rw [handled, own rfl (.inr rfl)]
  rfl

/-- The other name of the shutter brings no replies, and neither does a mode in the path, although
the operations that run are those that bring replies under their own names. -/
theorem exists_reply_missing :
    (studio.handle "Snap" { state := () }).replies = ["clicked", "Cheese!"] ∧
      (studio.handle "Shoot" { state := () }).replies = ["clicked"] ∧
      (studio.handle "Shoot" { state := () }).outcomes = [⟨"Snap", .ok "clicked"⟩] ∧
      (studio.handle "SetMode:Photo" { state := () }).replies = ["set", "Ready"] ∧
      (studio.handle "SetMode.Photo" { state := () }).replies = ["set"] ∧
      (studio.handle "SetMode.Photo" { state := () }).outcomes = [⟨"SetMode", .ok "set"⟩] :=
  ⟨rfl, rfl, rfl, rfl, rfl, rfl⟩

end Server

end CommandLink
