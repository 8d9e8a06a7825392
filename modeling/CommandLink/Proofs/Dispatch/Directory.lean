import CommandLink.Proofs.Alias.WellFormed
import CommandLink.Proofs.Dispatch.Outcomes
import CommandLink.Proofs.Line.Blanks

/-!
# Commands that are listed

The directory of an interpreter says which texts name a command, and aliases are accepted for those
only. It repeats a part of what a dispatch does: it looks up the path, but asks neither for arguments
nor for guards or overriding operations. Nothing is listed that does not resolve: for each listed text
there is a number of arguments with which it has outcomes in every state (`listed_resolves`).
-/

namespace CommandLink

variable {σ : Type}

namespace Line

/-- A command with arguments, or alone if there are none. -/
def request (command : Text) : List Text → Text
  | [] => command
  | argument :: arguments => command ++ ':' :: Text.join [','] (argument :: arguments)

variable {command : Text}

/-- Plain arguments are counted as they are given, also blank ones. -/
theorem parse_request (uncut : ':' ∉ command) {arguments : List Text}
    (plain : ∀ argument ∈ arguments, ∀ c ∈ argument, Arguments.isPlain c = true) :
    (parse (request command arguments)).segments = (parse command).segments ∧
      (parse (request command arguments)).arguments.length = arguments.length := by
  cases arguments with
  | nil =>
      rw [request, parse_path uncut]
      exact ⟨rfl, rfl⟩
  | cons argument arguments =>
      rw [request, parse_path uncut, parse_colon uncut, Arguments.scan,
        Arguments.pieces_join_of_plain (List.cons_ne_nil _ _) plain]
      exact ⟨rfl, List.length_map _⟩

end Line

namespace Builtin

theorem isName_name (builtin : Builtin) : Line.IsName builtin.name := by
  cases builtin <;> exact ⟨by decide, by decide, by decide, by decide⟩

/-- A text that names a built-in command asks for it when it stands alone. -/
theorem ofLine?_of_named? {text : Text} {builtin : Builtin} (named : named? text = some builtin) :
    ofLine? (Line.parse text) = some builtin := by
  have same : Text.sameName text builtin.name = true :=
    Text.sameName_symm (by simpa using List.find?_some named)
  rw [Line.parse_name (builtin.isName_name.of_sameName same)]
  exact named

end Builtin

/-- The components that the name behind a path is looked up in. -/
def addressed (components : List (Component σ)) : List Text → List (Component σ)
  | [] => components
  | chain => qualifiedOwners components chain

/-- A text is listed if it names a built-in command, or an operation where its path leads. -/
theorem hasOperation_iff {components : List (Component σ)} {text : Text} :
    hasOperation components text = true ↔ (∃ builtin, Builtin.named? text = some builtin) ∨
      ∃ owner ∈ addressed components (Line.parse text).qualifiers, ∃ operation ∈ owner.operations,
        operation.answers (Line.parse text).name = true := by
  simp only [hasOperation, Bool.or_eq_true, Option.isSome_iff_exists, List.any_eq_true]
  cases (Line.parse text).qualifiers <;> rfl

namespace Target

variable {components : List (Component σ)} {line : Line} {target : Target σ}

/-- The first reading of a line looks up its name where its path leads, if that is anywhere. -/
theorem exists_candidates_eq (filled : line.segments ≠ [])
    (found : addressed components line.qualifiers ≠ []) :
    ∃ later, candidates components line =
      ⟨addressed components line.qualifiers, line.name, line.arguments⟩ :: later := by
  have some_segment : line.segments.isEmpty = false := by simpa using filled
  rw [candidates, some_segment, if_neg Bool.false_ne_true, ofLine]
  cases chain : line.qualifiers with
  | nil => exact ⟨[], rfl⟩
  | cons first rest =>
      have some_owner : (qualifiedOwners components (first :: rest)).isEmpty = false := by
        simpa [addressed, chain] using found
      simp only [qualified, chain, some_owner, Bool.false_eq_true, if_false, List.singleton_append]
      exact ⟨_, rfl⟩

/-- A target matches an operation of an owner that answers to its name and takes as many arguments. -/
theorem matches_of_answers {owner : Component σ} {operation : Operation σ}
    (owned : owner ∈ target.owners) (member : operation ∈ owner.operations)
    (answers : operation.answers target.command = true)
    (arity : target.arguments.length = operation.parameters.length) : target.Matches := by
  obtain ⟨place, found⟩ := List.mem_iff_getElem?.mp member
  have inside : (⟨owner, place, operation⟩ : OperationMatch σ) ∈ target.operationsOf owner := by
    refine List.mem_map.mpr ⟨(operation, place), List.mem_filter.mpr ⟨?_, ?_⟩, rfl⟩
    · exact List.mem_zipIdx_iff_getElem?.mpr found
    · simp [answers, arity]
  exact .inl (operations_ne_nil (List.ne_nil_of_mem (List.mem_flatMap.mpr ⟨owner, owned, inside⟩)))

end Target

namespace Interpreter

variable {interpreter : Interpreter σ} {command : Text}

/-- A line has outcomes if its first reading matches anything. -/
theorem dispatchLine_ne_nil {line : Line} {target : Target σ} {later : List (Target σ)}
    (listed : Target.candidates interpreter.components line = target :: later)
    (matched : target.Matches) (run : Run σ) : (interpreter.dispatchLine line run).1 ≠ [] := by
  cases ordinary : Builtin.ofLine? line with
  | some builtin =>
      simp only [dispatchLine, ordinary]
      exact List.cons_ne_nil _ _
  | none =>
      rw [← List.nil_append (target :: later)] at listed
      rw [interpreter.dispatchLine_eq_perform ordinary listed (by simp) matched]
      exact perform_outcomes_ne_nil matched run

/-- With so many plain arguments, whatever they are, a command has outcomes in every state. -/
def Resolves (interpreter : Interpreter σ) (command : Text) (count : Nat) : Prop :=
  ∀ arguments : List Text, arguments.length = count →
    (∀ argument ∈ arguments, ∀ c ∈ argument, Arguments.isPlain c = true) →
    ∀ run, (interpreter.dispatch (Line.request command arguments) run).1 ≠ []

theorem resolves_of_named? {builtin : Builtin} (named : Builtin.named? command = some builtin) :
    interpreter.Resolves command 0 := by
  intro arguments none _ run
  obtain rfl := List.eq_nil_of_length_eq_zero none
  rw [Line.request, dispatch, dispatchLine]
  simp only [Builtin.ofLine?_of_named? named]
  exact List.cons_ne_nil _ _

/-- An operation is reached with as many arguments as it has parameters. -/
theorem resolves_of_answers (uncut : ':' ∉ command) (filled : (Line.parse command).segments ≠ [])
    {owner : Component σ} {operation : Operation σ}
    (found : owner ∈ addressed interpreter.components (Line.parse command).qualifiers)
    (member : operation ∈ owner.operations)
    (answers : operation.answers (Line.parse command).name = true) :
    interpreter.Resolves command operation.parameters.length := by
  intro arguments count plain run
  obtain ⟨segments, counted⟩ := Line.parse_request uncut plain
  rw [Line.qualifiers, ← segments] at found
  rw [Line.name, ← segments] at answers
  rw [← segments] at filled
  obtain ⟨later, listed⟩ := Target.exists_candidates_eq filled (List.ne_nil_of_mem found)
  exact dispatchLine_ne_nil listed
    (Target.matches_of_answers found member answers (counted.trans count)) run

end Interpreter

/-- A table has an alias of a command. -/
def AliasTable.Contains (table : AliasTable) (kind : AliasKind) (command text : Text) : Prop :=
  ∃ record ∈ table, record.internal = command ∧ text ∈ record.texts kind

namespace AliasEvent

variable {τ : Type} {directory : Directory} {kind : AliasKind} {command text : Text}

/-- An alias comes into the table only if the directory lists its command. -/
theorem invariant_registered :
    AliasDesk.Invariant directory fun table =>
      table.Contains kind command text → directory command = true where
  add := by
    rintro table sort internal new held accepted ⟨record, member, named, inside⟩
    rcases AliasTable.mem_add member with present | ⟨before, _, owner, rfl⟩
    · exact held ⟨record, present, named, inside⟩
    · rw [AliasRecord.internal_add, owner] at named
      exact named ▸ accepted.registered
  forget := by
    rintro table sort internal gone held ⟨record, member, named, inside⟩
    rcases AliasTable.mem_forget member with present | ⟨before, present, rfl, _⟩
    · exact held ⟨record, present, named, inside⟩
    · rw [AliasRecord.internal_remove] at named
      exact held ⟨before, present, named, (AliasRecord.texts_remove_sublist kind).subset inside⟩
  clear := by
    rintro table internal held ⟨record, member, named, inside⟩
    exact held ⟨record, (List.mem_filter.mp member).1, named, inside⟩

/-- What has come into the table was checked against the directory. -/
theorem registered_of_contains {store : SettingsStore τ} {events : List (AliasEvent τ)}
    {desk : AliasDesk τ}
    (consulted : ∀ event ∈ events, ∀ other ∈ event.directory?, other = directory)
    (absent : ¬ desk.table.Contains kind command text)
    (present : (performAll store events desk).table.Contains kind command text) :
    directory command = true := by
  have invariant : ∀ event ∈ events, ∀ other ∈ event.directory?, AliasDesk.Invariant other
      fun table => table.Contains kind command text → directory command = true := by
    intro event member other given
    rw [consulted event member other given]
    exact invariant_registered
  exact holds_performAll invariant (fun old => absurd old absent) present

end AliasEvent

namespace Interpreter

/-- Whatever the directory of an interpreter lists resolves, however its path is spelled. So an alias
is accepted only for a command that resolves: if one has come into the table, and all that has happened
was checked against this directory, then its command resolves. -/
theorem listed_resolves (interpreter : Interpreter σ) {command : Text} (uncut : ':' ∉ command)
    (filled : (Line.parse command).segments ≠ []) :
    (interpreter.directory command = true → ∃ count, interpreter.Resolves command count) ∧
      ∀ {τ : Type} (store : SettingsStore τ) (events : List (AliasEvent τ)) (desk : AliasDesk τ)
        (kind : AliasKind) (text : Text),
        (∀ event ∈ events, ∀ directory ∈ event.directory?, directory = interpreter.directory) →
        ¬ desk.table.Contains kind command text →
        (AliasEvent.performAll store events desk).table.Contains kind command text →
        ∃ count, interpreter.Resolves command count := by
  have resolves (listed : interpreter.directory command = true) :
      ∃ count, interpreter.Resolves command count := by
    rcases hasOperation_iff.mp listed with ⟨_, named⟩ | ⟨_, found, _, member, answers⟩
    · exact ⟨0, resolves_of_named? named⟩
    · exact ⟨_, resolves_of_answers uncut filled found member answers⟩
  refine ⟨resolves, ?_⟩
  intro τ store events desk kind text consulted absent present
  exact resolves (AliasEvent.registered_of_contains consulted absent present)

/-- A rig with a lens that takes two arguments to focus, under either of two names. -/
def rig : Interpreter Nat where
  components :=
    [{ identity := 0
       name := "Rig"
       children :=
        [{ identity := 1
           name := "Lens"
           operations :=
            [{ name := "Focus"
               aliases := ["Sharpen"]
               parameters := [⟨"distance", .int⟩, ⟨"side", .string⟩]
               handler := fun _ arguments focused => (.ok (.array arguments), focused + 1) }] }] }]

/-- The lens is found behind an untidy path. It has no outcomes without arguments, but with two. A
built-in command can have an alias as well. -/
theorem listed_resolves_rig :
    let command : Text := "rig . LENS..sharpen "
    let add : AliasEvent SettingsTree := .request rig.directory (.add .reply "help" "manual")
    rig.directory command = true ∧ (∃ count, rig.Resolves command count) ∧
      (rig.dispatch command { state := 0 }).1.length = 0 ∧
      (rig.dispatch (Line.request command ["2", " left"]) { state := 0 }).1.length = 1 ∧
      (AliasEvent.performAll .memory [add] { settings := [] }).table.Contains .reply "help" "manual" ∧
      ∃ count, rig.Resolves "help" count := by
  intro command add
  have listed : rig.directory command = true := by decide +kernel
  have uncut : ':' ∉ command := by decide +kernel
  have filled : (Line.parse command).segments ≠ [] := by decide +kernel
  have uncutHelp : ':' ∉ ("help" : Text) := by decide
  have filledHelp : (Line.parse "help").segments ≠ [] := by decide +kernel
  obtain ⟨resolves, _⟩ := rig.listed_resolves uncut filled
  obtain ⟨_, accepted⟩ := rig.listed_resolves uncutHelp filledHelp
  have contained : (AliasEvent.performAll .memory [add] { settings := [] }).table.Contains .reply
      "help" "manual" := by
    unfold AliasTable.Contains
    decide +kernel
  refine ⟨listed, resolves listed, by decide +kernel, by decide +kernel, contained, ?_⟩
  exact accepted .memory [add] { settings := [] } .reply "manual" (by simp [add, AliasEvent.directory?])
    (by simp [AliasTable.Contains]) contained

end Interpreter

end CommandLink
