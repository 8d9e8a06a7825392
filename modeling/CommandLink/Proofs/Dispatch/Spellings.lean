import CommandLink.Proofs.Dispatch.Candidates
import CommandLink.Proofs.Line.Printing

/-!
# Arguments behind dots

Arguments may be written behind dots, like the segments of a path, instead of in a section of their
own. A line that is spelled so could also lead to a component of the name of its command. Where no
registered component and no child of one has that name, both spellings have one and the same reading
and are carried out alike (`dispatch_dotted`).
-/

namespace CommandLink

variable {σ : Type}

/-- A text that can be a segment of a path as well as an argument of a section, and is the same text
in both. -/
structure Line.IsWord (text : Text) : Prop extends Line.IsName text where
  plain : ∀ c ∈ text, Arguments.isPlain c = true

/-- No path can begin with a name: neither a registered component nor a child of one has it. Deeper in
the trees it may occur. -/
def Component.Unnamed (components : List (Component σ)) (name : Text) : Prop :=
  ∀ component ∈ components, Text.sameName component.name name = false ∧
    ∀ child ∈ component.children, Text.sameName child.name name = false

namespace Line

variable {command : Text} {arguments : List Text}

theorem parse_dotted (isName : IsName command) (words : ∀ argument ∈ arguments, IsWord argument) :
    parse (Text.join ['.'] (command :: arguments)) = ⟨command :: arguments, none⟩ :=
  parse_join (List.forall_mem_cons.mpr ⟨isName, fun argument member =>
    (words argument member).toIsName⟩)

theorem parse_section (isName : IsName command) (filled : arguments ≠ [])
    (words : ∀ argument ∈ arguments, IsWord argument) :
    parse (command ++ ':' :: Text.join [','] arguments) = ⟨[command], some arguments⟩ := by
  have isSection : Arguments.IsSection arguments :=
    Arguments.isSection_of_isArgument filled fun argument member =>
      .plain (words argument member).trimmed (words argument member).plain
  have proper : IsProper ⟨[command], some arguments⟩ := by
    refine ⟨List.forall_mem_singleton.mpr isName, fun given inside => ?_⟩
    exact Option.some.inj inside ▸ isSection
  have parsed := parse_written proper
  rwa [written, Text.join_singleton] at parsed

end Line

namespace Component.Unnamed

variable {components : List (Component σ)} {name : Text}

theorem filter_eq_nil (unnamed : Unnamed components name) :
    (components.filter fun component => Text.sameName component.name name) = [] := by
  rw [List.filter_eq_nil_iff]
  intro component member
  simp [(unnamed component member).1]

theorem child?_eq_none (unnamed : Unnamed components name) {component : Component σ}
    (member : component ∈ components) : component.child? name = none := by
  rw [child?, List.find?_eq_none]
  intro child inside
  simp [(unnamed component member).2 child inside]

/-- A chain that begins with the name leads nowhere, neither from the registered components nor from
their children. -/
theorem qualifiedOwners_eq_nil (unnamed : Unnamed components name) (chain : List Text) :
    qualifiedOwners components (name :: chain) = [] := by
  have nowhere : components.filterMap (·.descend (name :: chain)) = [] := by
    rw [List.filterMap_eq_nil_iff]
    intro component member
    rw [descend, unnamed.child?_eq_none member, Option.bind_none]
  simp only [qualifiedOwners, List.headD_cons, unnamed.filter_eq_nil, List.filterMap_nil,
    List.isEmpty_nil, if_true, nowhere]

end Component.Unnamed

namespace Target

variable {components : List (Component σ)} {command : Text} {arguments : List Text}

/-- A path that leads to no component is read as a command and its arguments, and in no other way. -/
theorem candidates_dotted (unnamed : Component.Unnamed components command) (filled : arguments ≠ []) :
    candidates components ⟨command :: arguments, none⟩ = [⟨components, command, arguments⟩] := by
  have chain : (command :: arguments).dropLast = command :: arguments.dropLast :=
    List.dropLast_cons_of_ne_nil filled
  have noOwner := unnamed.qualifiedOwners_eq_nil arguments.dropLast
  have owned : dotted components (command :: arguments) = [⟨components, command, arguments⟩] := by
    simp only [dotted, unnamed.filter_eq_nil, List.isEmpty_nil, if_true]
    split <;> rfl
  simp only [candidates, List.isEmpty_cons, Bool.false_eq_true, if_false, ofLine, Line.qualifiers,
    chain, qualified, noOwner, List.isEmpty_nil, if_true, Option.isNone_none, List.nil_append, owned]

end Target

namespace Interpreter

/-- Arguments behind dots are as good as arguments behind a colon and between commas: where no
registered component and no child of one has the name of the command, both lines have the same
outcomes and the same effects in every state. -/
theorem dispatch_dotted (interpreter : Interpreter σ) {command : Text} {arguments : List Text}
    (isName : Line.IsName command) (unnamed : Component.Unnamed interpreter.components command)
    (filled : arguments ≠ []) (words : ∀ argument ∈ arguments, Line.IsWord argument)
    (run : Run σ) :
    interpreter.dispatch (Text.join ['.'] (command :: arguments)) run =
      interpreter.dispatch (command ++ ':' :: Text.join [','] arguments) run := by
  obtain ⟨argument, others, rfl⟩ := List.exists_cons_of_ne_nil filled
  have ordinaryDotted : Builtin.ofLine? ⟨command :: argument :: others, none⟩ = none := rfl
  have ordinarySection : Builtin.ofLine? ⟨[command], some (argument :: others)⟩ = none := rfl
  have reading : Target.candidates interpreter.components ⟨[command], some (argument :: others)⟩ =
      [⟨interpreter.components, command, argument :: others⟩] := rfl
  rw [dispatch, dispatch, Line.parse_dotted isName words, Line.parse_section isName filled words,
    interpreter.dispatchLine_eq_tryTargets ordinaryDotted,
    interpreter.dispatchLine_eq_tryTargets ordinarySection,
    Target.candidates_dotted unnamed filled, reading]

/-- A turret that turns by an angle and counts its turns. A part far below it is called like its
operation. -/
def turret : Interpreter Nat where
  components :=
    [{ identity := 0
       name := "Turret"
       operations :=
        [{ name := "Turn"
           parameters := [⟨"angle", .int⟩, ⟨"side", .string⟩]
           handler := fun _ arguments turns => (.ok (.array arguments), turns + 1) }]
       children :=
        [{ identity := 1
           name := "Head"
           children :=
            [{ identity := 2
               name := "Turn"
               operations := [.action "left" fun _ _ turns => (.ok (), turns + 100)] }] }] }]

/-- The turret turns once, and the part is not looked for. -/
theorem dispatch_dotted_turret :
    let dotted := turret.dispatch "Turn.-90.left" { state := 7 }
    dotted = turret.dispatch "Turn:-90,left" { state := 7 } ∧
      dotted.1.map (·.message) = ["[-90,\"left\"]"] ∧ dotted.2.state = 8 := by
  intro dotted
  have isName : Line.IsName "Turn" := ⟨by decide, by decide, by decide, by decide⟩
  have unnamed : Component.Unnamed turret.components "Turn" := by
    simp only [Component.Unnamed, turret, List.forall_mem_singleton]
    decide
  have words : ∀ argument ∈ (["-90", "left"] : List Text), Line.IsWord argument := by
    simp only [List.forall_mem_cons, List.not_mem_nil, false_implies, implies_true, and_true]
    exact ⟨⟨⟨by decide, by decide, by decide, by decide⟩, List.all_eq_true.mp (by decide)⟩,
      ⟨⟨by decide, by decide, by decide, by decide⟩, List.all_eq_true.mp (by decide)⟩⟩
  have same := turret.dispatch_dotted isName unnamed (List.cons_ne_nil _ _) words { state := 7 }
  exact ⟨same, by decide +kernel, by decide +kernel⟩

end Interpreter

end CommandLink
