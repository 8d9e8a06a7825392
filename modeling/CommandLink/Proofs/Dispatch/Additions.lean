import CommandLink.Demo.AliasCommands
import CommandLink.Proofs.Dispatch.Runs

/-!
# Further components

A line with an argument section whose path leads somewhere from a registered component of its first
name is read in one way only, in which no component of another name has a part. Registering further
components of other names, at any places, changes neither what such a line means nor which guard
cancels it (`dispatch_among`). What comes of it is the same as well, as long as the handlers that it
calls do not care which commands there are. The administration of aliases does care
(`dispatch_among_ne`).
-/

namespace CommandLink

variable {σ : Type}

namespace Component

/-- Newcomers among some components, at any places. The others stay, in their order. -/
inductive Joined (newcomer : Component σ → Prop) :
    List (Component σ) → List (Component σ) → Prop where
  | nil : Joined newcomer [] []
  | old (component : Component σ) {components more : List (Component σ)}
      (rest : Joined newcomer components more) :
      Joined newcomer (component :: components) (component :: more)
  | new {component : Component σ} {components more : List (Component σ)} (joins : newcomer component)
      (rest : Joined newcomer components more) : Joined newcomer components (component :: more)

namespace Joined

variable {newcomer : Component σ → Prop} {components more : List (Component σ)}

theorem append_singleton {component : Component σ} (joins : newcomer component)
    (components : List (Component σ)) : Joined newcomer components (components ++ [component]) := by
  induction components with
  | nil => exact .new joins .nil
  | cons first components inductionHypothesis => exact .old first inductionHypothesis

/-- A component that is registered for the first time joins the others. -/
theorem register {interpreter : Interpreter σ} {component : Component σ} (joins : newcomer component)
    (first : ∀ other ∈ interpreter.components, other.identity ≠ component.identity) :
    Joined newcomer interpreter.components (interpreter.register component).components := by
  have unknown : interpreter.components.any (·.identity == component.identity) = false := by
    simpa using first
  simp only [Interpreter.register, unknown, Bool.false_eq_true, if_false]
  exact append_singleton joins interpreter.components

/-- Whoever looks for no newcomer finds the same as before. -/
theorem filter_eq (joined : Joined newcomer components more) {wanted : Component σ → Bool}
    (unwanted : ∀ component, newcomer component → wanted component = false) :
    more.filter wanted = components.filter wanted := by
  induction joined with
  | nil => rfl
  | old component _ inductionHypothesis => simp only [List.filter_cons, inductionHypothesis]
  | new joins _ inductionHypothesis =>
      rw [List.filter_cons_of_neg (by simp [unwanted _ joins]), inductionHypothesis]

end Joined

/-- A chain of names leads somewhere from a registered component of its first name. -/
def Reaches (components : List (Component σ)) (first : Text) (chain : List Text) : Prop :=
  ∃ root ∈ components, Text.sameName root.name first = true ∧
    ∃ owner, root.descend chain = some owner

variable {components more : List (Component σ)} {first : Text} {chain : List Text}

/-- A chain that leads somewhere from the components of its first name is followed from nowhere else. -/
theorem Reaches.qualifiedOwners_eq (reaches : Reaches components first chain) :
    qualifiedOwners components (first :: chain) =
      (components.filter fun component => Text.sameName component.name first).filterMap
        (·.descend chain) := by
  obtain ⟨root, member, named, owner, leads⟩ := reaches
  have led : owner ∈ (components.filter fun component =>
      Text.sameName component.name first).filterMap (·.descend chain) :=
    List.mem_filterMap.mpr ⟨root, List.mem_filter.mpr ⟨member, named⟩, leads⟩
  have some_owner := List.isEmpty_eq_false_iff.mpr (List.ne_nil_of_mem led)
  simp only [qualifiedOwners, List.headD_cons, List.tail_cons, some_owner, Bool.false_eq_true,
    if_false]

theorem Joined.qualifiedOwners_eq
    (joined : Joined (fun component => Text.sameName component.name first = false) components more)
    (reaches : Reaches components first chain) :
    qualifiedOwners more (first :: chain) = qualifiedOwners components (first :: chain) := by
  have same : (more.filter fun component => Text.sameName component.name first) =
      components.filter fun component => Text.sameName component.name first :=
    joined.filter_eq fun _ other => other
  have reachesMore : Reaches more first chain := by
    obtain ⟨root, member, named, leads⟩ := reaches
    have among : root ∈ more.filter fun component => Text.sameName component.name first := by
      rw [same]
      exact List.mem_filter.mpr ⟨member, named⟩
    exact ⟨root, (List.mem_filter.mp among).1, named, leads⟩
  rw [reachesMore.qualifiedOwners_eq, reaches.qualifiedOwners_eq, same]

end Component

namespace Target

/-- Components of other names have no part in the readings of a line with arguments. -/
theorem candidates_joined {components more : List (Component σ)} {line : Line} {first : Text}
    {chain : List Text} (given : line.arguments? ≠ none) (path : line.qualifiers = first :: chain)
    (reaches : Component.Reaches components first chain)
    (joined : Component.Joined (fun component => Text.sameName component.name first = false)
      components more) : candidates more line = candidates components line := by
  have noDots : line.arguments?.isNone = false := by
    simpa [Option.isNone_eq_false_iff, Option.isSome_iff_ne_none] using given
  simp only [candidates, ofLine, path, qualified, noDots, joined.qualifiedOwners_eq reaches,
    Bool.false_eq_true, if_false]

end Target

namespace Interpreter

/-- An interpreter with other components. -/
def among (interpreter : Interpreter σ) (more : List (Component σ)) : Interpreter σ :=
  { interpreter with components := more }

variable (interpreter : Interpreter σ) (more : List (Component σ)) {arguments : List Text}

theorem convertArguments_among (operation : Operation σ) (arguments : List Text)
    (parameters : List Parameter) :
    (interpreter.among more).convertArguments operation arguments parameters =
      interpreter.convertArguments operation arguments parameters := by
  induction arguments generalizing parameters with
  | nil => rfl
  | cons raw arguments inductionHypothesis =>
      cases parameters with
      | nil => rfl
      | cons parameter parameters =>
          simp only [convertArguments, inductionHypothesis parameters]
          rfl

/-- The handler of an operation does the same with the converted arguments whichever of two registries
it may ask for commands. -/
def Heedless (arguments : List Text) (target : OperationMatch σ) : Prop :=
  ∀ values, interpreter.Converts target.operation (arguments.zip target.operation.parameters)
    values → ∀ state, target.operation.handler (hasOperation more) values state =
      target.operation.handler (hasOperation interpreter.components) values state

variable {interpreter more}

theorem runOperation_among {target : OperationMatch σ}
    (heedless : Heedless interpreter more arguments target) (run : Run σ) :
    (interpreter.among more).runOperation target arguments run =
      interpreter.runOperation target arguments run := by
  have spec := interpreter.convertArguments_spec target.operation arguments
    target.operation.parameters
  simp only [runOperation, convertArguments_among]
  cases converted : interpreter.convertArguments target.operation arguments
      target.operation.parameters with
  | error error => rfl
  | ok values =>
      rw [converted] at spec
      have invoked : (interpreter.among more).invoke target values run =
          interpreter.invoke target values run := by
        have handled := heedless values spec run.state
        simp only [invoke, among, directory, handled]
      simp only [invoked]

theorem runGroup_among {group : List (OperationMatch σ)}
    (heedless : ∀ target ∈ group, Heedless interpreter more arguments target)
    (failures : List Outcome) (run : Run σ) :
    (interpreter.among more).runGroup arguments failures group run =
      interpreter.runGroup arguments failures group run := by
  induction group generalizing failures run with
  | nil => rfl
  | cons target group inductionHypothesis =>
      rw [List.forall_mem_cons] at heedless
      simp only [runGroup, runOperation_among heedless.1, inductionHypothesis heedless.2]

theorem runGroups_among {groups : List (List (OperationMatch σ))}
    (heedless : ∀ group ∈ groups, ∀ target ∈ group, Heedless interpreter more arguments target)
    (run : Run σ) : (interpreter.among more).runGroups arguments groups run =
      interpreter.runGroups arguments groups run := by
  induction groups generalizing run with
  | nil => rfl
  | cons group groups inductionHypothesis =>
      rw [List.forall_mem_cons] at heedless
      simp only [runGroups, runGroup_among heedless.1, inductionHypothesis heedless.2]

/-- Properties have nothing to do with the registry. -/
theorem runProperties_among (argument? : Option Text) (targets : List (PropertyMatch σ))
    (run : Run σ) : (interpreter.among more).runProperties argument? targets run =
      interpreter.runProperties argument? targets run := by
  induction targets generalizing run with
  | nil => rfl
  | cons target targets inductionHypothesis =>
      simp only [runProperties, inductionHypothesis]
      rfl

/-- What was resolved is carried out alike, unless a handler that runs heeds the registry. -/
theorem perform_among {resolution : Resolution σ} {run : Run σ}
    (heedless : resolution.tripped? run.state = none → ∀ target ∈ resolution.operations,
      Heedless interpreter more resolution.arguments target) :
    (interpreter.among more).perform resolution run = interpreter.perform resolution run := by
  unfold perform
  cases calm : resolution.tripped? run.state with
  | some message => rfl
  | none =>
      have inGroups : ∀ group ∈ resolution.groups, ∀ target ∈ group,
          Heedless interpreter more resolution.arguments target := by
        intro group member target inside
        refine heedless calm target ?_
        have whole := List.mem_flatten_of_mem member inside
        rwa [Resolution.groups, List.flatten_splitBy] at whole
      simp only [runGroups_among inGroups, runProperties_among]

/-- Further components of other names do not change what a line means that has an argument section and
leads somewhere from a registered component of its first name. Nor do they change what comes of it in
any state, be it cancelled by a guard or not, unless it runs a handler that does otherwise when there
are other commands. -/
theorem dispatch_among (interpreter : Interpreter σ) {more : List (Component σ)} {input first : Text}
    {chain : List Text} (given : (Line.parse input).arguments? ≠ none)
    (path : (Line.parse input).qualifiers = first :: chain)
    (reaches : Component.Reaches interpreter.components first chain)
    (joined : Component.Joined (fun component => Text.sameName component.name first = false)
      interpreter.components more) :
    Resolution.ofLine? more (Line.parse input) =
        Resolution.ofLine? interpreter.components (Line.parse input) ∧
      ∀ run, (∀ resolution,
          Resolution.ofLine? interpreter.components (Line.parse input) = some resolution →
          resolution.tripped? run.state = none → ∀ target ∈ resolution.operations,
          Heedless interpreter more resolution.arguments target) →
        (interpreter.among more).dispatch input run = interpreter.dispatch input run := by
  have resolved : Resolution.ofLine? more (Line.parse input) =
      Resolution.ofLine? interpreter.components (Line.parse input) := by
    rw [Target.ofLine?_eq_findSome?, Target.ofLine?_eq_findSome?,
      Target.candidates_joined given path reaches joined]
  refine ⟨resolved, fun run heedless => ?_⟩
  have ordinary : Builtin.ofLine? (Line.parse input) = none := by
    unfold Builtin.ofLine?
    split
    case h_1 without => exact absurd without given
    case h_2 => rfl
  have components : (interpreter.among more).components = more := rfl
  simp only [dispatch, dispatchLine, ordinary, components, resolved]
  cases found : Resolution.ofLine? interpreter.components (Line.parse input) with
  | none => rfl
  | some resolution => exact perform_among (heedless resolution found)

/-- A lens that zooms to a level. -/
def zoomLens : Component Nat where
  identity := 0
  name := "Lens"
  operations :=
    [{ name := "Zoom"
       parameters := [⟨"level", .int⟩]
       handler := fun _ arguments zooms => (.ok (.array arguments), zooms + 1) }]

/-- A rig that has a lens of its own, and an operation in place of all others of its name. -/
def zoomRig : Component Nat where
  identity := 1
  name := "Rig"
  operations :=
    [{ name := "Zoom"
       overriding := true
       parameters := [⟨"level", .int⟩]
       handler := fun _ _ zooms => (.ok .null, zooms + 100) }]
  children := [{ zoomLens with identity := 2 }]

/-- The rig comes first and has everything that the line names, and has no part in it. -/
theorem dispatch_among_zoomRig :
    let alone : Interpreter Nat := { components := [zoomLens] }
    let joined := (alone.among [zoomRig, zoomLens]).dispatch "lens.ZOOM:3" { state := 0 }
    joined = alone.dispatch "lens.ZOOM:3" { state := 0 } ∧
      joined.1.map (·.message) = ["[3]"] ∧ joined.2.state = 1 := by
  intro alone joined
  have parsed : Line.parse "lens.ZOOM:3" = ⟨["lens", "ZOOM"], some ["3"]⟩ := by decide +kernel
  have given : (Line.parse "lens.ZOOM:3").arguments? ≠ none := by
    rw [parsed]
    exact Option.some_ne_none _
  have path : (Line.parse "lens.ZOOM:3").qualifiers = "lens" :: [] := by
    rw [parsed]
    rfl
  have reaches : Component.Reaches alone.components "lens" [] :=
    ⟨zoomLens, List.mem_singleton_self _, by decide, zoomLens, rfl⟩
  have joins : Component.Joined (fun component => Text.sameName component.name "lens" = false)
      alone.components [zoomRig, zoomLens] :=
    .new (by decide) (.old _ .nil)
  obtain ⟨_, same⟩ := alone.dispatch_among given path reaches joins
  refine ⟨same { state := 0 } ?_, by decide +kernel, by decide +kernel⟩
  intro resolution found _ target member
  rw [parsed] at found
  obtain rfl := Option.some.inj found
  obtain rfl := List.mem_singleton.mp member
  exact fun _ _ _ => rfl

/-- A desk where aliases are administered, and nothing else. -/
def frontDesk : Interpreter (AliasDesk SettingsTree) where
  components :=
    [AliasOffice.component 0
      { desk := { read := id, write := fun desk _ => desk, read_write := fun _ _ => rfl }
        store := .memory
        isOpen := fun _ => true }]

/-- Whether an alias can be added depends on what is registered besides the administration: the line
adds an alias of a command that is known only if there is a lens. -/
theorem dispatch_among_ne :
    let lens : Component (AliasDesk SettingsTree) :=
      { identity := 1
        name := "Lens"
        operations := [{ name := "Zoom", handler := fun _ _ desk => (.ok .null, desk) }] }
    let more := (frontDesk.register lens).components
    let input : Text := "Aliases.AddAlias:Zoom,z"
    let run : Run (AliasDesk SettingsTree) := { state := { settings := [] } }
    (Line.parse input).arguments? ≠ none ∧ (Line.parse input).qualifiers = ["Aliases".toList] ∧
      Component.Reaches frontDesk.components "Aliases" [] ∧
      Component.Joined (fun component => Text.sameName component.name "Aliases" = false)
        frontDesk.components more ∧
      (frontDesk.dispatch input run).1.map (·.isOk) = [false] ∧
      ((frontDesk.among more).dispatch input run).1.map (·.isOk) = [true] := by
  intro lens more input run
  have joined : Component.Joined (fun component => Text.sameName component.name "Aliases" = false)
      frontDesk.components more :=
    .register (by decide) (by simp [frontDesk, AliasOffice.component, lens])
  refine ⟨by decide +kernel, by decide +kernel, ?_, joined, by decide +kernel, by decide +kernel⟩
  exact ⟨_, List.mem_singleton_self _, by decide, _, rfl⟩

end Interpreter

end CommandLink
