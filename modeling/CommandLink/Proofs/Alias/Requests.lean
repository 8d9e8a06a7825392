import CommandLink.Proofs.Alias.Administration

/-!
# Alias requests

Runs of requests to the alias administration. The aliases can be restored after each of them exactly
if none removes an alias in another spelling than it is held in (`restorable_throughout_iff`).
-/

namespace CommandLink

/-- A change of the aliases. -/
inductive AliasRequest where
  | add (kind : AliasKind) (internal raw : Text)
  | remove (kind : AliasKind) (internal raw : Text)
  | clear (internal : Text)
deriving DecidableEq, Repr

namespace AliasRequest

/-- The desk after a request that was granted. -/
def granted? {τ α : Type} : Except AliasError α × AliasDesk τ → Option (AliasDesk τ)
  | (.ok _, desk) => some desk
  | (.error _, _) => none

/-- Perform a request over a store in memory. There is no desk if it is refused. -/
def perform? (directory : Directory) (request : AliasRequest) (desk : AliasDesk SettingsTree) :
    Option (AliasDesk SettingsTree) :=
  match request with
  | .add kind internal raw => granted? (desk.add .memory directory kind internal raw)
  | .remove kind internal raw => granted? (desk.remove .memory kind internal raw)
  | .clear internal => granted? (desk.clear .memory internal)

/-- Perform requests in order, all of which must be granted. -/
def performAll? (directory : Directory) :
    List AliasRequest → AliasDesk SettingsTree → Option (AliasDesk SettingsTree)
  | [], desk => some desk
  | request :: rest, desk => (request.perform? directory desk).bind (performAll? directory rest)

/-- Whether a request removes an alias of the table without spelling it as it is held there. -/
def Misspelled (request : AliasRequest) (table : AliasTable) : Prop :=
  match request with
  | .remove kind internal raw =>
      table.has kind internal (Text.trim raw) = true ∧ Text.trim raw ∉ table.texts kind internal
  | .add .. | .clear .. => False

variable {directory : Directory} {desk next last : AliasDesk SettingsTree} {request : AliasRequest}
  {requests : List AliasRequest}

theorem granted?_eq_some_iff {τ α : Type} {outcome : Except AliasError α × AliasDesk τ}
    {after : AliasDesk τ} :
    granted? outcome = some after ↔ ∃ answer, outcome = (.ok answer, after) := by
  obtain ⟨result, reached⟩ := outcome
  cases result <;> simp [granted?]

/-- A request keeps the settings in step unless it is misspelled, and then the aliases cannot be
restored. -/
theorem kept_perform? (kept : desk.Kept directory)
    (granted : request.perform? directory desk = some next) :
    (¬ request.Misspelled desk.table → next.Kept directory) ∧
      (request.Misspelled desk.table → ¬ next.Restorable directory) := by
  cases request with
  | add kind internal raw =>
      obtain ⟨_, granted⟩ := granted?_eq_some_iff.mp granted
      exact ⟨fun _ => kept.add granted, False.elim⟩
  | remove kind internal raw =>
      obtain ⟨removed, granted⟩ := granted?_eq_some_iff.mp granted
      refine ⟨fun spelled => kept.remove granted fun known => ?_, fun misspelled =>
        AliasDesk.not_restorable_of_remove kept granted misspelled.1 misspelled.2⟩
      by_contra other
      exact spelled ⟨known, other⟩
  | clear internal =>
      obtain ⟨removed, granted⟩ := granted?_eq_some_iff.mp granted
      exact ⟨fun _ => kept.clear granted, False.elim⟩

/-- Requests to a desk whose settings mirror its table. -/
theorem restorable_throughout_iff_of_kept (kept : desk.Kept directory)
    (granted : performAll? directory requests desk = some last) :
    (∀ first rest reached, first ++ rest = requests →
        performAll? directory first desk = some reached → reached.Restorable directory) ↔
      ∀ first request rest reached, first ++ request :: rest = requests →
        performAll? directory first desk = some reached → ¬ request.Misspelled reached.table := by
  induction requests generalizing desk with
  | nil =>
      refine ⟨fun _ first request rest reached whole => by simp at whole, ?_⟩
      rintro _ first rest reached whole performed
      obtain ⟨rfl, rfl⟩ := List.append_eq_nil_iff.mp whole
      cases performed
      exact kept.restorable
  | cons request requests inductionHypothesis =>
      obtain ⟨next, performed, grantedRest⟩ := Option.bind_eq_some_iff.mp granted
      obtain ⟨keptNext, lost⟩ := kept_perform? kept performed
      have performAll?_cons : ∀ first,
          performAll? directory (request :: first) desk = performAll? directory first next := by
        simp [performAll?, performed]
      constructor
      · intro restorable
        have spelled : ¬ request.Misspelled desk.table := fun misspelled =>
          lost misspelled (restorable [request] requests next rfl (performAll?_cons []))
        have spelledRest := (inductionHypothesis (keptNext spelled) grantedRest).mp
          fun first rest reached whole run =>
            restorable (request :: first) rest reached (congrArg (request :: ·) whole)
              ((performAll?_cons first).trans run)
        intro first other rest reached whole run
        cases first with
        | nil =>
            obtain ⟨rfl, _⟩ := List.cons.inj whole
            cases run
            exact spelled
        | cons head first =>
            obtain ⟨rfl, wholeRest⟩ := List.cons.inj whole
            exact spelledRest first other rest reached wholeRest
              ((performAll?_cons first).symm.trans run)
      · intro spelled
        have spelledFirst := spelled [] request requests desk rfl rfl
        have restorableRest := (inductionHypothesis (keptNext spelledFirst) grantedRest).mpr
          fun first other rest reached whole run =>
            spelled (request :: first) other rest reached (congrArg (request :: ·) whole)
              ((performAll?_cons first).trans run)
        intro first rest reached whole run
        cases first with
        | nil =>
            cases run
            exact kept.restorable
        | cons head first =>
            obtain ⟨rfl, wholeRest⟩ := List.cons.inj whole
            exact restorableRest first rest reached wholeRest
              ((performAll?_cons first).symm.trans run)

/-- What it takes that the aliases can be restored at any time. If all requests are granted, from no
aliases at all, then a fresh desk can load the same aliases before and after each of them exactly if
none removes an alias without spelling it as it is held. -/
theorem restorable_throughout_iff
    (granted : performAll? directory requests { settings := [] } = some last) :
    (∀ first rest reached, first ++ rest = requests →
        performAll? directory first { settings := [] } = some reached →
        reached.Restorable directory) ↔
      ∀ first request rest reached, first ++ request :: rest = requests →
        performAll? directory first { settings := [] } = some reached →
        ¬ request.Misspelled reached.table :=
  restorable_throughout_iff_of_kept (AliasDesk.kept_empty directory) granted

/-- Aliases are added, one of them with blanks around it, and that one is removed without them. -/
def tidy : List AliasRequest :=
  [.add .input "Snap" " rec ", .add .reply "Snap" "done", .remove .input "Snap" "rec"]

/-- The reply alias is restored, and the input alias is not. -/
theorem restorable_throughout_iff_tidy :
    ∃ last, performAll? (fun _ => true) tidy { settings := [] } = some last ∧
      last.table.texts .reply "Snap" = ["done"] ∧
      last.Restorable fun _ => true := by
  let added : AliasDesk SettingsTree :=
    { table := [{ internal := "Snap", inputs := ["rec"], replies := ["done"] }]
      settings := [("CustomCommands/Snap/Aliases/rec", "rec"),
        ("CustomCommands/Snap/Replies/done", "done")] }
  have grantedAdding :
      performAll? (fun _ => true) (tidy.take 2) { settings := [] } = some added := rfl
  have granted : performAll? (fun _ => true) tidy { settings := [] } =
      some
        { table := [{ internal := "Snap", replies := ["done"] }]
          settings := [("CustomCommands/Snap/Replies/done", "done")] } := rfl
  refine ⟨_, granted, rfl, ?_⟩
  refine (restorable_throughout_iff granted).mpr ?_ tidy [] _ rfl granted
  intro first request rest reached whole run misspelled
  rcases first with _ | ⟨_, _ | ⟨_, _ | ⟨_, first⟩⟩⟩
  · obtain ⟨rfl, _⟩ := List.cons.inj whole
    exact misspelled
  · obtain ⟨_, rfl, _⟩ := List.cons.inj whole
    exact misspelled
  · obtain ⟨rfl, rfl, rfl, rfl⟩ : _ ∧ _ ∧ _ ∧ _ := by simpa [tidy] using whole
    obtain rfl := Option.some.inj (run.symm.trans grantedAdding)
    exact misspelled.2 (by decide)
  · simp [tidy] at whole

/-- An alias is added, and removed in capital letters. -/
def shouted : List AliasRequest :=
  [.add .input "Snap" "rec", .remove .input "Snap" "REC"]

/-- An alias that was removed in capital letters comes back. -/
theorem exists_not_restorable :
    ∃ last, performAll? (fun _ => true) shouted { settings := [] } = some last ∧
      last.table = [] ∧ ¬ last.Restorable fun _ => true := by
  refine ⟨{ settings := [("CustomCommands/Snap/Aliases/rec", "rec")] }, rfl, rfl, ?_⟩
  rintro ⟨count, fresh, loaded, agrees⟩
  have restored : fresh.table = [{ internal := "Snap", inputs := ["rec"] }] :=
    congrArg (·.2.table) loaded.symm
  have back := (agrees .input "Snap" "rec").mp (by rw [restored]; decide)
  cases back

end AliasRequest

end CommandLink
