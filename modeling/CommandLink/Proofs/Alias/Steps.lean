import CommandLink.Alias.Manager
import CommandLink.Proofs.Text.Trimming

/-!
# Steps of the alias administration

What a request to the alias administration can come to, over any settings store: which conditions
lead there, what the answer is, and what is in the table then. One relation for each request says it
all, failures included, and the request keeps to it (`addStep`, `removeStep`, `clearStep`).
-/

namespace CommandLink

namespace AliasDesk

variable {τ : Type}

/-- An alias can be put into a table. -/
structure Accepts (directory : Directory) (kind : AliasKind) (internal text : Text)
    (table : AliasTable) : Prop where
  registered : directory internal = true
  filled : text ≠ []
  trimmed : Text.trim text = text
  free : kind = .input → table.rival? internal text = none

/-- What it takes for an alias to be accepted, and what comes of it. -/
theorem insert_eq_ok {directory : Directory} {kind : AliasKind} {internal text : Text}
    {table grown : AliasTable} {isNew : Bool}
    (accepted : AliasDesk.insert directory kind internal text table = .ok (isNew, grown)) :
    Accepts directory kind internal (Text.trim text) table ∧
      isNew = !table.has kind internal (Text.trim text) ∧
      grown = table.add kind internal (Text.trim text) := by
  unfold AliasDesk.insert at accepted
  dsimp only at accepted
  split at accepted
  · cases accepted
  rename_i filled
  split at accepted
  · cases accepted
  rename_i registered
  split at accepted
  · cases accepted
  rename_i free
  cases accepted
  refine ⟨⟨by simpa using registered, by simpa using filled, Text.trim_trim text, ?_⟩, rfl, rfl⟩
  intro input
  rwa [if_pos input] at free

/-- What a request to add an alias can come to. -/
inductive AddStep (store : SettingsStore τ) (directory : Directory) (kind : AliasKind)
    (internal text : Text) (desk : AliasDesk τ) : Except AliasError Unit → AliasDesk τ → Prop where
  /-- The alias is refused before anything is changed. -/
  | refused (error : AliasError) : AddStep store directory kind internal text desk (.error error) desk
  /-- The alias is there already, and nothing is stored. -/
  | known {path : Text} (joined : SettingsPath.join [root, internal, segment kind, text] = .ok path)
      (accepted : Accepts directory kind internal text desk.table)
      (known : desk.table.has kind internal text = true) :
      AddStep store directory kind internal text desk (.ok ())
        { desk with table := desk.table.add kind internal text }
  /-- The alias is new, and it is stored. -/
  | stored {path : Text} {settings : τ}
      (joined : SettingsPath.join [root, internal, segment kind, text] = .ok path)
      (accepted : Accepts directory kind internal text desk.table)
      (new : desk.table.has kind internal text = false)
      (updated : store.update path text desk.settings = (.ok (), settings)) :
      AddStep store directory kind internal text desk (.ok ())
        ⟨desk.table.add kind internal text, settings⟩
  /-- The alias is new and cannot be stored, so it is taken out of the table again. -/
  | takenBack {path : Text} {settings : τ} {reason : SettingsError}
      (joined : SettingsPath.join [root, internal, segment kind, text] = .ok path)
      (accepted : Accepts directory kind internal text desk.table)
      (new : desk.table.has kind internal text = false)
      (failed : store.update path text desk.settings = (.error reason, settings)) :
      AddStep store directory kind internal text desk (.error (.settings reason))
        ⟨(desk.table.add kind internal text).forget kind internal text, settings⟩

/-- What a request to remove an alias can come to. The table is without the alias in any case. -/
inductive RemoveStep (store : SettingsStore τ) (kind : AliasKind) (internal text : Text)
    (desk : AliasDesk τ) : Except AliasError Bool → AliasDesk τ → Prop where
  /-- The alias is not there. -/
  | absent (absent : desk.table.has kind internal text = false) :
      RemoveStep store kind internal text desk (.ok false)
        { desk with table := desk.table.forget kind internal text }
  /-- The alias is removed from the settings as well. -/
  | removed {path : Text} {settings : τ} (known : desk.table.has kind internal text = true)
      (joined : SettingsPath.join [root, internal, segment kind, text] = .ok path)
      (removed : store.remove path desk.settings = (.ok (), settings)) :
      RemoveStep store kind internal text desk (.ok true)
        ⟨desk.table.forget kind internal text, settings⟩
  /-- The alias makes no path of the settings. -/
  | malformed {reason : SettingsError} (known : desk.table.has kind internal text = true)
      (joined : SettingsPath.join [root, internal, segment kind, text] = .error reason) :
      RemoveStep store kind internal text desk (.error (.settings reason))
        { desk with table := desk.table.forget kind internal text }
  /-- The settings do not let go of the alias. -/
  | failed {path : Text} {settings : τ} {reason : SettingsError}
      (known : desk.table.has kind internal text = true)
      (joined : SettingsPath.join [root, internal, segment kind, text] = .ok path)
      (failed : store.remove path desk.settings = (.error reason, settings)) :
      RemoveStep store kind internal text desk (.error (.settings reason))
        ⟨desk.table.forget kind internal text, settings⟩

/-- What a request to clear a command can come to. The table is without the command in any case. -/
inductive ClearStep (store : SettingsStore τ) (internal : Text) (desk : AliasDesk τ) :
    Except AliasError Bool → AliasDesk τ → Prop where
  /-- The command is removed from the settings as well. -/
  | cleared {path : Text} {settings : τ} (joined : SettingsPath.join [root, internal] = .ok path)
      (removed : store.remove path desk.settings = (.ok (), settings)) :
      ClearStep store internal desk (.ok (desk.table.any (·.internal == internal)))
        ⟨desk.table.clear internal, settings⟩
  /-- The command makes no path of the settings. -/
  | malformed {reason : SettingsError}
      (joined : SettingsPath.join [root, internal] = .error reason) :
      ClearStep store internal desk (.error (.settings reason))
        { desk with table := desk.table.clear internal }
  /-- The settings do not let go of the command. -/
  | failed {path : Text} {settings : τ} {reason : SettingsError}
      (joined : SettingsPath.join [root, internal] = .ok path)
      (failed : store.remove path desk.settings = (.error reason, settings)) :
      ClearStep store internal desk (.error (.settings reason))
        ⟨desk.table.clear internal, settings⟩

variable {store : SettingsStore τ} {directory : Directory} {desk next : AliasDesk τ}
  {kind : AliasKind} {internal raw : Text} {done : Except AliasError Unit}
  {answer : Except AliasError Bool}

theorem addStep (performed : desk.add store directory kind internal raw = (done, next)) :
    AddStep store directory kind internal (Text.trim raw) desk done next := by
  unfold AliasDesk.add at performed
  dsimp only at performed
  split at performed
  · cases performed
    exact .refused _
  split at performed
  · cases performed
    exact .refused _
  rename_i path joined
  split at performed
  · cases performed
    exact .refused _
  · rename_i grown inserted
    obtain ⟨accepted, isNew, rfl⟩ := insert_eq_ok inserted
    rw [Text.trim_trim] at accepted isNew performed
    cases performed
    exact .known joined accepted (by simpa using isNew)
  · rename_i grown inserted
    obtain ⟨accepted, isNew, rfl⟩ := insert_eq_ok inserted
    rw [Text.trim_trim] at accepted isNew performed
    have new : desk.table.has kind internal (Text.trim raw) = false := by simpa using isNew
    split at performed
    · rename_i updated
      cases performed
      exact .stored joined accepted new updated
    · rename_i failed
      cases performed
      exact .takenBack joined accepted new failed

theorem removeStep (performed : desk.remove store kind internal raw = (answer, next)) :
    RemoveStep store kind internal (Text.trim raw) desk answer next := by
  unfold AliasDesk.remove at performed
  dsimp only at performed
  split at performed
  case isFalse absent =>
    cases performed
    exact .absent (by simpa using absent)
  case isTrue known =>
    split at performed
    · rename_i joined
      cases performed
      exact .malformed known joined
    · rename_i joined
      split at performed
      · rename_i removed
        cases performed
        exact .removed known joined removed
      · rename_i failed
        cases performed
        exact .failed known joined failed

theorem clearStep (performed : desk.clear store internal = (answer, next)) :
    ClearStep store internal desk answer next := by
  unfold AliasDesk.clear at performed
  dsimp only at performed
  split at performed
  · rename_i joined
    cases performed
    exact .malformed joined
  · rename_i joined
    split at performed
    · rename_i removed
      cases performed
      exact .cleared joined removed
    · rename_i failed
      cases performed
      exact .failed joined failed

/-- An alias that is removed is not in the table any more, whatever the answer. -/
theorem RemoveStep.table {text : Text} (step : RemoveStep store kind internal text desk answer next) :
    next.table = desk.table.forget kind internal text := by
  cases step <;> rfl

/-- A command that is cleared is not in the table any more, whatever the answer. -/
theorem ClearStep.table (step : ClearStep store internal desk answer next) :
    next.table = desk.table.clear internal := by
  cases step <;> rfl

end AliasDesk

end CommandLink
