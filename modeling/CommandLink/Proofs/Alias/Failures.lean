import CommandLink.Proofs.Alias.WellFormed

/-!
# Alias requests that fail

An alias is put into the table before it is stored, and taken out again when it cannot be stored. That
leaves the table exactly as it was, whatever was in the way (`add_all_or_nothing`). Aliases that are
removed are taken from the table before anything else is looked at, and nothing puts them back. So a
removal that fails has taken from the table what it was asked to, and the table is as it was only if
there was nothing to take (`table_eq_iff_of_error`).
-/

namespace CommandLink

namespace AliasRecord

variable {record : AliasRecord} {kind : AliasKind} {text : Text}

@[simp] theorem setTexts_setTexts (texts others : List Text) :
    (record.setTexts kind texts).setTexts kind others = record.setTexts kind others := by
  cases kind <;> rfl

@[simp] theorem setTexts_texts : record.setTexts kind (record.texts kind) = record := by
  cases kind <;> rfl

/-- Removing a new alias undoes adding it. -/
theorem remove_add (new : record.has kind text = false) :
    (record.add kind text).remove kind text = record := by
  have others : (record.texts kind).filter (!Text.sameName · text) = record.texts kind := by
    rw [List.filter_eq_self]
    intro held inside
    rw [has, List.any_eq_false] at new
    simpa using new held inside
  have own : [text].filter (!Text.sameName · text) = [] := by
    simp [Text.sameName]
  have added : record.add kind text = record.setTexts kind (record.texts kind ++ [text]) := by
    simp [add, new]
  rw [added, remove, texts_setTexts, if_pos rfl, List.filter_append, others, own,
    List.append_nil, setTexts_setTexts, setTexts_texts]

/-- Removing an alias that is there leaves fewer. -/
theorem remove_ne (known : record.has kind text = true) : record.remove kind text ≠ record := by
  obtain ⟨held, inside, same⟩ := has_iff.mp known
  intro unchanged
  have left : held ∈ (record.remove kind text).texts kind := by rwa [unchanged]
  exact (mem_texts_remove.mp left).2 ⟨rfl, same⟩

end AliasRecord

namespace AliasTable

variable {table : AliasTable} {kind : AliasKind} {internal text : Text}

/-- Removing a new alias undoes adding it, as long as no command has a record without aliases: the
record that it was added to was there before, and stays, or it was made for it, and goes. -/
theorem forget_add (filled : ∀ record ∈ table, record.isEmpty = false)
    (new : table.has kind internal text = false) :
    (table.add kind internal text).forget kind internal text = table := by
  induction table with
  | nil =>
      have none : AliasRecord.has { internal } kind text = false := by cases kind <;> rfl
      have bare : AliasRecord.isEmpty { internal } = true := rfl
      simp [add, forget, AliasRecord.remove_add none, bare]
  | cons record table inductionHypothesis =>
      rw [List.forall_mem_cons] at filled
      rw [has_cons] at new
      by_cases here : record.internal = internal
      · rw [if_pos here] at new
        simp [add, forget, here, AliasRecord.remove_add new, filled.1]
      · rw [if_neg here] at new
        simp [add, forget, here, inductionHypothesis filled.2 new]

/-- Removing an alias that is there changes the table. -/
theorem forget_ne (known : table.has kind internal text = true) :
    table.forget kind internal text ≠ table := by
  induction table with
  | nil => cases known
  | cons record table inductionHypothesis =>
      rw [has_cons] at known
      unfold forget
      by_cases here : record.internal = internal
      · rw [if_pos here] at known ⊢
        split
        · exact (List.cons_ne_self record table).symm
        · simp [AliasRecord.remove_ne known]
      · rw [if_neg here] at known ⊢
        simpa using inductionHypothesis known

/-- Clearing a command changes nothing exactly if the command has no record. -/
theorem clear_eq_self_iff :
    table.clear internal = table ↔ internal ∉ table.map (·.internal) := by
  simp [clear, List.filter_eq_self]

end AliasTable

namespace AliasDesk

variable {τ : Type} {store : SettingsStore τ} {directory : Directory} {desk next : AliasDesk τ}
  {kind : AliasKind} {internal raw : Text} {error : AliasError}

/-- An alias that is added is in the table then. -/
theorem table_of_add_ok (granted : desk.add store directory kind internal raw = (.ok (), next)) :
    next.table = desk.table.add kind internal (Text.trim raw) := by
  cases addStep granted <;> rfl

/-- Where no record is without aliases, an alias that is not added leaves the table as it was: it was
refused at once, or it was a new one and was taken out of the table again. -/
theorem table_of_add_error (filled : ∀ record ∈ desk.table, record.isEmpty = false)
    (failed : desk.add store directory kind internal raw = (.error error, next)) :
    next.table = desk.table := by
  cases addStep failed with
  | refused => rfl
  | takenBack _ _ new => exact AliasTable.forget_add filled new

/-- Only the removal of an alias that is there can fail. -/
theorem has_of_remove_error
    (failed : desk.remove store kind internal raw = (.error error, next)) :
    desk.table.has kind internal (Text.trim raw) = true := by
  cases removeStep failed with
  | malformed known => exact known
  | failed known => exact known

end AliasDesk

namespace AliasEvent

variable {τ : Type}

/-- Whatever has happened to the alias administration: an alias is added to the table, or else, for
whatever reason it is not, the table is the same as before, record by record and alias by alias. -/
theorem add_all_or_nothing (store : SettingsStore τ) (events : List (AliasEvent τ)) (settings : τ)
    (directory : Directory) (kind : AliasKind) (internal raw : Text) :
    let desk := performAll store events { settings }
    (∀ next, desk.add store directory kind internal raw = (.ok (), next) →
        next.table = desk.table.add kind internal (Text.trim raw)) ∧
      ∀ error next, desk.add store directory kind internal raw = (.error error, next) →
        next.table = desk.table := by
  intro desk
  have formed : desk.table.WellFormed := wellFormed_performAll_of_wellFormed events
    AliasTable.wellFormed_nil
  exact ⟨fun _ => AliasDesk.table_of_add_ok, fun _ _ => AliasDesk.table_of_add_error formed.filled⟩

/-- A command is given an alias, and then the store refuses every update. -/
def worn : List (AliasEvent (Refusals × SettingsTree)) :=
  [.request (fun _ => true) (.add .input "Snap" "click"),
    .changed ({ update := true }, [("CustomCommands/Snap/Aliases/click", "click")])]

/-- A further alias of the command, and a first one of another command, cannot be stored. The command
keeps its record, and the other one has none. -/
theorem add_all_or_nothing_worn :
    let store := SettingsStore.memory.refusing
    let desk := performAll store worn { settings := ({}, []) }
    desk.table = [{ internal := "Snap", inputs := ["click"] }] ∧
      (∃ next, desk.add store (fun _ => true) .reply "Snap" "clicked" =
          (.error (.settings (.invalidPath "CustomCommands/Snap/Replies/clicked")), next) ∧
        next.table = desk.table) ∧
      ∃ next, desk.add store (fun _ => true) .input "SetLevel" "lvl" =
          (.error (.settings (.invalidPath "CustomCommands/SetLevel/Aliases/lvl")), next) ∧
        next.table = desk.table := by
  intro store desk
  have nothing := fun kind internal raw =>
    (add_all_or_nothing store worn ({}, []) (fun _ => true) kind internal raw).2
  exact ⟨rfl, ⟨_, rfl, nothing .reply "Snap" "clicked" _ _ rfl⟩,
    ⟨_, rfl, nothing .input "SetLevel" "lvl" _ _ rfl⟩⟩

end AliasEvent

/-- What is to be removed: one alias of a command, or all of them. -/
inductive AliasRemoval where
  | single (kind : AliasKind) (internal raw : Text)
  | all (internal : Text)
deriving DecidableEq, Repr

namespace AliasRemoval

variable {τ : Type} {store : SettingsStore τ} {desk next : AliasDesk τ} {removal : AliasRemoval}
  {error : AliasError}

/-- Ask for a removal. The answer is whether there was anything in the table. -/
def perform (store : SettingsStore τ) (removal : AliasRemoval) (desk : AliasDesk τ) :
    Except AliasError Bool × AliasDesk τ :=
  match removal with
  | .single kind internal raw => desk.remove store kind internal raw
  | .all internal => desk.clear store internal

/-- A table without what is to be removed. -/
def reduce (removal : AliasRemoval) (table : AliasTable) : AliasTable :=
  match removal with
  | .single kind internal raw => table.forget kind internal (Text.trim raw)
  | .all internal => table.clear internal

/-- The table after a removal does not depend on the answer. -/
theorem table_of_perform {answer : Except AliasError Bool}
    (performed : removal.perform store desk = (answer, next)) :
    next.table = removal.reduce desk.table := by
  cases removal with
  | single kind internal raw => exact (AliasDesk.removeStep performed).table
  | all internal => exact (AliasDesk.clearStep performed).table

/-- A removal that fails has taken from the table what was to be removed. So the table is as before
only if a command was cleared that has no aliases. -/
theorem table_eq_iff_of_error (failed : removal.perform store desk = (.error error, next)) :
    next.table = removal.reduce desk.table ∧
      (next.table = desk.table ↔
        ∃ internal, removal = .all internal ∧ internal ∉ desk.table.map (·.internal)) := by
  have reduced := table_of_perform failed
  refine ⟨reduced, ?_⟩
  rw [reduced]
  cases removal with
  | single kind internal raw =>
      refine iff_of_false (AliasTable.forget_ne (AliasDesk.has_of_remove_error failed)) ?_
      rintro ⟨_, other, _⟩
      cases other
  | all internal =>
      rw [reduce, AliasTable.clear_eq_self_iff]
      constructor
      · intro absent
        exact ⟨internal, rfl, absent⟩
      · rintro ⟨_, same, absent⟩
        rwa [AliasRemoval.all.inj same]

/-- The store refuses to remove anything. Clearing a command without aliases fails and leaves the
table alone, and clearing the other one fails and empties it. -/
theorem table_eq_iff_of_error_unrelated :
    let store := SettingsStore.memory.refusing
    let desk : AliasDesk (Refusals × SettingsTree) :=
      { table := [{ internal := "Snap", inputs := ["click"] }]
        settings := ({ remove := true }, [("CustomCommands/Snap/Aliases/click", "click")]) }
    (∃ next, (all "SetLevel").perform store desk =
        (.error (.settings (.invalidPath "CustomCommands/SetLevel")), next) ∧
      next.table = desk.table) ∧
    ∃ next, (all "Snap").perform store desk =
        (.error (.settings (.invalidPath "CustomCommands/Snap")), next) ∧
      next.table = [] ∧ next.table ≠ desk.table := by
  intro store desk
  have unrelated : (all "SetLevel").perform store desk =
      (.error (.settings (.invalidPath "CustomCommands/SetLevel")), desk) := rfl
  have own : (all "Snap").perform store desk =
      (.error (.settings (.invalidPath "CustomCommands/Snap")), { desk with table := [] }) := rfl
  refine ⟨⟨_, unrelated, (table_eq_iff_of_error unrelated).2.mpr ⟨_, rfl, by decide⟩⟩,
    ⟨_, own, (table_eq_iff_of_error own).1, ?_⟩⟩
  intro same
  obtain ⟨internal, isAll, absent⟩ := (table_eq_iff_of_error own).2.mp same
  obtain rfl := AliasRemoval.all.inj isAll
  exact absent (by decide)

/-- A command is given an alias, and then the store refuses to remove anything. -/
def stuck : List (AliasEvent (Refusals × SettingsTree)) :=
  [.request (fun _ => true) (.add .input "Snap" "rec"),
    .changed ({ remove := true }, [("CustomCommands/Snap/Aliases/rec", "rec")])]

/-- An alias with a slash in it is restored from the value of a stored entry. -/
def slashed : List (AliasEvent SettingsTree) :=
  [.changed [("CustomCommands/Snap/Aliases/rec", "on/off")], .restore fun _ => true]

/-- Removals that fail and take aliases from the table: of one alias and of all aliases of a command
over a store that refuses it, and of one alias over a store that never fails, since no path can be
made from it. -/
theorem exists_failed_removal_taken :
    (let store := SettingsStore.memory.refusing
      let desk := AliasEvent.performAll store stuck { settings := ({}, []) }
      desk.table = [{ internal := "Snap", inputs := ["rec"] }] ∧
        (∃ next, desk.remove store .input "Snap" "rec" =
            (.error (.settings (.invalidPath "CustomCommands/Snap/Aliases/rec")), next) ∧
          next.table = []) ∧
        ∃ next, desk.clear store "Snap" =
            (.error (.settings (.invalidPath "CustomCommands/Snap")), next) ∧
          next.table = []) ∧
      let desk := AliasEvent.performAll .memory slashed { settings := [] }
      desk.table = [{ internal := "Snap", inputs := ["on/off"] }] ∧
        ∃ next, desk.remove .memory .input "Snap" "on/off" =
            (.error (.settings (.invalidPath "CustomCommands/Snap/Aliases/on/off")), next) ∧
          next.table = [] :=
  ⟨⟨rfl, ⟨_, rfl, rfl⟩, _, rfl, rfl⟩, rfl, _, rfl, rfl⟩

end AliasRemoval

end CommandLink
