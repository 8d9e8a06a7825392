import CommandLink.Proofs.Alias.Requests

/-!
# Well-formed alias tables

What holds of the alias table at all times, whatever is asked of the administration, whatever the
settings store answers and whichever commands there are (`AliasEvent.wellFormed_performAll`).
-/

namespace CommandLink

/-- The aliases of a command are all different, and none is blank or has blanks around it. -/
structure AliasRecord.WellFormed (record : AliasRecord) : Prop where
  single : ∀ kind, (record.texts kind).Pairwise fun text other => ¬Text.sameName text other = true
  tidy : ∀ kind, ∀ text ∈ record.texts kind, text ≠ [] ∧ Text.trim text = text

namespace AliasRecord

variable {record : AliasRecord} {kind : AliasKind} {text : Text}

/-- A command without aliases. -/
theorem wellFormed_bare (internal : Text) : WellFormed { internal } := by
  constructor <;> intro kind <;> cases kind <;> simp [texts]

theorem WellFormed.add (formed : record.WellFormed) (filled : text ≠ [])
    (trimmed : Text.trim text = text) : (record.add kind text).WellFormed := by
  cases known : record.has kind text with
  | true => simpa [AliasRecord.add, known] using formed
  | false =>
      refine ⟨fun other => ?_, fun other held inside => ?_⟩
      · by_cases same : other = kind
        · subst same
          simp only [AliasRecord.add, known, Bool.false_eq_true, if_false, texts_setTexts, if_true]
          rw [List.pairwise_append]
          refine ⟨formed.single other, List.pairwise_singleton _ _, ?_⟩
          intro held inside new isNew clash
          obtain rfl := List.mem_singleton.mp isNew
          exact absurd (has_iff.mpr ⟨held, inside, clash⟩) (by simp [known])
        · simpa [AliasRecord.add, known, texts_setTexts, same] using formed.single other
      · rcases mem_texts_add.mp inside with old | ⟨_, rfl, rfl⟩
        · exact formed.tidy other held old
        · exact ⟨filled, trimmed⟩

theorem texts_remove_sublist (other : AliasKind) :
    ((record.remove kind text).texts other).Sublist (record.texts other) := by
  rw [remove, texts_setTexts]
  split
  case isTrue same =>
    subst same
    exact List.filter_sublist
  case isFalse => exact List.Sublist.refl _

/-- A record of fewer aliases. -/
theorem WellFormed.of_sublist {fewer : AliasRecord} (formed : record.WellFormed)
    (fewerTexts : ∀ kind, (fewer.texts kind).Sublist (record.texts kind)) : fewer.WellFormed where
  single kind := (formed.single kind).sublist (fewerTexts kind)
  tidy kind text inside := formed.tidy kind text ((fewerTexts kind).subset inside)

/-- A record has aliases after one was added. -/
theorem isEmpty_add : (record.add kind text).isEmpty = false := by
  rw [Bool.eq_false_iff]
  intro empty
  have none : ∀ held, held ∉ (record.add kind text).texts kind := by
    simp [texts_of_isEmpty empty]
  cases known : record.has kind text with
  | true =>
      obtain ⟨held, inside, _⟩ := has_iff.mp known
      exact none held (mem_texts_add.mpr (.inl inside))
  | false => exact none text (mem_texts_add.mpr (.inr ⟨known, rfl, rfl⟩))

end AliasRecord

/-- What holds of an alias table at all times. -/
structure AliasTable.WellFormed (table : AliasTable) : Prop where
  /-- No command has two records. -/
  distinct : (table.map (·.internal)).Nodup
  /-- No record is without aliases. -/
  filled : ∀ record ∈ table, record.isEmpty = false
  /-- The aliases of one sort of a command are different in more than letter case, not empty, and
  without blanks around them. -/
  records : ∀ record ∈ table, record.WellFormed
  /-- No input alias belongs to two commands, in any letter case. -/
  exclusive : ∀ record ∈ table, ∀ other ∈ table, ∀ text ∈ record.inputs, ∀ held ∈ other.inputs,
    Text.sameName text held = true → record = other

namespace AliasTable

variable {table : AliasTable} {kind : AliasKind} {internal text : Text} {record : AliasRecord}

theorem wellFormed_nil : WellFormed [] := by
  constructor <;> simp

/-- Where every command has one record, records of the same command are the same. -/
theorem IsDistinct.eq_of_internal {other : AliasRecord} (distinct : table.IsDistinct)
    (member : record ∈ table) (memberOther : other ∈ table)
    (same : record.internal = other.internal) : record = other :=
  List.inj_on_of_nodup_map distinct member memberOther same

/-- The records of a table after an alias was added: those of the other commands, and that of the
command with the alias added to it. -/
theorem mem_add (member : record ∈ table.add kind internal text) :
    record ∈ table ∨
      ∃ old, (old ∈ table ∨ old = { internal }) ∧ old.internal = internal ∧
        record = old.add kind text := by
  induction table with
  | nil => exact .inr ⟨{ internal }, .inr rfl, rfl, List.mem_singleton.mp member⟩
  | cons first table inductionHypothesis =>
      unfold add at member
      split at member
      case isTrue here =>
        rcases List.mem_cons.mp member with rfl | later
        · exact .inr ⟨first, .inl List.mem_cons_self, here, rfl⟩
        · exact .inl (List.mem_cons_of_mem _ later)
      case isFalse =>
        rcases List.mem_cons.mp member with rfl | later
        · exact .inl List.mem_cons_self
        · rcases inductionHypothesis later with old | ⟨old, present | bare, command, grown⟩
          · exact .inl (List.mem_cons_of_mem _ old)
          · exact .inr ⟨old, .inl (List.mem_cons_of_mem _ present), command, grown⟩
          · exact .inr ⟨old, .inr bare, command, grown⟩

/-- The records of a table after an alias was removed. -/
theorem mem_forget (member : record ∈ table.forget kind internal text) :
    record ∈ table ∨
      ∃ old ∈ table, record = old.remove kind text ∧ record.isEmpty = false := by
  induction table with
  | nil => cases member
  | cons first table inductionHypothesis =>
      unfold forget at member
      split at member
      case isTrue =>
        split at member
        case isTrue => exact .inl (List.mem_cons_of_mem _ member)
        case isFalse left =>
          rcases List.mem_cons.mp member with rfl | later
          · exact .inr ⟨first, List.mem_cons_self, rfl, by simpa using left⟩
          · exact .inl (List.mem_cons_of_mem _ later)
      case isFalse =>
        rcases List.mem_cons.mp member with rfl | later
        · exact .inl List.mem_cons_self
        · rcases inductionHypothesis later with old | ⟨old, present, shrunk⟩
          · exact .inl (List.mem_cons_of_mem _ old)
          · exact .inr ⟨old, List.mem_cons_of_mem _ present, shrunk⟩

namespace WellFormed

/-- Whether an input alias belongs to two commands can be told from what the table holds. -/
theorem exclusive_of_isExclusive (distinct : table.IsDistinct) (exclusive : table.IsExclusive) :
    ∀ record ∈ table, ∀ other ∈ table, ∀ text ∈ record.inputs, ∀ held ∈ other.inputs,
      Text.sameName text held = true → record = other := by
  intro record member other memberOther text inside held insideOther same
  refine distinct.eq_of_internal member memberOther (exclusive ?_ ?_ same)
  · exact (mem_texts_iff distinct).mpr ⟨record, member, rfl, inside⟩
  · exact (mem_texts_iff distinct).mpr ⟨other, memberOther, rfl, insideOther⟩

theorem isExclusive (formed : table.WellFormed) : table.IsExclusive := by
  intro command other text held inside insideOther same
  obtain ⟨left, member, rfl, insideLeft⟩ := (mem_texts_iff formed.distinct).mp inside
  obtain ⟨right, memberOther, rfl, insideRight⟩ := (mem_texts_iff formed.distinct).mp insideOther
  rw [formed.exclusive left member right memberOther text insideLeft held insideRight same]

theorem add (formed : table.WellFormed) (filled : text ≠ []) (trimmed : Text.trim text = text)
    (free : kind = .input → table.rival? internal text = none) :
    (table.add kind internal text).WellFormed where
  distinct := IsDistinct.add formed.distinct
  filled record member := by
    rcases mem_add member with old | ⟨_, _, _, rfl⟩
    · exact formed.filled record old
    · exact AliasRecord.isEmpty_add
  records record member := by
    rcases mem_add member with present | ⟨old, present | rfl, _, rfl⟩
    · exact formed.records record present
    · exact (formed.records old present).add filled trimmed
    · exact (AliasRecord.wellFormed_bare internal).add filled trimmed
  exclusive :=
    exclusive_of_isExclusive (IsDistinct.add formed.distinct)
      (formed.isExclusive.add formed.distinct free)

/-- A table stays well-formed if records are left out or lose some of their aliases, but not all. -/
theorem of_fewer {fewer : AliasTable} (formed : table.WellFormed) (distinct : fewer.IsDistinct)
    (fewerTexts : ∀ record ∈ fewer, record.isEmpty = false ∧ ∃ old ∈ table,
      record.internal = old.internal ∧
        ∀ kind, (record.texts kind).Sublist (old.texts kind)) : fewer.WellFormed where
  distinct := distinct
  filled record member := (fewerTexts record member).1
  records record member := by
    obtain ⟨_, old, present, _, sublist⟩ := fewerTexts record member
    exact (formed.records old present).of_sublist sublist
  exclusive record member other memberOther text inside held insideOther same := by
    obtain ⟨_, old, present, command, sublist⟩ := fewerTexts record member
    obtain ⟨_, oldOther, presentOther, commandOther, sublistOther⟩ := fewerTexts other memberOther
    have sameOld : old = oldOther := formed.exclusive old present oldOther presentOther text
      ((sublist .input).subset inside) held ((sublistOther .input).subset insideOther) same
    refine distinct.eq_of_internal member memberOther ?_
    rw [command, commandOther, sameOld]

theorem forget (formed : table.WellFormed) : (table.forget kind internal text).WellFormed := by
  refine formed.of_fewer (IsDistinct.forget formed.distinct) fun record member => ?_
  rcases mem_forget member with present | ⟨old, present, rfl, left⟩
  · exact ⟨formed.filled record present, record, present, rfl, fun _ => List.Sublist.refl _⟩
  · exact ⟨left, old, present, AliasRecord.internal_remove, AliasRecord.texts_remove_sublist⟩

theorem clear (formed : table.WellFormed) : (table.clear internal).WellFormed := by
  refine formed.of_fewer (IsDistinct.clear formed.distinct) fun record member => ?_
  have present : record ∈ table := (List.mem_filter.mp member).1
  exact ⟨formed.filled record present, record, present, rfl, fun _ => List.Sublist.refl _⟩

end WellFormed

end AliasTable

namespace AliasDesk

variable {τ : Type} {store : SettingsStore τ} {directory : Directory} {desk : AliasDesk τ}
  {holds : AliasTable → Prop} {table : AliasTable} {kind : AliasKind} {internal text : Text}

/-- A property of tables that is not lost when an alias is added that is accepted in a directory, nor
when aliases are taken out. -/
structure Invariant (directory : Directory) (holds : AliasTable → Prop) : Prop where
  add : ∀ {table kind internal text}, holds table → Accepts directory kind internal text table →
    holds (table.add kind internal text)
  forget : ∀ {table kind internal text}, holds table → holds (table.forget kind internal text)
  clear : ∀ {table internal}, holds table → holds (table.clear internal)

namespace Invariant

theorem holds_add (invariant : Invariant directory holds) (held : holds desk.table) :
    holds (desk.add store directory kind internal text).2.table := by
  cases performed : desk.add store directory kind internal text with
  | mk answer next =>
      cases addStep performed with
      | refused => exact held
      | known _ accepted => exact invariant.add held accepted
      | stored _ accepted => exact invariant.add held accepted
      | takenBack _ accepted => exact invariant.forget (invariant.add held accepted)

theorem holds_remove (invariant : Invariant directory holds) (held : holds desk.table) :
    holds (desk.remove store kind internal text).2.table := by
  cases performed : desk.remove store kind internal text with
  | mk answer next =>
      dsimp only
      rw [(removeStep performed).table]
      exact invariant.forget held

theorem holds_clear (invariant : Invariant directory holds) (held : holds desk.table) :
    holds (desk.clear store internal).2.table := by
  cases performed : desk.clear store internal with
  | mk answer next =>
      dsimp only
      rw [(clearStep performed).table]
      exact invariant.clear held

/-- Whatever entries are stored, only those that are accepted come into the table. -/
theorem holds_restoreEntries (invariant : Invariant directory holds) (entries : List SettingEntry)
    (held : holds table) : holds (restoreEntries directory kind internal entries table).2 := by
  induction entries generalizing table with
  | nil => exact held
  | cons entry entries inductionHypothesis =>
      unfold restoreEntries
      split
      case h_1 => exact inductionHypothesis held
      case h_2 accepted =>
        obtain ⟨accepts, _, rfl⟩ := insert_eq_ok accepted
        exact inductionHypothesis (invariant.add held accepts)

theorem holds_restoreKind (invariant : Invariant directory holds) (settings : τ)
    (held : holds table) : holds (restoreKind store directory settings internal kind table).2 := by
  unfold restoreKind
  split
  · exact held
  split
  · exact held
  · exact invariant.holds_restoreEntries _ held

theorem holds_restoreCommands (invariant : Invariant directory holds) (settings : τ)
    (commands : List (Text × AliasKind)) (held : holds table) :
    holds (restoreCommands store directory settings commands table).2 := by
  induction commands generalizing table with
  | nil => exact held
  | cons command commands inductionHypothesis =>
      have next : holds (restoreKind store directory settings command.1 command.2 table).2 :=
        invariant.holds_restoreKind settings held
      unfold restoreCommands
      split
      case h_1 failed =>
        rw [failed] at next
        exact next
      case h_2 restored =>
        rw [restored] at next
        exact inductionHypothesis next

theorem holds_restore (invariant : Invariant directory holds) (held : holds desk.table) :
    holds (desk.restore store directory).2.table := by
  unfold restore
  split
  · exact held
  · exact invariant.holds_restoreCommands _ _ held

end Invariant

theorem invariant_wellFormed (directory : Directory) :
    Invariant directory AliasTable.WellFormed where
  add formed accepted := formed.add accepted.filled accepted.trimmed accepted.free
  forget formed := formed.forget
  clear formed := formed.clear

end AliasDesk

/-- What can happen to the alias administration. -/
inductive AliasEvent (τ : Type) where
  /-- A request, with the commands that there are. -/
  | request (directory : Directory) (request : AliasRequest)
  /-- The stored aliases are put into the table. -/
  | restore (directory : Directory)
  /-- The settings change by themselves. -/
  | changed (settings : τ)

namespace AliasEvent

variable {τ : Type}

/-- The desk after an event, whether or not a request was granted. -/
def perform (store : SettingsStore τ) (desk : AliasDesk τ) : AliasEvent τ → AliasDesk τ
  | .request directory (.add kind internal raw) =>
      (desk.add store directory kind internal raw).2
  | .request _ (.remove kind internal raw) => (desk.remove store kind internal raw).2
  | .request _ (.clear internal) => (desk.clear store internal).2
  | .restore directory => (desk.restore store directory).2
  | .changed settings => { desk with settings }

/-- The desk after events in order. -/
def performAll (store : SettingsStore τ) (events : List (AliasEvent τ)) (desk : AliasDesk τ) :
    AliasDesk τ :=
  events.foldl (perform store) desk

/-- The commands that are looked at in an event. -/
def directory? : AliasEvent τ → Option Directory
  | .request directory _ => some directory
  | .restore directory => some directory
  | .changed _ => none

variable {holds : AliasTable → Prop} {store : SettingsStore τ} {desk : AliasDesk τ}

theorem holds_perform {event : AliasEvent τ}
    (invariant : ∀ directory ∈ event.directory?, AliasDesk.Invariant directory holds)
    (held : holds desk.table) : holds (event.perform store desk).table := by
  cases event with
  | request directory request =>
      have kept := invariant directory rfl
      cases request with
      | add kind internal raw => exact kept.holds_add held
      | remove kind internal raw => exact kept.holds_remove held
      | clear internal => exact kept.holds_clear held
  | restore directory => exact (invariant directory rfl).holds_restore held
  | changed settings => exact held

/-- What no single event takes from the table holds of it throughout. -/
theorem holds_performAll {events : List (AliasEvent τ)}
    (invariant : ∀ event ∈ events, ∀ directory ∈ event.directory?,
      AliasDesk.Invariant directory holds)
    (held : holds desk.table) : holds (performAll store events desk).table := by
  induction events generalizing desk with
  | nil => exact held
  | cons event events inductionHypothesis =>
      rw [List.forall_mem_cons] at invariant
      exact inductionHypothesis invariant.2 (holds_perform invariant.1 held)

theorem wellFormed_performAll_of_wellFormed (events : List (AliasEvent τ))
    (formed : desk.table.WellFormed) : (performAll store events desk).table.WellFormed :=
  holds_performAll (fun _ _ directory _ => AliasDesk.invariant_wellFormed directory) formed

/-- An alias administration that began without aliases has a well-formed table. -/
theorem wellFormed_performAll (store : SettingsStore τ) (events : List (AliasEvent τ))
    (settings : τ) : (performAll store events { settings }).table.WellFormed :=
  wellFormed_performAll_of_wellFormed events AliasTable.wellFormed_nil

end AliasEvent

end CommandLink
