import CommandLink.Proofs.Settings.Documents

/-!
# Settings in files

A store over a file does to its settings what a store in memory does, and saves them if that changes
anything (`perform_file_eq`). Whether the file then holds the settings is told by what was saved
last (`holds_iff_of_granted`): a request that has nothing to change is granted without a save, also
when an earlier save has failed.
-/

namespace CommandLink

/-- A change of settings. -/
inductive SettingsRequest where
  | update (path value : Text)
  | remove (path : Text)
deriving DecidableEq, Repr

namespace SettingsRequest

variable {τ : Type}

/-- Have a store perform a request. -/
def perform (store : SettingsStore τ) (request : SettingsRequest) (state : τ) :
    Except SettingsError Unit × τ :=
  match request with
  | .update path value => store.update path value state
  | .remove path => store.remove path state

/-- Have a store perform requests in order, whatever it answers. -/
def performAll (store : SettingsStore τ) (requests : List SettingsRequest) (state : τ) : τ :=
  requests.foldl (fun state request => (request.perform store state).2) state

/-- Whether a request has anything to change. -/
def changes (request : SettingsRequest) (tree : SettingsTree) : Bool :=
  (request.perform .memory tree).2 != tree

end SettingsRequest

namespace Disk

/-- The settings file holds these settings. If there is no file there are no settings. -/
def Holds (disk : Disk) (tree : SettingsTree) : Prop :=
  match disk.file? with
  | some octets => ∃ text, Utf8.decode? octets = some text ∧ FileSettings.decode text = .ok tree
  | none => tree = []

theorem Holds.eq {disk : Disk} {tree other : SettingsTree} (holds : disk.Holds tree)
    (holdsOther : disk.Holds other) : tree = other := by
  cases file : disk.file? with
  | none =>
      simp only [Holds, file] at holds holdsOther
      rw [holds, holdsOther]
  | some octets =>
      simp only [Holds, file] at holds holdsOther
      obtain ⟨text, read, decoded⟩ := holds
      obtain ⟨textOther, readOther, decodedOther⟩ := holdsOther
      obtain rfl := Option.some.inj (read.symm.trans readOther)
      exact Except.ok.inj (decoded.symm.trans decodedOther)

theorem Holds.congr {disk other : Disk} {tree : SettingsTree} (holds : disk.Holds tree)
    (same : other.file? = disk.file?) : other.Holds tree := by
  rw [Holds, same]
  exact holds

/-- Settings in order are held by the file that they were written to. -/
theorem holds_of_file? {disk : Disk} {tree : SettingsTree} (ordered : Value.IsOrdered tree)
    (written : disk.file? = some (FileSettings.encode tree)) : disk.Holds tree := by
  rw [Holds, written]
  exact ⟨Value.prettyMap tree, Utf8.decode?_encode _, FileSettings.decode_prettyMap ordered⟩

/-- A save writes the file, or fails and leaves it as it was. -/
theorem save_cases (disk : Disk) (octets : List UInt8) :
    (disk.save octets).1 = .ok () ∧ (disk.save octets).2.file? = some octets ∨
      (disk.save octets).1 = .error .io ∧ (disk.save octets).2.file? = disk.file? := by
  obtain ⟨folder, faults⟩ := disk
  cases folder
  case obstructed => exact .inr ⟨rfl, rfl⟩
  all_goals
    unfold save
    dsimp only
    split
    · exact .inr ⟨rfl, rfl⟩
    · exact .inr ⟨rfl, rfl⟩
    · exact .inr ⟨rfl, rfl⟩
    · exact .inl ⟨rfl, rfl⟩

end Disk

namespace FileSettings

theorem save_eq (settings : FileSettings) :
    settings.save =
      ((settings.disk.save (encode settings.tree)).1,
        ⟨settings.tree, (settings.disk.save (encode settings.tree)).2⟩) :=
  rfl

theorem isOrdered_of_decode {text : Text} {tree : SettingsTree} (decoded : decode text = .ok tree) :
    Value.IsOrdered tree := by
  unfold decode at decoded
  split at decoded
  · split at decoded
    · obtain rfl := Except.ok.inj decoded
      exact Value.isOrdered_orderFields _
    · cases decoded
  · cases decoded

/-- What is loaded from a disk is in order, and is what the file there holds. -/
theorem holds_of_load {disk : Disk} {tree : SettingsTree} (loaded : load disk = .ok tree) :
    disk.Holds tree ∧ Value.IsOrdered tree := by
  unfold load at loaded
  split at loaded
  case h_1 => cases loaded
  case h_2 absent =>
    obtain rfl := Except.ok.inj loaded
    exact ⟨by simp [Disk.Holds, Disk.file?, absent], List.Pairwise.nil⟩
  case h_3 absent =>
    obtain rfl := Except.ok.inj loaded
    exact ⟨by simp [Disk.Holds, Disk.file?, absent], List.Pairwise.nil⟩
  case h_4 octets temporary? present =>
    split at loaded
    case h_1 => cases loaded
    case h_2 text read =>
      refine ⟨?_, isOrdered_of_decode loaded⟩
      simp only [Disk.Holds, Disk.file?, present]
      exact ⟨text, read, loaded⟩

theorem ofDisk_eq_ok {disk : Disk} {settings : FileSettings} (opened : ofDisk disk = .ok settings) :
    load disk = .ok settings.tree ∧ settings.disk = disk := by
  unfold ofDisk at opened
  cases loaded : load disk with
  | error error =>
      rw [loaded] at opened
      cases opened
  | ok tree =>
      rw [loaded] at opened
      obtain rfl := Except.ok.inj opened
      exact ⟨rfl, rfl⟩

end FileSettings

namespace SettingsRequest

/-- A store over a file does what a store in memory does, and saves what has changed. -/
theorem perform_file_eq (request : SettingsRequest) {settings : FileSettings}
    (ordered : Value.IsOrdered settings.tree) :
    request.perform FileSettings.store settings =
      match request.perform .memory settings.tree with
      | (.error error, _) => (.error error, settings)
      | (.ok (), tree) =>
          if tree = settings.tree then (.ok (), settings)
          else FileSettings.save { settings with tree } := by
  cases request with
  | update path value =>
      simp only [perform, FileSettings.store, FileSettings.update, SettingsStore.memory]
      cases SettingsPath.validate path with
      | error error => rfl
      | ok path =>
          have same : settings.tree.insert path value = settings.tree ↔
              settings.tree.get? path = some value := ordered.insertField_eq_self_iff
          simp only [same]
  | remove path =>
      simp only [perform, FileSettings.store, FileSettings.remove, SettingsStore.memory]
      cases SettingsPath.validate path with
      | error error => rfl
      | ok path =>
          have same : settings.tree.removeSubtree path = settings.tree ↔
              (settings.tree.removeSubtree path).length = settings.tree.length := by
            rw [SettingsTree.removeSubtree, List.length_filter_eq_length_iff, List.filter_eq_self]
          simp only [same]

/-- A store in memory refuses a request and stays as it is, or grants it. -/
theorem perform_memory_cases (request : SettingsRequest) (tree : SettingsTree) :
    (∃ error, request.perform .memory tree = (.error error, tree)) ∨
      (∃ path value, request.perform .memory tree = (.ok (), tree.insert path value)) ∨
      ∃ path, request.perform .memory tree = (.ok (), tree.removeSubtree path) := by
  cases request with
  | update path value =>
      simp only [perform, SettingsStore.memory]
      split
      · exact .inl ⟨_, rfl⟩
      · exact .inr (.inl ⟨_, _, rfl⟩)
  | remove path =>
      simp only [perform, SettingsStore.memory]
      split
      · exact .inl ⟨_, rfl⟩
      · exact .inr (.inr ⟨_, rfl⟩)

/-- Requests keep settings in order. -/
theorem isOrdered_perform (request : SettingsRequest) {tree : SettingsTree}
    (ordered : Value.IsOrdered tree) : Value.IsOrdered (request.perform .memory tree).2 := by
  rcases request.perform_memory_cases tree with
    ⟨_, refused⟩ | ⟨path, value, updated⟩ | ⟨path, removed⟩
  · rw [refused]
    exact ordered
  · rw [updated]
    exact ordered.insertField
  · rw [removed]
    exact ordered.filter _

/-- A request that is refused has nothing to change. -/
theorem changes_of_error (request : SettingsRequest) {tree after : SettingsTree}
    {error : SettingsError} (refused : request.perform .memory tree = (.error error, after)) :
    request.changes tree = false := by
  rcases request.perform_memory_cases tree with ⟨_, same⟩ | ⟨_, _, granted⟩ | ⟨_, granted⟩
  · simp [changes, same]
  · cases granted.symm.trans refused
  · cases granted.symm.trans refused

/-- What can come of a request to a store over a file. -/
inductive FileStep (request : SettingsRequest) (settings : FileSettings) :
    Except SettingsError Unit → FileSettings → Prop where
  /-- It is refused, or granted because there is nothing to change. The file is not touched. -/
  | idle (result : Except SettingsError Unit) (same : request.changes settings.tree = false) :
      FileStep request settings result settings
  /-- The settings change and are saved. -/
  | saved (disk : Disk) (changed : request.changes settings.tree = true)
      (written : disk.file? =
        some (FileSettings.encode (request.perform .memory settings.tree).2)) :
      FileStep request settings (.ok ()) ⟨(request.perform .memory settings.tree).2, disk⟩
  /-- The settings change, but the file stays as it was. -/
  | failed (disk : Disk) (changed : request.changes settings.tree = true)
      (unwritten : disk.file? = settings.disk.file?) :
      FileStep request settings (.error .io) ⟨(request.perform .memory settings.tree).2, disk⟩

theorem fileStep_of_perform {request : SettingsRequest} {settings next : FileSettings}
    {result : Except SettingsError Unit} (ordered : Value.IsOrdered settings.tree)
    (performed : request.perform FileSettings.store settings = (result, next)) :
    FileStep request settings result next := by
  rw [perform_file_eq request ordered] at performed
  split at performed
  case h_1 error after refused =>
    cases performed
    exact .idle _ (request.changes_of_error refused)
  case h_2 after granted =>
    have reached : (request.perform .memory settings.tree).2 = after := congrArg Prod.snd granted
    split at performed
    case isTrue same =>
      cases performed
      exact .idle _ (by simp [changes, reached, same])
    case isFalse differs =>
      have changed : request.changes settings.tree = true := by
        simpa [changes, reached] using differs
      subst reached
      rw [FileSettings.save_eq] at performed
      rcases settings.disk.save_cases
          (FileSettings.encode (request.perform .memory settings.tree).2) with
        ⟨granted, written⟩ | ⟨refused, unwritten⟩
      · rw [granted] at performed
        cases performed
        exact .saved _ changed written
      · rw [refused] at performed
        cases performed
        exact .failed _ changed unwritten

end SettingsRequest

/-- A store over a file, and the settings that it saved last. -/
structure Ledger where
  settings : FileSettings
  saved : SettingsTree

namespace Ledger

/-- The settings have just been read from the file. -/
def opened (settings : FileSettings) : Ledger :=
  ⟨settings, settings.tree⟩

/-- Perform a request. The settings are saved if it is granted and has anything to change. -/
def perform (ledger : Ledger) (request : SettingsRequest) : Ledger :=
  let (result, settings) := request.perform FileSettings.store ledger.settings
  { settings
    saved :=
      if result.isOk && request.changes ledger.settings.tree then settings.tree
      else ledger.saved }

/-- Perform requests in order. -/
def performAll (requests : List SettingsRequest) (ledger : Ledger) : Ledger :=
  requests.foldl perform ledger

theorem settings_performAll (requests : List SettingsRequest) (ledger : Ledger) :
    (ledger.performAll requests).settings =
      SettingsRequest.performAll FileSettings.store requests ledger.settings := by
  induction requests generalizing ledger with
  | nil => rfl
  | cons request requests inductionHypothesis => exact inductionHypothesis (ledger.perform request)

/-- The settings are in order, and the file holds those that were saved last. -/
structure Kept (ledger : Ledger) : Prop where
  ordered : Value.IsOrdered ledger.settings.tree
  holds : ledger.settings.disk.Holds ledger.saved

variable {ledger : Ledger} {disk : Disk} {settings : FileSettings}

theorem kept_opened (loaded : FileSettings.ofDisk disk = .ok settings) :
    (opened settings).Kept := by
  obtain ⟨read, rfl⟩ := FileSettings.ofDisk_eq_ok loaded
  obtain ⟨holds, ordered⟩ := FileSettings.holds_of_load read
  exact ⟨ordered, holds⟩

theorem Kept.perform (kept : ledger.Kept) (request : SettingsRequest) :
    (ledger.perform request).Kept := by
  cases performed : request.perform FileSettings.store ledger.settings with
  | mk result next =>
      have ordered := request.isOrdered_perform kept.ordered
      simp only [Ledger.perform, performed]
      cases SettingsRequest.fileStep_of_perform kept.ordered performed with
      | idle _ same =>
          simp only [same, Bool.and_false]
          exact kept
      | saved disk changed written =>
          simp only [changed, Except.isOk, Except.toBool, Bool.and_true, if_true]
          exact ⟨ordered, Disk.holds_of_file? ordered written⟩
      | failed disk changed unwritten =>
          exact ⟨ordered, kept.holds.congr unwritten⟩

theorem Kept.performAll (kept : ledger.Kept) (requests : List SettingsRequest) :
    (ledger.performAll requests).Kept := by
  induction requests generalizing ledger with
  | nil => exact kept
  | cons request requests inductionHypothesis => exact inductionHypothesis (kept.perform request)

/-- After a request was granted the file holds the settings if the request had something to change,
or nothing was left to save before it. -/
theorem Kept.holds_iff {request : SettingsRequest} {next : FileSettings} (kept : ledger.Kept)
    (granted : request.perform FileSettings.store ledger.settings = (.ok (), next)) :
    next.disk.Holds next.tree ↔
      request.changes ledger.settings.tree = true ∨ ledger.saved = ledger.settings.tree := by
  cases SettingsRequest.fileStep_of_perform kept.ordered granted with
  | idle _ same =>
      simp only [same, Bool.false_eq_true, false_or]
      exact ⟨kept.holds.eq, fun saved => saved ▸ kept.holds⟩
  | saved disk changed written =>
      simp only [changed, true_or, iff_true]
      exact Disk.holds_of_file? (request.isOrdered_perform kept.ordered) written

end Ledger

namespace SettingsRequest

/-- The settings that a store over a file saved last, after it has performed these requests. Those
that were opened count as saved. -/
def lastSaved (requests : List SettingsRequest) (settings : FileSettings) : SettingsTree :=
  ((Ledger.opened settings).performAll requests).saved

variable {disk : Disk} {settings next : FileSettings} {request : SettingsRequest}

/-- When the file holds the settings after a request was granted, wherever saves have failed before:
the request had something to change, or the settings are those that were saved last. -/
theorem holds_iff_of_granted (opened : FileSettings.ofDisk disk = .ok settings)
    (requests : List SettingsRequest)
    (granted : request.perform FileSettings.store
      (performAll FileSettings.store requests settings) = (.ok (), next)) :
    next.disk.Holds next.tree ↔
      request.changes (performAll FileSettings.store requests settings).tree = true ∨
        lastSaved requests settings = (performAll FileSettings.store requests settings).tree := by
  have kept := (Ledger.kept_opened opened).performAll requests
  have reached : ((Ledger.opened settings).performAll requests).settings =
      performAll FileSettings.store requests settings := Ledger.settings_performAll requests _
  rw [← reached] at granted ⊢
  exact kept.holds_iff granted

/-- The first save fails when the new file should take the place of the old one. The next change is
saved, and with it the one before. -/
theorem holds_iff_of_granted_later :
    ∃ settings next : FileSettings,
      FileSettings.ofDisk { faults := [some .rename] } = .ok settings ∧
      (SettingsRequest.update "b" "2").perform FileSettings.store
        (performAll FileSettings.store [.update "a" "1"] settings) = (.ok (), next) ∧
      next.tree.get? "a" = some "1" ∧ next.disk.Holds next.tree := by
  let settings : FileSettings := ⟨[], { faults := [some .rename] }⟩
  let next : FileSettings :=
    ⟨[("a", "1"), ("b", "2")],
      ⟨.present (some (FileSettings.encode [("a", "1"), ("b", "2")])) none, []⟩⟩
  have opened : FileSettings.ofDisk { faults := [some .rename] } = .ok settings := rfl
  have granted : (SettingsRequest.update "b" "2").perform FileSettings.store
      (performAll FileSettings.store [.update "a" "1"] settings) = (.ok (), next) := rfl
  refine ⟨settings, next, opened, granted, rfl, ?_⟩
  exact (holds_iff_of_granted opened [.update "a" "1"] granted).mpr (.inl rfl)

/-- A request whose save fails is granted when it is made again, but the file does not hold the
settings even then. -/
theorem exists_granted_not_holds :
    ∃ settings failed next : FileSettings,
      FileSettings.ofDisk { faults := [some .makeFolder] } = .ok settings ∧
      (SettingsRequest.update "a" "1").perform FileSettings.store settings =
        (.error .io, failed) ∧
      (SettingsRequest.update "a" "1").perform FileSettings.store failed = (.ok (), next) ∧
      ¬ next.disk.Holds next.tree := by
  refine ⟨⟨[], { faults := [some .makeFolder] }⟩, ⟨[("a", "1")], {}⟩, ⟨[("a", "1")], {}⟩,
    rfl, rfl, rfl, ?_⟩
  intro holds
  cases holds

end SettingsRequest

end CommandLink
