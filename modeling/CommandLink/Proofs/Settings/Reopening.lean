import CommandLink.Proofs.Settings.Files

/-!
# Stores that are opened anew

While nothing fails on the disk, a store over a file can be opened anew at any time and is then what
it was before (`FileSettings.Settled.reopened`). So those who call it cannot tell it from a store in
memory (`answers_file_eq_memory`), although it saves only what has changed.
-/

namespace CommandLink

namespace Disk

/-- Nothing fails on a disk: nothing is in the way of the folder, and no save is about to fail. -/
structure IsReliable (disk : Disk) : Prop where
  clear : disk.folder ≠ .obstructed
  faultless : ∀ fault? ∈ disk.faults, fault? = none

variable {disk : Disk}

/-- On a reliable disk every save writes the file. -/
theorem IsReliable.save_eq (reliable : disk.IsReliable) (octets : List UInt8) :
    disk.save octets = (.ok (), ⟨.present (some octets) none, disk.faults.tail⟩) := by
  have calm : disk.faults.head?.join = none := by
    cases pending : disk.faults with
    | nil => rfl
    | cons fault? faults =>
        have first : fault? = none := reliable.faultless fault? (by simp [pending])
        simp [first]
  unfold save
  dsimp only
  split
  case h_1 obstructed => exact absurd obstructed reliable.clear
  all_goals rw [calm]

/-- A disk is as reliable after a save as before. -/
theorem IsReliable.saved (reliable : disk.IsReliable) (octets : List UInt8) :
    (disk.save octets).2.IsReliable := by
  rw [reliable.save_eq]
  constructor
  · intro obstructed
    cases obstructed
  · intro fault? pending
    exact reliable.faultless fault? (List.mem_of_mem_tail pending)

end Disk

namespace FileSettings

variable {disk : Disk} {settings : FileSettings}

/-- As long as there is no file, there are no settings. -/
theorem load_of_missing (reliable : disk.IsReliable) (missing : disk.file? = none) :
    load disk = .ok [] := by
  unfold load
  split
  case h_1 obstructed => exact absurd obstructed reliable.clear
  case h_2 => rfl
  case h_3 => rfl
  case h_4 octets temporary? present => simp [Disk.file?, present] at missing

/-- Settings in order are loaded from the file that they were saved to. -/
theorem load_saved (reliable : disk.IsReliable) {tree : SettingsTree}
    (ordered : Value.IsOrdered tree) : load (disk.save (encode tree)).2 = .ok tree := by
  simp only [reliable.save_eq, load, encode, Utf8.decode?_encode]
  exact decode_prettyMap ordered

/-- The disk is reliable, and what would be loaded from it are the settings. -/
structure Settled (settings : FileSettings) : Prop where
  reliable : settings.disk.IsReliable
  loaded : load settings.disk = .ok settings.tree

namespace Settled

theorem ordered (settled : settings.Settled) : Value.IsOrdered settings.tree :=
  (holds_of_load settled.loaded).2

/-- A store that is opened anew is what it was before. -/
theorem reopened (settled : settings.Settled) : ofDisk settings.disk = .ok settings := by
  rw [ofDisk, settled.loaded]
  rfl

/-- Settings that were saved are settled. -/
theorem save (reliable : settings.disk.IsReliable) (ordered : Value.IsOrdered settings.tree) :
    settings.save.1 = .ok () ∧ settings.save.2.tree = settings.tree ∧ settings.save.2.Settled := by
  rw [save_eq]
  refine ⟨?_, rfl, reliable.saved _, load_saved reliable ordered⟩
  rw [reliable.save_eq]

/-- A store over a file answers a request as a store in memory does, and stays settled. -/
theorem perform (settled : settings.Settled) (request : SettingsRequest) :
    (request.perform store settings).1 = (request.perform .memory settings.tree).1 ∧
      (request.perform store settings).2.tree = (request.perform .memory settings.tree).2 ∧
      (request.perform store settings).2.Settled := by
  have ordered := request.isOrdered_perform settled.ordered
  rw [request.perform_file_eq settled.ordered]
  rcases request.perform_memory_cases settings.tree with
    ⟨error, refused⟩ | ⟨path, value, granted⟩ | ⟨path, granted⟩
  · rw [refused]
    exact ⟨rfl, rfl, settled⟩
  all_goals
    rw [granted] at ordered ⊢
    dsimp only
    split
    case isTrue same => exact ⟨rfl, same.symm, settled⟩
    case isFalse => exact save settled.reliable ordered

end Settled

end FileSettings

/-- What can be asked of a settings store. -/
inductive SettingsCall where
  | change (request : SettingsRequest)
  | load (path : Text)
  /-- Open the store anew. -/
  | reopen
deriving DecidableEq, Repr

/-- What a settings store answers. -/
inductive SettingsAnswer where
  | done (result : Except SettingsError Unit)
  | listed (result : Except SettingsError (List SettingEntry))

namespace SettingsCall

variable {τ : Type}

/-- Have a store answer a call. `reopen` opens it anew; if that fails the store stays in use. -/
def answer (store : SettingsStore τ) (reopen : τ → Except SettingsError τ) (state : τ) :
    SettingsCall → SettingsAnswer × τ
  | .change request =>
      let (result, state) := request.perform store state
      (.done result, state)
  | .load path => (.listed (store.loadAll path state), state)
  | .reopen =>
      match reopen state with
      | .ok opened => (.done (.ok ()), opened)
      | .error error => (.done (.error error), state)

/-- Have a store answer calls in order. -/
def answerAll (store : SettingsStore τ) (reopen : τ → Except SettingsError τ) :
    List SettingsCall → τ → List SettingsAnswer × τ
  | [], state => ([], state)
  | call :: calls, state =>
      let (answer, state) := call.answer store reopen state
      let (answers, state) := answerAll store reopen calls state
      (answer :: answers, state)

/-- The answers of a store over a file, and the store after them. -/
def answersFile (calls : List SettingsCall) (settings : FileSettings) :
    List SettingsAnswer × FileSettings :=
  answerAll FileSettings.store (fun settings => FileSettings.ofDisk settings.disk) calls settings

/-- The answers of a store in memory, and its settings after them. There is nothing to open anew. -/
def answersMemory (calls : List SettingsCall) (tree : SettingsTree) :
    List SettingsAnswer × SettingsTree :=
  answerAll .memory .ok calls tree

variable {settings : FileSettings}

theorem answer_settled (settled : settings.Settled) (call : SettingsCall) :
    let file := call.answer FileSettings.store (fun settings => FileSettings.ofDisk settings.disk)
      settings
    let memory := call.answer .memory .ok settings.tree
    file.1 = memory.1 ∧ file.2.tree = memory.2 ∧ file.2.Settled := by
  cases call with
  | change request =>
      obtain ⟨result, tree, settledAfter⟩ := settled.perform request
      exact ⟨congrArg SettingsAnswer.done result, tree, settledAfter⟩
  | load path => exact ⟨rfl, rfl, settled⟩
  | reopen =>
      have opened := settled.reopened
      simp [answer, opened, settled]

/-- A settled store over a file gives the answers of a store in memory with the same settings, and
is settled after them. -/
theorem answersFile_settled (settled : settings.Settled) (calls : List SettingsCall) :
    (answersFile calls settings).1 = (answersMemory calls settings.tree).1 ∧
      (answersFile calls settings).2.tree = (answersMemory calls settings.tree).2 ∧
      (answersFile calls settings).2.Settled := by
  induction calls generalizing settings with
  | nil => exact ⟨rfl, rfl, settled⟩
  | cons call calls inductionHypothesis =>
      obtain ⟨answer, tree, settledNext⟩ := answer_settled settled call
      obtain ⟨answers, treeAfter, settledAfter⟩ := inductionHypothesis settledNext
      rw [tree] at answers treeAfter
      refine ⟨?_, treeAfter, settledAfter⟩
      exact congrArg₂ List.cons answer answers

/-- From a missing file on, as long as nothing fails on the disk: whatever is asked of a store over
the file, it gives the answers of a store in memory, and whenever it is opened anew it lists what it
listed before, for every path. -/
theorem answers_file_eq_memory {disk : Disk} (reliable : disk.IsReliable)
    (missing : disk.file? = none) (calls : List SettingsCall) :
    ∃ opened, FileSettings.ofDisk disk = .ok opened ∧
      (answersFile calls opened).1 = (answersMemory calls []).1 ∧
      ∃ reopened, FileSettings.ofDisk (answersFile calls opened).2.disk = .ok reopened ∧
        ∀ path, FileSettings.store.loadAll path reopened =
          FileSettings.store.loadAll path (answersFile calls opened).2 := by
  have settled : FileSettings.Settled ⟨[], disk⟩ :=
    ⟨reliable, FileSettings.load_of_missing reliable missing⟩
  obtain ⟨answers, _, settledAfter⟩ := answersFile_settled settled calls
  exact ⟨_, settled.reopened, answers, _, settledAfter.reopened, fun _ => rfl⟩

/-- A path and a value with characters that are escaped in a file, saved and then only read; a value
that is there already, so that nothing is saved; a path that names nothing; and a file that is
opened before it was ever written. -/
theorem answers_file_eq_memory_escaped :
    let calls : List SettingsCall := [.reopen, .change (.update "/a/\"é\\" "\n"), .reopen,
      .change (.update "a/\"é\\" "\n"), .change (.update "a//b" "1"), .change (.remove "b"), .reopen,
      .load "a"]
    Disk.IsReliable {} ∧ ∃ opened, FileSettings.ofDisk {} = .ok opened ∧
      (answersFile calls opened).1 = [.done (.ok ()), .done (.ok ()), .done (.ok ()), .done (.ok ()),
        .done (.error (.invalidPath "a//b")), .done (.ok ()), .done (.ok ()),
        .listed (.ok [⟨"\"é\\", "\n", "a/\"é\\"⟩])] := by
  intro calls
  have reliable : Disk.IsReliable {} := by
    constructor <;> simp
  obtain ⟨opened, openedFile, answers, _⟩ := answers_file_eq_memory reliable rfl calls
  exact ⟨reliable, opened, openedFile, answers.trans rfl⟩

end SettingsCall

end CommandLink
