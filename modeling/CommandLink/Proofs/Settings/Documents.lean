import CommandLink.Proofs.Text.Decoding
import CommandLink.Proofs.Value.Fields
import CommandLink.Proofs.Value.Strings
import CommandLink.Settings.File
import Mathlib.Data.List.DropRight

/-!
# Settings as documents

Settings that are written to a file are read back as they were (`decode_prettyMap`).
-/

namespace CommandLink.FileSettings

/-- The line of a setting, without the comma that may follow it. -/
def line (name value : Text) : Text :=
  '\n' :: ' ' :: ' ' :: (Value.quote name ++ ':' :: ' ' :: Value.quote value)

theorem prettyLines_single (name value : Text) :
    Value.prettyLines [(name, value)] = line name value :=
  rfl

theorem prettyLines_cons (name value : Text) {tree : SettingsTree} (filled : tree ≠ []) :
    Value.prettyLines ((name, value) :: tree) =
      line name value ++ ',' :: Value.prettyLines tree := by
  obtain ⟨next, tree, rfl⟩ := List.exists_cons_of_ne_nil filled
  simp [Value.prettyLines, line]

/-- How the line of a setting is read, as the last one and before others. -/
structure ReadsLine (name value : Text) (field : List Piece × Document) : Prop where
  last : ∀ fuel rest,
    Document.readFields (fuel + 2) (line name value ++ '\n' :: '}' :: rest) = some ([field], rest)
  next : ∀ fuel rest, Document.readFields (fuel + 2) (line name value ++ ',' :: rest) =
    (Document.readFields (fuel + 1) rest).map fun later => (field :: later.1, later.2)
  setting : setting? field = some (name, value)

theorem exists_readsLine (name value : Text) : ∃ field, ReadsLine name value field := by
  obtain ⟨namePieces, nameMeant, readName⟩ := Value.exists_readString_quote name
  obtain ⟨valuePieces, valueMeant, readValue⟩ := Value.exists_readString_quote value
  refine ⟨(namePieces, .string valuePieces), ?_, ?_, ?_⟩
  · intro fuel rest
    rw [Document.readFields]
    simp [line, Value.quote, Document.skipGap, Document.isGap, readName, Document.readValue,
      readValue]
  · intro fuel rest
    rw [Document.readFields]
    simp [line, Value.quote, Document.skipGap, Document.isGap, readName, Document.readValue,
      readValue]
    cases Document.readFields (fuel + 1) rest <;> rfl
  · simp [setting?, nameMeant, valueMeant]

/-- The lines of settings, if there are any, are read as fields that are these settings. -/
theorem exists_readFields_prettyLines {tree : SettingsTree} (filled : tree ≠ []) (fuel : Nat)
    (rest : Text) :
    ∃ fields,
      Document.readFields (fuel + tree.length + 1) (Value.prettyLines tree ++ '\n' :: '}' :: rest) =
        some (fields, rest) ∧ fields.mapM setting? = some tree := by
  induction tree with
  | nil => exact absurd rfl filled
  | cons entry tree inductionHypothesis =>
      obtain ⟨name, value⟩ := entry
      obtain ⟨field, readsLine⟩ := exists_readsLine name value
      by_cases last : tree = []
      · subst last
        refine ⟨[field], readsLine.last fuel rest, ?_⟩
        simp [readsLine.setting]
      · obtain ⟨fields, read, settings⟩ := inductionHypothesis last
        refine ⟨field :: fields, ?_, ?_⟩
        · rw [prettyLines_cons name value last, List.append_assoc, List.cons_append]
          have next := readsLine.next (fuel + tree.length)
            (Value.prettyLines tree ++ '\n' :: '}' :: rest)
          rw [read] at next
          exact next
        · simp [List.mapM_cons, readsLine.setting, settings]

theorem length_le_length_prettyLines (tree : SettingsTree) :
    tree.length ≤ (Value.prettyLines tree).length := by
  induction tree with
  | nil => simp
  | cons entry tree inductionHypothesis =>
      obtain ⟨name, value⟩ := entry
      by_cases last : tree = []
      · simp [last, prettyLines_single, line]
      · rw [prettyLines_cons name value last]
        simp only [line, List.length_cons, List.length_append]
        omega

theorem prettyMap_eq {tree : SettingsTree} (filled : tree ≠ []) :
    Value.prettyMap tree = '{' :: (Value.prettyLines tree ++ ['\n', '}']) := by
  simp [Value.prettyMap, filled]

/-- The first line begins with a blank and then a quote, and no brace closes the document there. -/
theorem exists_prettyLines_eq {tree : SettingsTree} (filled : tree ≠ []) :
    ∃ more, Value.prettyLines tree = '\n' :: ' ' :: ' ' :: '"' :: more := by
  obtain ⟨⟨name, value⟩, tree, rfl⟩ := List.exists_cons_of_ne_nil filled
  by_cases last : tree = []
  · exact ⟨_, by rw [last, prettyLines_single]; rfl⟩
  · exact ⟨_, by rw [prettyLines_cons name value last]; rfl⟩

theorem readFields_skipGap (fuel : Nat) (text : Text) :
    Document.readFields fuel (Document.skipGap text) = Document.readFields fuel text := by
  cases fuel with
  | zero => rfl
  | succ fuel =>
      rw [Document.readFields, Document.readFields, Document.skipGap, Document.skipGap,
        List.dropWhile_idempotent]

/-- Settings are read as fields that are these settings. -/
theorem exists_read?_prettyMap {tree : SettingsTree} (filled : tree ≠ []) :
    ∃ fields, Document.read? (Value.prettyMap tree) = some (.object fields) ∧
      fields.mapM setting? = some tree := by
  obtain ⟨fuel, enough⟩ : ∃ fuel,
      2 * (Value.prettyMap tree).length + 2 = fuel + tree.length + 1 + 1 := by
    have lines := length_le_length_prettyLines tree
    refine ⟨2 * (Value.prettyMap tree).length - tree.length, ?_⟩
    rw [prettyMap_eq filled, List.length_cons, List.length_append]
    omega
  obtain ⟨fields, read, settings⟩ := exists_readFields_prettyLines filled fuel []
  obtain ⟨more, begins⟩ := exists_prettyLines_eq filled
  refine ⟨fields, ?_, settings⟩
  have brace : Document.skipGap (Value.prettyMap tree) =
      '{' :: (Value.prettyLines tree ++ ['\n', '}']) := by
    rw [prettyMap_eq filled]
    rfl
  have gap : Document.skipGap (Value.prettyLines tree ++ ['\n', '}']) =
      '"' :: (more ++ ['\n', '}']) := by
    rw [begins]
    rfl
  rw [← readFields_skipGap, gap] at read
  rw [Document.read?, enough, Document.readValue]
  have nothing : Document.skipGap [] = [] := rfl
  simp [brace, gap, read, nothing]

/-- Settings in order are read from the text that they are written as. -/
theorem decode_prettyMap {tree : SettingsTree} (ordered : Value.IsOrdered tree) :
    decode (Value.prettyMap tree) = .ok tree := by
  by_cases empty : tree = []
  · subst empty
    rfl
  · obtain ⟨fields, document, settings⟩ := exists_read?_prettyMap empty
    simp only [decode, document, settings, ordered.orderFields_eq]

end CommandLink.FileSettings
