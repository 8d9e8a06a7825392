import CommandLink.Proofs.Line.Joining

/-!
# White space and letter case on lines

White space around the parts of a line says nothing: neither around the segments of its path
(`pathSegments_trim`) nor around its arguments (`scan_trim`). So a line is what its path and its section
are read as, each by itself (`parse_path`, `parse_colon`). A name in other letter case is still a name
(`IsName.of_sameName`).
-/

namespace CommandLink

namespace Text

variable {left right : Text}

/-- Letter case does not touch what is the same of each capital letter and its small one. -/
theorem apply_toLower (has : Char → Bool) (letters : ∀ code < 91, 65 ≤ code →
    has (Char.ofNat code).toLower = has (Char.ofNat code)) (c : Char) : has c.toLower = has c := by
  by_cases upper : c.val ≥ 'A'.val ∧ c.val ≤ 'Z'.val
  · rw [← Char.ofNat_toNat c]
    exact letters c.toNat (Nat.lt_succ_of_le (UInt32.le_iff_toNat_le.mp upper.2))
      (UInt32.le_iff_toNat_le.mp upper.1)
  · have small : c.toLower = c := dif_neg upper
    rw [small]

theorem isBlank_toLower (c : Char) : isBlank c.toLower = isBlank c :=
  apply_toLower isBlank (by decide) c

/-- Texts that differ in letter case at most agree on each character that is no letter. -/
theorem mem_iff_of_sameName {c : Char} (noLetter : ∀ code < 91, 65 ≤ code →
    ((Char.ofNat code).toLower == c) = (Char.ofNat code == c))
    (same : sameName left right = true) : c ∈ left ↔ c ∈ right := by
  have folded : left.map Char.toLower = right.map Char.toLower := by
    simpa [sameName, foldCase] using same
  have each (text : Text) : c ∈ text ↔ (text.map Char.toLower).any (· == c) = true := by
    simp [apply_toLower (· == c) noLetter]
  rw [each, each, folded]

/-- Texts that differ in letter case at most have blank ends at the same places. -/
theorem Tight.of_sameName (tight : right.Tight) (same : sameName left right = true) :
    left.Tight := by
  have folded : left.map Char.toLower = right.map Char.toLower := by
    simpa [sameName, foldCase] using same
  -- The two ends are handled alike: the characters there have the same small letter.
  have solid {c : Char} {end? : Text → Option Char}
      (mapped : ∀ text, end? (text.map Char.toLower) = (end? text).map Char.toLower)
      (clear : ∀ d ∈ end? right, isBlank d = false) (found : c ∈ end? left) :
      isBlank c = false := by
    have lower : (end? right).map Char.toLower = some c.toLower := by
      rw [← mapped, ← folded, mapped, Option.mem_def.mp found, Option.map_some]
    obtain ⟨d, member, equal⟩ := Option.map_eq_some_iff.mp lower
    rw [← isBlank_toLower, ← equal, isBlank_toLower, clear d member]
  exact ⟨fun _ => solid (fun text => by simp) tight.first,
    fun _ => solid (fun text => by simp) tight.last⟩

/-- Behind a text without blank ends only the white space at the very end is trimmed. -/
theorem Tight.trim_append {head : Text} (tight : head.Tight) (filled : head ≠ []) (back : Text) :
    trim (head ++ back) = head ++ back.rdropWhile isBlank := by
  have whole : head ++ back =
      (head ++ back.rdropWhile isBlank) ++ back.rtakeWhile isBlank := by
    rw [List.append_assoc, List.rdropWhile_append_rtakeWhile]
  rw [whole, trim_append_right _ fun c member => List.mem_rtakeWhile_imp member]
  refine Tight.trim_eq ⟨?_, ?_⟩
  · rw [List.head?_append_of_ne_nil _ filled]
    exact tight.first
  · by_cases gone : back.rdropWhile isBlank = []
    · rw [gone, List.append_nil]
      exact tight.last
    · intro c last
      rw [List.getLast?_append_of_ne_nil _ gone, List.getLast?_eq_some_getLast gone] at last
      obtain rfl := Option.some.inj last
      simpa using List.rdropWhile_last_not isBlank back gone

end Text

namespace Arguments

variable {back : Text}

/-- White space at the end of a section belongs to its last piece. -/
theorem exists_pieces_append (blank : ∀ c ∈ back, isBlank c = true) (position : Position)
    (raw : Text) : ∃ front last, pieces position raw = front ++ [last] ∧
      pieces position (raw ++ back) = front ++ [last ++ back] := by
  induction raw generalizing position with
  | nil =>
      refine ⟨[], [], rfl, ?_⟩
      induction back generalizing position with
      | nil => rfl
      | cons c back inductionHypothesis =>
          rw [List.forall_mem_cons] at blank
          have joined : position.separates c = false := by
            have noComma : c ≠ ',' := by
              rintro rfl
              cases blank.1
            simp [Position.separates, noComma]
          have rest := inductionHypothesis blank.2 (position.next c)
          simp only [List.nil_append] at rest ⊢
          simp [pieces, joined, rest]
  | cons c raw inductionHypothesis =>
      obtain ⟨front, last, short, long⟩ := inductionHypothesis (position.next c)
      cases joined : position.separates c with
      | true =>
          obtain ⟨front, last, short, long⟩ := inductionHypothesis position
          exact ⟨[] :: front, last, by simp [pieces, joined, short], by simp [pieces, joined, long]⟩
      | false =>
          cases front with
          | nil => exact ⟨[], c :: last, by simp [pieces, joined, short], by simp [pieces, joined, long]⟩
          | cons first front =>
              exact ⟨(c :: first) :: front, last, by simp [pieces, joined, short],
                by simp [pieces, joined, long]⟩

theorem scan_append_blank (blank : ∀ c ∈ back, isBlank c = true) (raw : Text) :
    scan (raw ++ back) = scan raw := by
  obtain ⟨front, last, short, long⟩ := exists_pieces_append blank .start raw
  rw [scan, scan, short, long]
  simp [Text.trim_append_right last blank]

theorem scan_rdropWhile (raw : Text) : scan (raw.rdropWhile isBlank) = scan raw := by
  have blank : ∀ c ∈ raw.rtakeWhile isBlank, isBlank c = true := fun c member =>
    List.mem_rtakeWhile_imp member
  rw [← scan_append_blank blank (raw.rdropWhile isBlank), List.rdropWhile_append_rtakeWhile]

/-- White space in front of a section belongs to its first piece. -/
theorem scan_blank_append {front : Text} (blank : ∀ c ∈ front, isBlank c = true) (raw : Text) :
    scan (front ++ raw) = scan raw := by
  have passed := (Skips.append_plain front
    (fun c member => isPlain_of_isBlank (blank c member)) 0 raw).pieces_eq
  rw [scan, scan, Position.start, passed]
  cases pieces ⟨0, .outside⟩ raw with
  | nil => rfl
  | cons first rest =>
      have trimmed : Text.trim (front ++ first) = Text.trim first := by
        rw [← Text.trim_dropWhile, List.dropWhile_append_of_pos blank, Text.trim_dropWhile]
      rw [List.modifyHead_cons, List.map_cons, List.map_cons, trimmed]

/-- White space around a section says nothing. -/
theorem scan_trim (raw : Text) : scan (Text.trim raw) = scan raw := by
  obtain ⟨front, back, whole, blankFront, blankBack⟩ := Text.exists_eq_append_strip isBlank raw
  rw [← Text.trim] at whole
  rw [whole, scan_append_blank blankBack, scan_blank_append blankFront, ← whole]

end Arguments

namespace Line

variable {back command name text : Text}

theorem IsName.of_sameName (isName : IsName name) (same : Text.sameName text name = true) :
    IsName text where
  trimmed := ((Text.tight_of_trim_eq isName.trimmed).of_sameName same).trim_eq
  filled := by
    rintro rfl
    have folded : [] = name.map Char.toLower := by simpa [Text.sameName, Text.foldCase] using same
    exact isName.filled (List.map_eq_nil_iff.mp folded.symm)
  undotted member := isName.undotted ((Text.mem_iff_of_sameName (by decide) same).mp member)
  uncut member := isName.uncut ((Text.mem_iff_of_sameName (by decide) same).mp member)

/-- Nor does white space behind a path. -/
theorem pathSegments_append_blank (blank : ∀ c ∈ back, isBlank c = true) (path : Text) :
    pathSegments (path ++ back) = pathSegments path := by
  have noDot : '.' ∉ back := fun member => absurd (blank '.' member) (by decide)
  -- The segments behind the first dot are those of a shorter path.
  induction length : path.length using Nat.strong_induction_on generalizing path with
  | _ length shorter =>
      rcases Text.cut_cases '.' path with ⟨absent, _⟩ | ⟨front, rest, _, rfl, _⟩
      · have absentBoth : '.' ∉ path ++ back := by simp [absent, noDot]
        simp only [pathSegments, List.splitOn_eq_singleton absent,
          List.splitOn_eq_singleton absentBoth, List.map_singleton, Text.trim_append_right path blank]
      · have later : pathSegments (rest ++ back) = pathSegments rest := by
          refine shorter rest.length ?_ rest rfl
          rw [← length, List.length_append, List.length_cons]
          omega
        simp only [pathSegments] at later
        simp only [pathSegments, List.append_assoc, List.cons_append,
          List.splitOn_append_cons_self, List.map_append, List.filter_append, later]

theorem pathSegments_trim (path : Text) : pathSegments (Text.trim path) = pathSegments path := by
  have blank : ∀ c ∈ (path.dropWhile isBlank).rtakeWhile isBlank, isBlank c = true :=
    fun c member => List.mem_rtakeWhile_imp member
  have whole : Text.trim path ++ (path.dropWhile isBlank).rtakeWhile isBlank =
      path.dropWhile isBlank :=
    List.rdropWhile_append_rtakeWhile
  rw [← pathSegments_append_blank blank, whole, pathSegments_dropWhile_isBlank]

/-- A text without a colon is all path. -/
theorem parse_path (uncut : ':' ∉ command) : parse command = ⟨pathSegments command, none⟩ := by
  have absent : ':' ∉ Text.trim command := fun member => uncut (Text.trim_subset command member)
  rw [parse, Text.cut_of_not_mem absent]
  simp only [pathSegments_trim, Option.map_none]

/-- Behind the first colon is the section, all of it. -/
theorem parse_colon (uncut : ':' ∉ command) (raw : Text) :
    parse (command ++ ':' :: raw) = ⟨pathSegments command, some (Arguments.scan raw)⟩ := by
  have solid : isBlank ':' = false := by decide
  have absent : ':' ∉ command.dropWhile isBlank := fun member =>
    uncut ((List.dropWhile_sublist isBlank).subset member)
  rw [parse, Text.trim_append_cons solid, Text.cut_append_cons absent]
  simp only [pathSegments_dropWhile_isBlank, Option.map_some, Arguments.split_eq_scan,
    Arguments.scan_rdropWhile]

end Line

end CommandLink
