import CommandLink.Proofs.Line.Joining

/-!
# Lines written out

A line that was taken apart can be written out again: its segments with dots between them, and behind
a colon its arguments with commas between them. What is written is read as the same line
(`parse_written_parse`). It need not be the same text, since blanks, empty segments and the white space
around arguments are not written, but it is never read as another one: no segment holds a dot or a
colon, and the arguments are cut from each other where they were before.
-/

namespace CommandLink

/-- A character that is neither in the texts nor between them is not in what they are joined to. -/
theorem Text.notMem_join {texts : List Text} {separator c : Char} (other : c ≠ separator)
    (absent : ∀ text ∈ texts, c ∉ text) : c ∉ Text.join [separator] texts := by
  induction texts with
  | nil => exact List.not_mem_nil
  | cons text texts inductionHypothesis =>
      rw [List.forall_mem_cons] at absent
      by_cases last : texts = []
      · rw [last, join_singleton]
        exact absent.1
      · rw [join_cons _ text last]
        simp [other, absent.1, inductionHypothesis absent.2]

namespace Line

variable {line : Line}

/-- A line written out. -/
def written (line : Line) : Text :=
  Text.join ['.'] line.segments ++
    match line.arguments? with
    | none => []
    | some arguments => ':' :: Text.join [','] arguments

/-- What a text can be taken apart to: segments that could stand alone, and arguments of a section. -/
structure IsProper (line : Line) : Prop where
  segments : ∀ segment ∈ line.segments, IsName segment
  arguments : ∀ arguments ∈ line.arguments?, Arguments.IsSection arguments

/-- The segments of a path without a colon could stand alone. -/
theorem isName_of_mem_pathSegments {path segment : Text} (uncut : ':' ∉ path)
    (member : segment ∈ pathSegments path) : IsName segment := by
  obtain ⟨inside, filled⟩ := List.mem_filter.mp member
  obtain ⟨part, between, rfl⟩ := List.mem_map.mp inside
  obtain ⟨undotted, subset⟩ := Text.of_mem_splitOn between
  have trimmed : Text.trim part ⊆ part := Text.trim_subset part
  exact ⟨Text.trim_trim part, by simpa using filled, fun dot => undotted (trimmed dot),
    fun colon => uncut (subset (trimmed colon))⟩

theorem isProper_parse (input : Text) : (parse input).IsProper := by
  rcases Text.cut_cases ':' (Text.trim input) with
    ⟨uncut, cut⟩ | ⟨path, raw, uncut, _, cut⟩
  · constructor
    · intro segment member
      rw [parse, cut] at member
      exact isName_of_mem_pathSegments uncut member
    · intro arguments given
      rw [parse, cut] at given
      cases given
  · constructor
    · intro segment member
      rw [parse, cut] at member
      exact isName_of_mem_pathSegments uncut member
    · intro arguments given
      rw [parse, cut] at given
      obtain rfl : Arguments.split raw = arguments := Option.some.inj given
      rw [Arguments.split_eq_scan]
      exact Arguments.isSection_scan raw

/-- Segments are the segments of the path that they are joined to. -/
theorem pathSegments_join {segments : List Text} (proper : ∀ segment ∈ segments, IsName segment) :
    pathSegments (Text.join ['.'] segments) = segments := by
  by_cases none : segments = []
  · subst none
    rfl
  · have cut : (Text.join ['.'] segments).splitOn '.' = segments :=
      List.splitOn_intercalate '.' (fun segment member => (proper segment member).undotted) none
    have trimmed : segments.map Text.trim = segments :=
      Text.map_trim_eq_self fun segment member => (proper segment member).trimmed
    rw [pathSegments, cut, trimmed, List.filter_eq_self]
    intro segment member
    simp [(proper segment member).filled]

/-- What is written of a proper line is read as that line. -/
theorem parse_written (proper : line.IsProper) : parse line.written = line := by
  obtain ⟨segments, arguments?⟩ := line
  have uncut : ':' ∉ Text.join ['.'] segments :=
    Text.notMem_join (by decide) fun segment member => (proper.segments segment member).uncut
  have path := pathSegments_join proper.segments
  cases arguments? with
  | none =>
      have tight : (Text.join ['.'] segments).Tight := Text.tight_join (by decide)
        fun segment member => Text.tight_of_trim_eq (proper.segments segment member).trimmed
      rw [written, List.append_nil, parse, tight.trim_eq, Text.cut_of_not_mem uncut]
      simp only [path, Option.map_none]
  | some arguments =>
      have isSection := proper.arguments arguments rfl
      have tight : (Text.join [','] arguments).Tight := Text.tight_join (by decide) isSection.tight
      rw [written, parse_append_colon uncut tight, Arguments.split_eq_scan, isSection.scan_join, path]

/-- A path alone is read as its segments. -/
theorem parse_join {segments : List Text} (proper : ∀ segment ∈ segments, IsName segment) :
    parse (Text.join ['.'] segments) = ⟨segments, none⟩ := by
  have isProper : IsProper ⟨segments, none⟩ := ⟨proper, by simp⟩
  have parsed := parse_written isProper
  rwa [written, List.append_nil] at parsed

/-- The proper lines are those that some text is taken apart to. -/
theorem isProper_iff : line.IsProper ↔ ∃ input, parse input = line := by
  constructor
  · intro proper
    exact ⟨line.written, parse_written proper⟩
  · rintro ⟨input, rfl⟩
    exact isProper_parse input

/-- Writing a line out and taking it apart again gives the same line, whatever text it came from. -/
theorem parse_written_parse (input : Text) : parse (parse input).written = parse input :=
  parse_written (isProper_parse input)

/-- Blanks and an empty segment are not written. The string that is left open at the end is, and hides
the last comma from both readings. -/
example : (parse " Lens. .Zoom : [1,2] ,\" a, ").written = "Lens.Zoom:[1,2],\" a,".toList := by
  decide +kernel

end Line

end CommandLink
