import BuildHeader.Files.Lookup

/-!
# The texts of the directories above a path

The directories above a path are made from its text alone. Each of their texts is a beginning of
the path's text up to a slash, so that a lookup of the path takes all the steps of the directory
first, from the same start, and is refused beforehand only if the path is.

Results:
1. `segments_append`: a text cut at a slash has the segments of both sides.
2. `above_of_mem`: a directory above a path is such a beginning.
3. `Above.steps`, `Above.start`, `Above.refusal`: what follows for lookups.
4. `up_mem_steps_iff`: a path leads upwards only by a segment of two dots.
-/

namespace BuildHeader.Files

/-! ## Segments -/

theorem segments_append (a b : String) : segments (a ++ "/" ++ b) = segments a ++ segments b := by
  have text : (a ++ "/" ++ b).toList = a.toList ++ '/' :: b.toList := by simp
  rw [segments, text, List.splitOn_append_cons_self, List.map_append]
  rfl

/-- The segments of a path, joined by slashes, are the path. -/
theorem intercalate_segments (path : String) : "/".intercalate (segments path) = path := by
  apply String.toList_injective
  have texts : (segments path).map String.toList = path.toList.splitOn '/' := by
    simp [segments, Function.comp_def]
  rw [String.toList_intercalate, texts]
  exact List.intercalate_splitOn '/'

theorem slash_not_mem_segment {path : String} : ∀ s ∈ segments path, '/' ∉ s.toList := by
  have pieces : ∀ text : List Char, ∀ piece ∈ text.splitOn '/', '/' ∉ piece := by
    intro text
    induction text with
    | nil => simp
    | cons c rest ih =>
      rw [List.splitOn_cons_eq_if_modifyHead]
      split
      · simpa using ih
      next notSlash =>
      cases cut : rest.splitOn '/' with
      | nil => exact absurd cut (List.splitOn_ne_nil '/' rest)
      | cons first others =>
        rw [cut] at ih
        have different : '/' ≠ c := fun same => notSlash (by simp [← same])
        simpa [different] using ih
  intro s member
  obtain ⟨piece, isPiece, rfl⟩ := List.mem_map.mp member
  simpa using pieces _ piece isPiece

/-- Segments are found again in the text that joins them. -/
theorem segments_intercalate {names : List String} (some : names ≠ [])
    (h : ∀ s ∈ names, '/' ∉ s.toList) : segments ("/".intercalate names) = names := by
  have texts : ("/".intercalate names).toList.splitOn '/' = names.map String.toList := by
    rw [String.toList_intercalate]
    refine List.splitOn_intercalate '/' ?_ (by simpa using some)
    intro text member
    obtain ⟨s, isName, rfl⟩ := List.mem_map.mp member
    exact h s isName
  rw [segments, texts, List.map_map]
  simp [Function.comp_def]

/-! ## Steps -/

theorem nameSteps_append (a b : String) :
    nameSteps (a ++ "/" ++ b) = nameSteps a ++ nameSteps b := by
  simp [nameSteps, segments_append]

theorem nameSteps_ne_nil {path segment : String} (h : segment ∈ segments path)
    (named : isIdle segment = false) : nameSteps path ≠ [] := by
  have notEmpty : segment ≠ "" := by
    rintro rfl
    cases named
  have asks : ∃ step, Step.ofSegment? segment = some step := by
    unfold Step.ofSegment?
    rw [if_neg notEmpty]
    split
    · exact ⟨_, rfl⟩
    · split <;> exact ⟨_, rfl⟩
  obtain ⟨step, asked⟩ := asks
  exact List.ne_nil_of_mem (List.mem_filterMap.mpr ⟨segment, h, asked⟩)

/-- The slash at the end comes after the steps of the names. -/
theorem exists_steps_eq (path : String) : ∃ last, steps path = nameSteps path ++ last := by
  unfold steps
  split
  · exact ⟨[.slash], rfl⟩
  · exact ⟨[], (List.append_nil _).symm⟩

/-- A path leads upwards only by a segment of two dots. -/
theorem up_mem_steps_iff {path : String} : Step.up ∈ steps path ↔ ".." ∈ segments path := by
  have ofSegment : ∀ s, Step.ofSegment? s = some .up ↔ s = ".." := by
    intro s
    unfold Step.ofSegment?
    split
    · next empty => simp [empty]
    split
    · next dot => simp [dot]
    split
    · next dots => simp [dots]
    · next other => simp [other]
  have names : Step.up ∈ nameSteps path ↔ ".." ∈ segments path := by
    simp [nameSteps, ofSegment]
  rw [← names]
  unfold steps
  split <;> simp

/-! ## Beginnings of a path -/

/-- The path goes on behind a slash, and what follows still names something. The beginning has a
text of its own and ends in no slash. -/
structure Above (directory path : String) : Prop where
  goesOn : ∃ rest, path = directory ++ "/" ++ rest ∧ nameSteps rest ≠ []
  notEmpty : directory ≠ ""
  noSlash : endsInSlash directory = false

theorem namedBeginnings_mem {segments names : List String} (h : names ∈ namedBeginnings segments) :
    ∃ dropped, segments = dropped ++ names ∧
      ∃ first others, names = first :: others ∧ isIdle first = false := by
  induction segments with
  | nil => cases h
  | cons segment rest ih =>
    rw [namedBeginnings] at h
    split at h
    · obtain ⟨dropped, rfl, shape⟩ := ih h
      exact ⟨segment :: dropped, rfl, shape⟩
    · next named =>
      rcases List.mem_cons.mp h with rfl | h
      · exact ⟨[], rfl, segment, rest, rfl, by simpa using named⟩
      · obtain ⟨dropped, rfl, shape⟩ := ih h
        exact ⟨segment :: dropped, rfl, shape⟩

/-- All beginnings but the longest leave something named out. -/
theorem namedBeginnings_mem_tail {segments names : List String}
    (h : names ∈ (namedBeginnings segments).tail) :
    ∃ dropped, segments = dropped ++ names ∧ (∃ s ∈ dropped, isIdle s = false) ∧
      ∃ first others, names = first :: others ∧ isIdle first = false := by
  induction segments with
  | nil => cases h
  | cons segment rest ih =>
    rw [namedBeginnings] at h
    split at h
    · obtain ⟨dropped, rfl, ⟨s, member, named⟩, shape⟩ := ih h
      exact ⟨segment :: dropped, rfl, ⟨s, by simp [member], named⟩, shape⟩
    · next named =>
      obtain ⟨dropped, rfl, shape⟩ := namedBeginnings_mem h
      exact ⟨segment :: dropped, rfl, ⟨segment, by simp, by simpa using named⟩, shape⟩

/-- The lead and the segments after it make up the path, if there are any. -/
theorem splitLead_spec {path lead : String} {body : List String}
    (h : splitLead (segments path) = (lead, body)) :
    (∀ s ∈ body, '/' ∉ s.toList) ∧ (body ≠ [] → path = lead ++ "/".intercalate body) := by
  have whole := intercalate_segments path
  have noSlash : ∀ s ∈ segments path, '/' ∉ s.toList := slash_not_mem_segment
  generalize segments path = all at h whole noSlash
  unfold splitLead at h
  split at h
  · next rest =>
    cases h
    refine ⟨fun s member => noSlash s (by simp [member]), fun some => ?_⟩
    rw [← whole, String.intercalate_cons_of_ne_nil some, String.empty_append]
  · next rest =>
    cases h
    refine ⟨fun s member => noSlash s (by simp [member]), fun some => ?_⟩
    rw [← whole, String.intercalate_cons_of_ne_nil some]
    rfl
  · cases h
    exact ⟨noSlash, fun _ => by rw [whole, String.empty_append]⟩

theorem named_ne_empty {segment : String} (h : isIdle segment = false) : segment ≠ "" := by
  rintro rfl
  cases h

/-- A text that ends in a segment with a name is not empty and ends in no slash. -/
theorem endsInSlash_append (text : String) {segment : String} (named : isIdle segment = false)
    (noSlash : '/' ∉ segment.toList) :
    text ++ segment ≠ "" ∧ endsInSlash (text ++ segment) = false := by
  have some : segment.toList ≠ [] := by simpa using named_ne_empty named
  constructor
  · intro empty
    rw [String.append_eq_empty_iff] at empty
    exact named_ne_empty named empty.2
  · have last : (text ++ segment).toList.getLast? = segment.toList.getLast? := by
      rw [String.toList_append, List.getLast?_append, List.getLast?_eq_some_getLast some]
      rfl
    rw [endsInSlash, last, beq_eq_false_iff_ne]
    intro slash
    exact noSlash (List.mem_of_getLast? slash)

/-- A directory above a path is a beginning of its text. -/
theorem above_of_mem {directory path : String} (h : directory ∈ directoriesAbove path) :
    Above directory path := by
  unfold directoriesAbove at h
  cases cut : splitLead (segments path) with
  | mk lead body =>
  obtain ⟨noSlash, text⟩ := splitLead_spec cut
  rw [cut] at h
  obtain ⟨names, member, rfl⟩ := List.mem_map.mp h
  obtain ⟨dropped, reversed, ⟨s, inDropped, named⟩, first, others, rfl, firstNamed⟩ :=
    namedBeginnings_mem_tail member
  -- The names of the directory come first, and what was dropped is the rest of the path.
  have split : body = (first :: others).reverse ++ dropped.reverse := by
    rw [← List.reverse_append, ← reversed, List.reverse_reverse]
  have keptSome : (first :: others).reverse ≠ [] := by simp
  have droppedSome : dropped.reverse ≠ [] := by
    simpa using List.ne_nil_of_mem inDropped
  have restSegments : segments ("/".intercalate dropped.reverse) = dropped.reverse :=
    segments_intercalate droppedSome fun t inRest => noSlash t (by simp [split, inRest])
  -- Its text ends in a segment with a name, also where that segment is the only one.
  have ends : ∃ start, lead ++ "/".intercalate (first :: others).reverse = start ++ first := by
    by_cases alone : others.reverse = []
    · exact ⟨lead, by simp [alone]⟩
    · refine ⟨lead ++ ("/".intercalate others.reverse ++ "/"), ?_⟩
      rw [List.reverse_cons, String.intercalate_append_of_ne_nil alone (by simp),
        String.intercalate_singleton]
      simp only [String.append_assoc]
  obtain ⟨start, ends⟩ := ends
  have own := endsInSlash_append start firstNamed (noSlash first (by simp [split]))
  refine ⟨⟨"/".intercalate dropped.reverse, ?_, ?_⟩, ?_, ?_⟩
  · rw [text (by simp [split]), split, String.intercalate_append_of_ne_nil keptSome droppedSome]
    simp only [String.append_assoc]
  · have leftOut : s ∈ segments ("/".intercalate dropped.reverse) := by
      simp [restSegments, inDropped]
    exact nameSteps_ne_nil leftOut named
  · exact ends ▸ own.1
  · exact ends ▸ own.2

/-! ## Lookups -/

/-- The steps of the directory come first, and more follow. -/
theorem Above.steps {directory path : String} (h : Above directory path) :
    steps directory = nameSteps directory ∧
      ∃ more, more ≠ [] ∧ Files.steps path = nameSteps directory ++ more := by
  obtain ⟨rest, rfl, named⟩ := h.goesOn
  obtain ⟨last, whole⟩ := exists_steps_eq (directory ++ "/" ++ rest)
  refine ⟨by rw [Files.steps, h.noSlash]; rfl, nameSteps rest ++ last, by simp [named], ?_⟩
  rw [whole, nameSteps_append, List.append_assoc]

theorem Above.start {directory path : String} (h : Above directory path) (place : Place) :
    FileSystem.start path place = FileSystem.start directory place := by
  obtain ⟨rest, rfl, _⟩ := h.goesOn
  have some : directory.toList ≠ [] := by simpa using h.notEmpty
  have head : (directory ++ "/" ++ rest).toList.head? = directory.toList.head? := by
    cases text : directory.toList with
    | nil => exact absurd text some
    | cons c more => simp [text]
  rw [FileSystem.start, FileSystem.start, isAbsolute, isAbsolute, head]

theorem Above.refusal {directory path : String} (h : Above directory path)
    (accepted : FileSystem.refusal? path = none) : FileSystem.refusal? directory = none := by
  obtain ⟨rest, rfl, _⟩ := h.goesOn
  unfold FileSystem.refusal? at accepted ⊢
  split at accepted
  · cases accepted
  next noNul =>
  split at accepted
  · cases accepted
  split at accepted
  · cases accepted
  next notLong =>
  rw [if_neg (by simp_all), if_neg h.notEmpty, if_neg]
  simp only [String.utf8ByteSize_append] at notLong
  omega

end BuildHeader.Files
