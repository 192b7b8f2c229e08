import BuildHeader.Proofs.PathTexts

/-!
# Paths made of names

A path that has no dots, no slash at its end and no name that is too long is the list of its names,
wherever it starts. The directories above it are its beginnings: each of them has one name less than
the one before.

Results:
1. `IsOrdinary.steps`: a lookup of the path enters its names, one by one.
2. `IsOrdinary.refusal`: no lookup refuses the path beforehand.
3. `IsOrdinary.above`: the directories above such a path are such paths.
4. `IsOrdinary.names_directoriesAbove`: their names are all beginnings of the path's names but the
   whole, the longest first.
-/

namespace BuildHeader.Files

/-! ## Definitions -/

/-- The names of a path: its segments but for the empty ones. -/
def names (path : String) : List String :=
  (segments path).filter (· != "")

/-- The path is made of names alone, and keeps to the limits.

* `notEmpty`, `noSlash`: it ends in a name.
* `noDot`, `noDots`, `noNul`: it has no dots in a name's place, and no NUL.
* `short`, `fits`: no name is too long, and neither is the path. -/
structure IsOrdinary (path : String) : Prop where
  notEmpty : path ≠ ""
  noSlash : endsInSlash path = false
  noDot : "." ∉ segments path
  noDots : ".." ∉ segments path
  noNul : '\x00' ∉ path.toList
  short : ∀ name ∈ segments path, name.utf8ByteSize ≤ nameLimit
  fits : path.utf8ByteSize < pathLimit

theorem names_append (a b : String) : names (a ++ "/" ++ b) = names a ++ names b := by
  rw [names, segments_append, List.filter_append]
  rfl

section
variable {path directory : String}

/-! ## Lookups -/

/-- Without dots every segment that is not empty is entered. -/
theorem filterMap_ofSegment {segments : List String} (noDot : "." ∉ segments)
    (noDots : ".." ∉ segments) :
    segments.filterMap Step.ofSegment? = (segments.filter (· != "")).map .enter := by
  induction segments with
  | nil => rfl
  | cons segment rest ih =>
    have notDot : segment ≠ "." := fun same => noDot (same ▸ List.mem_cons_self)
    have notDots : segment ≠ ".." := fun same => noDots (same ▸ List.mem_cons_self)
    have others := ih (fun dot => noDot (List.mem_cons_of_mem _ dot))
      fun dots => noDots (List.mem_cons_of_mem _ dots)
    by_cases empty : segment = ""
    · subst empty
      exact others
    · have entered : Step.ofSegment? segment = some (.enter segment) := by
        simp [Step.ofSegment?, empty, notDot, notDots]
      rw [List.filterMap_cons_some entered, List.filter_cons_of_pos (by simpa using empty),
        List.map_cons, others]

theorem IsOrdinary.nameSteps (h : IsOrdinary path) : nameSteps path = (names path).map .enter :=
  filterMap_ofSegment h.noDot h.noDots

theorem IsOrdinary.steps (h : IsOrdinary path) : steps path = (names path).map .enter := by
  rw [Files.steps, h.noSlash, if_neg Bool.false_ne_true, h.nameSteps]

theorem IsOrdinary.refusal (h : IsOrdinary path) : FileSystem.refusal? path = none := by
  have noNul : path.toList.contains '\x00' = false := by simpa using h.noNul
  rw [FileSystem.refusal?, noNul, if_neg Bool.false_ne_true, if_neg h.notEmpty,
    if_neg (Nat.not_le.mpr h.fits)]

theorem IsOrdinary.short_names (h : IsOrdinary path) :
    ∀ name ∈ names path, name.utf8ByteSize ≤ nameLimit :=
  fun name member => h.short name (List.mem_filter.mp member).1

/-! ## Directories above -/

/-- The directories above an ordinary path are ordinary. -/
theorem IsOrdinary.above (h : IsOrdinary path) (above : Above directory path) :
    IsOrdinary directory := by
  obtain ⟨rest, rfl, -⟩ := above.goesOn
  have segment : ∀ s ∈ segments directory, s ∈ segments (directory ++ "/" ++ rest) := by
    intro s member
    rw [segments_append]
    exact List.mem_append_left _ member
  refine ⟨above.notEmpty, above.noSlash, fun dot => h.noDot (segment _ dot),
    fun dots => h.noDots (segment _ dots), fun nul => h.noNul ?_,
    fun name member => h.short name (segment name member), ?_⟩
  · simp [nul]
  · have fits := h.fits
    simp only [String.utf8ByteSize_append] at fits
    omega

theorem isIdle_eq_false {segment : String} (named : segment ≠ "") (notDot : segment ≠ ".") :
    isIdle segment = false := by
  simp [isIdle, named, notDot]

/-- Empty segments count for nothing in a beginning. -/
theorem namedBeginnings_filter {segments : List String} (noDot : "." ∉ segments) :
    (namedBeginnings segments).map (List.filter (· != "")) =
      namedBeginnings (segments.filter (· != "")) := by
  induction segments with
  | nil => rfl
  | cons segment rest ih =>
    have notDot : segment ≠ "." := fun same => noDot (same ▸ List.mem_cons_self)
    have others := ih fun dot => noDot (List.mem_cons_of_mem _ dot)
    by_cases empty : segment = ""
    · subst empty
      exact others
    · have named := isIdle_eq_false empty notDot
      have kept : (segment :: rest).filter (· != "") = segment :: rest.filter (· != "") :=
        List.filter_cons_of_pos (by simpa using empty)
      rw [kept, namedBeginnings, namedBeginnings, named, if_neg Bool.false_ne_true,
        if_neg Bool.false_ne_true, List.map_cons, others, kept]

/-- The longest beginning is the whole, if all segments are names. -/
theorem tail_namedBeginnings {segments : List String} (named : ∀ s ∈ segments, isIdle s = false) :
    (namedBeginnings segments).tail = namedBeginnings segments.tail := by
  cases segments with
  | nil => rfl
  | cons segment rest =>
    rw [namedBeginnings, named segment List.mem_cons_self, if_neg Bool.false_ne_true]
    rfl

theorem IsOrdinary.isIdle_names (h : IsOrdinary path) : ∀ s ∈ names path, isIdle s = false := by
  intro s member
  obtain ⟨isSegment, named⟩ := List.mem_filter.mp member
  exact isIdle_eq_false (by simpa using named) fun same => h.noDot (same ▸ isSegment)

/-- The lead of an ordinary path holds no name. -/
theorem IsOrdinary.splitLead (h : IsOrdinary path) {lead : String} {body : List String}
    (cut : Files.splitLead (segments path) = (lead, body)) :
    (lead = "" ∨ lead = "/") ∧ "." ∉ body ∧ names path = body.filter (· != "") := by
  have noDot := h.noDot
  unfold names
  generalize segments path = all at cut noDot
  unfold Files.splitLead at cut
  split at cut
  · cases cut
    exact ⟨.inr rfl, fun dot => noDot (List.mem_cons_of_mem _ dot), rfl⟩
  · exact absurd List.mem_cons_self noDot
  · cases cut
    exact ⟨.inl rfl, noDot, rfl⟩

theorem names_lead_append {lead : String} {body : List String} (noName : lead = "" ∨ lead = "/")
    (some : body ≠ []) (noSlash : ∀ s ∈ body, '/' ∉ s.toList) :
    names (lead ++ "/".intercalate body) = body.filter (· != "") := by
  have cut := segments_intercalate some noSlash
  rcases noName with rfl | rfl
  · rw [String.empty_append, names, cut]
  · have absolute : segments ("" ++ "/" ++ "/".intercalate body) = segments "" ++ body := by
      rw [segments_append, cut]
    rw [String.empty_append] at absolute
    rw [names, absolute]
    rfl

/-- The names of the directories above a path are the beginnings of its names but for the whole, the
longest first. They are given backwards, as the places are to which they lead. -/
theorem IsOrdinary.names_directoriesAbove (h : IsOrdinary path) :
    (directoriesAbove path).map (fun directory => (names directory).reverse) =
      namedBeginnings (names path).reverse.tail := by
  unfold directoriesAbove
  cases cut : Files.splitLead (segments path) with
  | mk lead body =>
  obtain ⟨noSlash, -⟩ := splitLead_spec cut
  obtain ⟨noName, noDot, whole⟩ := h.splitLead cut
  have each : ∀ beginning ∈ (namedBeginnings body.reverse).tail,
      (names (lead ++ "/".intercalate beginning.reverse)).reverse =
        beginning.filter (· != "") := by
    intro beginning member
    obtain ⟨dropped, reversed, -, first, others, rfl, -⟩ := namedBeginnings_mem_tail member
    have inBody : ∀ s ∈ (first :: others).reverse, s ∈ body := by
      intro s isIn
      rw [← List.mem_reverse, reversed]
      exact List.mem_append_right dropped (List.mem_reverse.mp isIn)
    rw [names_lead_append noName (by simp) fun s isIn => noSlash s (inBody s isIn),
      ← List.filter_reverse, List.reverse_reverse]
  have idle : ∀ s ∈ (names path).reverse, isIdle s = false :=
    fun s member => h.isIdle_names s (List.mem_reverse.mp member)
  calc
    _ = (namedBeginnings body.reverse).tail.map (List.filter (· != "")) := by
      rw [List.map_map]
      exact List.map_congr_left each
    _ = (namedBeginnings (body.reverse.filter (· != ""))).tail := by
      rw [List.map_tail, namedBeginnings_filter (by simpa using noDot)]
    _ = namedBeginnings (names path).reverse.tail := by
      rw [List.filter_reverse, ← whole, tail_namedBeginnings idle]

end

end BuildHeader.Files
