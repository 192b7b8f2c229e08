import BuildHeader.Proofs.Shadowing

/-!
# The directories that are made

Directories are made at paths that end in a name. Each new one is at the end of one of these paths
when it is made, and stays there whatever else is made.

Results:
1. `makeDirectory_growsAlong`: one directory more, and its path leads to it.
2. `ensureDirectories_growsAlong`: nothing is new but directories that the paths lead to, also if one
   of them cannot be made.
-/

namespace BuildHeader.Files

namespace FileSystem

/-! ## Definitions -/

/-- Every node is as it was, and nothing is new but directories that one of the paths leads to. -/
structure GrowsAlong (fs after : FileSystem) (paths : List String) : Prop where
  grows : fs.Grows after
  named : ∀ place, fs.node? place = none → after.node? place ≠ none →
    ∃ path ∈ paths, after.locate .look path = .ok place

/-! ## Growth along paths -/

theorem GrowsAlong.refl (fs : FileSystem) (paths : List String) : fs.GrowsAlong fs paths where
  grows := .refl fs
  named _ missing present := absurd missing present

theorem GrowsAlong.mono {fs after : FileSystem} {paths more : List String}
    (h : fs.GrowsAlong after paths) (subset : paths ⊆ more) : fs.GrowsAlong after more where
  grows := h.grows
  named place missing present := by
    obtain ⟨path, member, leads⟩ := h.named place missing present
    exact ⟨path, subset member, leads⟩

/-- What was made first is still found after more is made. -/
theorem GrowsAlong.trans {fs middle after : FileSystem} {paths : List String}
    (h : fs.GrowsAlong middle paths) (h' : middle.GrowsAlong after paths) :
    fs.GrowsAlong after paths where
  grows := h.grows.trans h'.grows
  named place missing present := by
    by_cases later : middle.node? place = none
    · exact h'.named place later present
    · obtain ⟨path, member, leads⟩ := h.named place missing later
      exact ⟨path, member, h'.grows.preserves.locate leads⟩

/-! ## Making directories -/

/-- The path of a directory that was made leads to it, if no slash follows its name. -/
theorem makeDirectory_growsAlong {fs after : FileSystem} {path : String}
    (noSlash : endsInSlash path = false) (made : fs.makeDirectory path = .ok after) :
    fs.GrowsAlong after [path] := by
  obtain ⟨first, name, links, holder, ends, accepted, walks, accepts, short, missing, rfl⟩ :=
    exists_walks_of_makeDirectory made
  have grows := grows_set missing
  refine ⟨grows, fun place nothing present => ⟨path, List.mem_cons_self, ?_⟩⟩
  have isNew : place = name :: holder :=
    Decidable.byContradiction fun ne => present ((node?_set_of_ne ne).trans nothing)
  subst isNew
  -- The steps before the name lead where they led, and the name is now there.
  refine locate_eq_ok_iff.mpr ⟨accepted, links, ?_⟩
  rw [steps, noSlash, if_neg Bool.false_ne_true, ends, home_set]
  refine (walks.preserved grows.preserves fun impossible => by cases impossible).append ?_
  exact .enter (grows.kept _ _ accepts.1) (by simp) short (node?_set accepts) (by simp) .done

theorem ensureDirectory_growsAlong (fs : FileSystem) {path : String}
    (noSlash : endsInSlash path = false) : fs.GrowsAlong (fs.ensureDirectory path).2 [path] := by
  unfold ensureDirectory
  split
  · next made => exact makeDirectory_growsAlong noSlash made
  · exact .refl fs _

/-- The induction is on the paths: the nearest directory is tried first and made last. -/
theorem ensureDirectories_growsAlong (fs : FileSystem) {paths : List String}
    (noSlash : ∀ path ∈ paths, endsInSlash path = false) :
    fs.GrowsAlong (fs.ensureDirectories paths).2 paths := by
  induction paths with
  | nil => exact .refl fs _
  | cons path above ih =>
    have nearest : ∀ middle : FileSystem,
        middle.GrowsAlong (middle.ensureDirectory path).2 (path :: above) := fun middle =>
      (ensureDirectory_growsAlong middle (noSlash path List.mem_cons_self)).mono (by simp)
    have further : fs.GrowsAlong (fs.ensureDirectories above).2 (path :: above) :=
      (ih fun other member => noSlash other (List.mem_cons_of_mem _ member)).mono
        (List.subset_cons_self path above)
    unfold ensureDirectories
    split
    · split
      · next made =>
        rw [made] at further
        exact further.trans (nearest _)
      · exact further
    · exact nearest fs

end FileSystem

end BuildHeader.Files
