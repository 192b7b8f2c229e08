import BuildHeader.Proofs.Growth
import BuildHeader.Proofs.PathTexts

/-!
# Files that appear with the directories above them

A path that names nothing can name something once the directories above it are made. The path
`n/../f` names nothing as long as there is no `n`, and names the file `f` afterwards.

Results:
1. `ensureDirectories_departs`: directories are only made below a name of the path itself that
   was missing.
2. `Walks.stays_missing`: without a step upwards nothing that was there is reached from there.
3. `Shadowed.dots`: such a path therefore has a segment of two dots.
4. `ensureDirectories_of_find`: above a path that leads anywhere nothing is missing.
-/

namespace BuildHeader.Files

namespace FileSystem

/-! ## Definitions -/

/-- The path names nothing, and yet it names something that is there already, and is no
directory, once the directories above it are made. -/
def Shadowed (fs : FileSystem) (path : String) : Prop :=
  fs.find path = .error .notFound ∧
    ∃ grown place node, fs.ensureDirectories (directoriesAbove path) = (.ok (), grown) ∧
      grown.locate .look path = .ok place ∧ fs.node? place = some node ∧ node ≠ .directory

/-- The steps of the path lead to a directory, `first` by `first`, and go on with a name that is
missing there. -/
def Departs (fs : FileSystem) (path : String) : Prop :=
  ∃ first name rest links holder, steps path = first ++ .enter name :: rest ∧
    Walks fs .look linkLimit (start path fs.home) first links holder ∧
    fs.node? (name :: holder) = none

/-! ## Where directories are made -/

/-- An entry with a last name is reached by the steps before that name. -/
theorem locateEntry_eq_ok_some_iff {fs : FileSystem} {path : String} {place : Place} :
    fs.locateEntry path = .ok (some place) ↔
      ∃ holder name, fs.walkPath .look path ((nameSteps path).dropLast ++ [.slash]) = .ok holder ∧
        (nameSteps path).getLast? = some (.enter name) ∧ name.utf8ByteSize ≤ nameLimit ∧
        place = name :: holder := by
  unfold locateEntry
  split
  · next failed => simp [failed]
  · next holder reached =>
    split
    · next name last =>
      split
      · next long => simp [last]; omega
      · next short => simp [reached, last, Nat.not_lt.mp short, eq_comm]
    · next other => simp; grind

/-- A directory is made under a free name, where the steps before that name lead. -/
theorem exists_walks_of_makeDirectory {fs grown : FileSystem} {path : String}
    (made : fs.makeDirectory path = .ok grown) :
    ∃ first name links holder, nameSteps path = first ++ [.enter name] ∧
      refusal? path = none ∧ Walks fs .look linkLimit (start path fs.home) first links holder ∧
      fs.Accepts name holder ∧ name.utf8ByteSize ≤ nameLimit ∧
      fs.node? (name :: holder) = none ∧ grown = fs.set (name :: holder) .directory := by
  obtain ⟨place, located, missing, rfl⟩ := addEntry_eq_ok_iff.mp made
  obtain ⟨holder, name, reached, last, short, rfl⟩ := locateEntry_eq_ok_some_iff.mp located
  obtain ⟨accepted, links, walks⟩ := walkPath_eq_ok_iff.mp reached
  obtain ⟨first, ends⟩ := List.getLast?_eq_some_iff.mp last
  rw [ends, List.dropLast_concat] at walks
  obtain ⟨before, directory⟩ := walks.directory_of_slash
  exact ⟨first, name, links, holder, ends, accepted, before, ⟨directory, by simp [missing]⟩,
    short, missing, rfl⟩

/-- A directory above a path is made below a missing name of the path. -/
theorem departs_of_makeDirectory {fs grown : FileSystem} {directory path : String}
    (above : Above directory path) (made : fs.makeDirectory directory = .ok grown) :
    fs.Departs path := by
  obtain ⟨first, name, links, holder, ends, -, walks, -, -, missing, -⟩ :=
    exists_walks_of_makeDirectory made
  obtain ⟨-, more, -, whole⟩ := above.steps
  refine ⟨first, name, more, links, holder, ?_, ?_, missing⟩
  · rw [whole, ends]
    simp
  · rw [above.start]
    exact walks

/-- Making one directory that succeeds changes nothing or starts at a missing name. -/
theorem ensureDirectory_departs {fs grown : FileSystem} {directory path : String}
    (above : Above directory path) (done : fs.ensureDirectory directory = (.ok (), grown)) :
    grown = fs ∨ fs.Departs path := by
  unfold ensureDirectory at done
  split at done
  · next made => exact .inr (departs_of_makeDirectory above made)
  · exact .inl (Prod.mk.inj done).2.symm

/-- Directories are only made below a name of the path itself that was missing. The induction is
on the directories, the nearest of which is tried first and made last. -/
theorem ensureDirectories_departs {fs grown : FileSystem} {path : String} {paths : List String}
    (above : ∀ directory ∈ paths, Above directory path)
    (done : fs.ensureDirectories paths = (.ok (), grown)) : grown = fs ∨ fs.Departs path := by
  induction paths generalizing grown with
  | nil => exact .inl (Prod.mk.inj done).2.symm
  | cons directory rest ih =>
    have nearest := above directory List.mem_cons_self
    unfold ensureDirectories at done
    split at done
    · next after failed =>
      split at done
      · next middle made =>
        rcases ih (fun other member => above other (List.mem_cons_of_mem _ member)) made with
          rfl | departs
        -- The nearest directory failed before and cannot be made where nothing has changed.
        · rw [failed] at done
          cases done
        · exact .inr departs
      · next notDone => exact absurd done (notDone grown)
    · exact ensureDirectory_departs nearest done

/-! ## What is reached from there -/

theorem missing_below {fs : FileSystem} {name : String} {place : Place}
    (missing : fs.node? place = none) : fs.node? (name :: place) = none := by
  cases found : fs.node? (name :: place) with
  | none => rfl
  | some node =>
    have present : fs.node? (name :: place) ≠ none := by simp [found]
    rw [directory_of_node present] at missing
    cases missing

/-- Below a place that was missing only directories have been added, so that no link leads away
from there. -/
theorem Walks.stays_missing {fs grown : FileSystem} (grows : fs.Grows grown) {links left : Nat}
    {here there : Place} {steps : List Step} (walks : Walks grown .look links here steps left there)
    (noUp : Step.up ∉ steps) (missing : fs.node? here = none) : fs.node? there = none := by
  induction walks with
  | done => exact missing
  | stay _ _ ih | slash _ _ ih => exact ih (fun up => noUp (List.mem_cons_of_mem _ up)) missing
  | up _ _ _ => exact absurd List.mem_cons_self noUp
  | enter _ _ _ _ _ _ ih =>
    exact ih (fun up => noUp (List.mem_cons_of_mem _ up)) (missing_below missing)
  | follow _ _ _ found _ _ =>
    exact absurd found (grows.not_link (missing_below missing) _)
  | free _ writing => cases writing

/-- Where a path departs, and has no two dots, nothing that was there is found afterwards. -/
theorem Departs.locate_missing {fs grown : FileSystem} {path : String} {place : Place}
    (departs : fs.Departs path) (grows : fs.Grows grown) (noDots : ".." ∉ segments path)
    (located : grown.locate .look path = .ok place) : fs.node? place = none := by
  obtain ⟨first, name, rest, links, holder, whole, before, missing⟩ := departs
  obtain ⟨-, left, walks⟩ := locate_eq_ok_iff.mp located
  have noUp : Step.up ∉ steps path := fun up => noDots (up_mem_steps_iff.mp up)
  rw [whole] at walks noUp
  obtain ⟨middle, mid, again, last⟩ := walks.split
  -- The lookup afterwards takes the first steps as they were taken before.
  have same := before.preserved grows.preserves (fun impossible => by cases impossible)
  rw [grows.home] at again
  obtain ⟨rfl, rfl⟩ := again.deterministic same
  have noUpLater : Step.up ∉ rest := fun up => noUp (by simp [up])
  cases last with
  | enter _ _ _ _ _ further => exact further.stays_missing grows noUpLater missing
  | follow _ _ _ found _ => exact absurd found (grows.not_link missing _)
  | free _ writing => cases writing

/-- A path that a file appears under with the directories above it has a segment of two dots. -/
theorem Shadowed.dots {fs : FileSystem} {path : String} (h : fs.Shadowed path) :
    ".." ∈ segments path := by
  refine Classical.byContradiction fun noDots => ?_
  obtain ⟨notFound, grown, place, node, made, located, stands, -⟩ := h
  have grows := grows_of_ensureDirectories made
  rcases ensureDirectories_departs (fun _ => above_of_mem) made with rfl | departs
  · rw [find_eq_ok_iff.mpr ⟨place, located, stands⟩] at notFound
    cases notFound
  · rw [departs.locate_missing grows noDots located] at stands
    cases stands

/-! ## Directories above what is found -/

/-- The directories above a path that leads anywhere are there. -/
theorem ensureDirectories_of_find {fs : FileSystem} {path : String} {node : Node}
    (found : fs.find path = .ok node) :
    (fs.ensureDirectories (directoriesAbove path)).1 = .ok () := by
  cases paths : directoriesAbove path with
  | nil => rfl
  | cons directory rest =>
    have above : Above directory path := above_of_mem (by simp [paths])
    obtain ⟨place, located, -⟩ := find_eq_ok_iff.mp found
    obtain ⟨accepted, left, walks⟩ := locate_eq_ok_iff.mp located
    obtain ⟨own, more, goesOn, whole⟩ := above.steps
    rw [whole, above.start] at walks
    obtain ⟨links, holder, before, after⟩ := walks.split
    obtain ⟨step, further, rfl⟩ := List.exists_cons_of_ne_nil goesOn
    have reached : fs.locate .look directory = .ok holder := by
      refine locate_eq_ok_iff.mpr ⟨above.refusal accepted, links, ?_⟩
      rw [own]
      exact before
    apply ensureDirectories_of_isDirectory
    rw [isDirectory, find_eq_ok_iff.mpr ⟨holder, reached, after.directory_of_cons⟩]

end FileSystem

end BuildHeader.Files
