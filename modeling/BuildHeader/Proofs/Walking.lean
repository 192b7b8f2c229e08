import BuildHeader.Files.Operations

/-!
# Successful walks

A lookup recurses on the steps of a path and, at every link, on the number of links that it may
still follow. `Walks` says the same of the lookups that succeed as one relation, so that statements
about them are proved by a single induction.

Results:
1. `walk_eq_ok_iff`: a lookup succeeds just if there is a walk.
2. `Walks.append`, `Walks.split`: a walk of two parts is a walk of the first and one of the second.
3. `Walks.deterministic`: a walk ends in one way only.
4. `Walks.write_of_look`: what is found and is not a directory can also be found to be written.
-/

namespace BuildHeader.Files

namespace FileSystem

/-! ## Definitions -/

/-- `Walks fs purpose links here steps left there`: from `here` the steps lead to `there`, and of
`links` links that may be followed `left` are left.

* `done`: no step is left.
* `stay`, `slash`, `up`: steps that only need a directory to start from.
* `enter`: a name that is there and is no link.
* `follow`: a link, whose steps are taken in its place.
* `free`: the last name of a path to be written, with nothing there yet. -/
inductive Walks (fs : FileSystem) (purpose : Purpose) :
    Nat → Place → List Step → Nat → Place → Prop
  | done {links : Nat} {here : Place} : Walks fs purpose links here [] links here
  | stay {links left : Nat} {here there : Place} {rest : List Step} :
      fs.node? here = some .directory → Walks fs purpose links here rest left there →
      Walks fs purpose links here (.stay :: rest) left there
  | slash {links left : Nat} {here there : Place} {rest : List Step} :
      fs.node? here = some .directory → Walks fs purpose links here rest left there →
      Walks fs purpose links here (.slash :: rest) left there
  | up {links left : Nat} {here there : Place} {rest : List Step} :
      fs.node? here = some .directory → Walks fs purpose links here.tail rest left there →
      Walks fs purpose links here (.up :: rest) left there
  | enter {links left : Nat} {here there : Place} {rest : List Step} {name : String}
      {node : Node} :
      fs.node? here = some .directory → ¬ (purpose = .write ∧ rest = [.slash]) →
      name.utf8ByteSize ≤ nameLimit → fs.node? (name :: here) = some node →
      (∀ target, node ≠ .link target) → Walks fs purpose links (name :: here) rest left there →
      Walks fs purpose links here (.enter name :: rest) left there
  | follow {links left : Nat} {here there : Place} {rest : List Step} {name target : String} :
      fs.node? here = some .directory → ¬ (purpose = .write ∧ rest = [.slash]) →
      name.utf8ByteSize ≤ nameLimit → fs.node? (name :: here) = some (.link target) →
      Walks fs purpose links (start target here) (steps target ++ rest) left there →
      Walks fs purpose (links + 1) here (.enter name :: rest) left there
  | free {links : Nat} {here : Place} {name : String} :
      fs.node? here = some .directory → purpose = .write → name.utf8ByteSize ≤ nameLimit →
      fs.node? (name :: here) = none →
      Walks fs purpose links here [.enter name] links (name :: here)

/-! ## Lookups and walks -/

theorem isDirectoryAt_iff {fs : FileSystem} {place : Place} :
    fs.isDirectoryAt place = true ↔ fs.node? place = some .directory := by
  simp [isDirectoryAt]

theorem walk_nil (fs : FileSystem) (purpose : Purpose) (links : Nat) (here : Place) :
    fs.walk purpose links here [] = .ok here := by
  cases links <;> rfl

/-- One step of a lookup, in one equation for any number of links. -/
theorem walk_cons (fs : FileSystem) (purpose : Purpose) (links : Nat) (here : Place) (step : Step)
    (rest : List Step) :
    fs.walk purpose links here (step :: rest) =
      if !fs.isDirectoryAt here then .error .notADirectory
      else match step with
        | .stay => fs.walk purpose links here rest
        | .slash => fs.walk purpose links here rest
        | .up => fs.walk purpose links here.tail rest
        | .enter name =>
          if purpose = .write ∧ rest = [.slash] then .error .isADirectory
          else if nameLimit < name.utf8ByteSize then .error .nameTooLong
          else match fs.node? (name :: here) with
            | none =>
              if purpose = .write ∧ rest = [] then .ok (name :: here) else .error .notFound
            | some (.link target) =>
              match links with
              | 0 => .error .tooManyLinks
              | links + 1 => fs.walk purpose links (start target here) (steps target ++ rest)
            | some _ => fs.walk purpose links (name :: here) rest := by
  cases links <;> cases step <;> rfl

/-- The recursion is the one of the lookup: on the links that may still be followed, and for the
same number of links on the steps. -/
theorem walks_of_walk {fs : FileSystem} {purpose : Purpose} {there : Place} :
    ∀ (links : Nat) (here : Place) (steps : List Step),
      fs.walk purpose links here steps = .ok there →
      ∃ left, Walks fs purpose links here steps left there
  | links, here, [], h => by
    rw [walk_nil] at h
    cases h
    exact ⟨links, .done⟩
  | links, here, step :: rest, h => by
    rw [walk_cons] at h
    split at h
    · cases h
    next inDirectory =>
    have directory : fs.node? here = some .directory := by
      simpa [isDirectoryAt_iff] using inDirectory
    cases step with
    | stay =>
      obtain ⟨left, walks⟩ := walks_of_walk links here rest h
      exact ⟨left, .stay directory walks⟩
    | slash =>
      obtain ⟨left, walks⟩ := walks_of_walk links here rest h
      exact ⟨left, .slash directory walks⟩
    | up =>
      obtain ⟨left, walks⟩ := walks_of_walk links here.tail rest h
      exact ⟨left, .up directory walks⟩
    | enter name =>
      simp only at h
      split at h
      · cases h
      next notSlash =>
      split at h
      · cases h
      next notLong =>
      have short := Nat.not_lt.mp notLong
      split at h
      · next missing =>
        split at h
        · next last =>
          obtain ⟨writing, rfl⟩ := last
          cases h
          exact ⟨links, .free directory writing short missing⟩
        · cases h
      · next target found =>
        cases links with
        | zero => cases h
        | succ links =>
          obtain ⟨left, walks⟩ := walks_of_walk links _ _ h
          exact ⟨left, .follow directory notSlash short found walks⟩
      · next node notLink found =>
        obtain ⟨left, walks⟩ := walks_of_walk links _ rest h
        exact ⟨left, .enter directory notSlash short found notLink walks⟩
termination_by links _ steps => (links, steps.length)

theorem walk_of_walks {fs : FileSystem} {purpose : Purpose} {links left : Nat}
    {here there : Place} {steps : List Step} (h : Walks fs purpose links here steps left there) :
    fs.walk purpose links here steps = .ok there := by
  induction h with
  | done => exact walk_nil _ _ _ _
  | stay directory _ ih | slash directory _ ih | up directory _ ih =>
    rw [walk_cons, if_neg (by simp [isDirectoryAt_iff.mpr directory])]
    exact ih
  | enter directory notSlash short found notLink _ ih =>
    rw [walk_cons, if_neg (by simp [isDirectoryAt_iff.mpr directory])]
    simp only [if_neg notSlash, if_neg (Nat.not_lt.mpr short), found]
    exact ih
  | follow directory notSlash short found _ ih =>
    rw [walk_cons, if_neg (by simp [isDirectoryAt_iff.mpr directory])]
    simp only [if_neg notSlash, if_neg (Nat.not_lt.mpr short), found]
    exact ih
  | free directory writing short missing =>
    rw [walk_cons, if_neg (by simp [isDirectoryAt_iff.mpr directory])]
    simp [writing, Nat.not_lt.mpr short, missing]

/-- A lookup succeeds just if there is a walk. -/
theorem walk_eq_ok_iff {fs : FileSystem} {purpose : Purpose} {links : Nat} {here there : Place}
    {steps : List Step} :
    fs.walk purpose links here steps = .ok there ↔
      ∃ left, Walks fs purpose links here steps left there :=
  ⟨walks_of_walk links here steps, fun ⟨_, h⟩ => walk_of_walks h⟩

/-- Where a path starts: the root, or the directory of relative paths. -/
theorem walkPath_eq_ok_iff {fs : FileSystem} {purpose : Purpose} {path : String}
    {steps : List Step} {there : Place} :
    fs.walkPath purpose path steps = .ok there ↔
      refusal? path = none ∧
        ∃ left, Walks fs purpose linkLimit (start path fs.home) steps left there := by
  unfold walkPath
  split
  · next refused => simp [refused]
  · next accepted => simp [accepted, walk_eq_ok_iff]

theorem locate_eq_ok_iff {fs : FileSystem} {purpose : Purpose} {path : String} {there : Place} :
    fs.locate purpose path = .ok there ↔
      refusal? path = none ∧
        ∃ left, Walks fs purpose linkLimit (start path fs.home) (steps path) left there :=
  walkPath_eq_ok_iff

theorem find_eq_ok_iff {fs : FileSystem} {path : String} {node : Node} :
    fs.find path = .ok node ↔
      ∃ place, fs.locate .look path = .ok place ∧ fs.node? place = some node := by
  unfold find
  split
  · next failed => simp [failed]
  · next place located =>
    rw [located]
    split
    · next found => simp [found]
    · next missing => simp [missing]

/-! ## Parts of a walk -/

theorem node?_home (fs : FileSystem) : fs.node? fs.home = some .directory :=
  isDirectoryIn_iff.mp fs.home_directory

theorem node?_start {fs : FileSystem} {place : Place} (path : String)
    (h : fs.node? place = some .directory) : fs.node? (start path place) = some .directory := by
  unfold start
  split
  · rfl
  · exact h

theorem node?_tail {fs : FileSystem} {place : Place} (h : fs.node? place = some .directory) :
    fs.node? place.tail = some .directory := by
  cases place with
  | nil => rfl
  | cons name above =>
    have present : fs.node? (name :: above) ≠ none := by simp [h]
    exact directory_of_node present

theorem Walks.append {fs : FileSystem} {links middle left : Nat} {here mid there : Place}
    {first second : List Step} (h : Walks fs .look links here first middle mid)
    (h' : Walks fs .look middle mid second left there) :
    Walks fs .look links here (first ++ second) left there := by
  induction h with
  | done => exact h'
  | stay directory _ ih => exact .stay directory (ih h')
  | slash directory _ ih => exact .slash directory (ih h')
  | up directory _ ih => exact .up directory (ih h')
  | enter directory _ short found notLink _ ih =>
    exact .enter directory (by simp) short found notLink (ih h')
  | follow directory _ short found _ ih =>
    have whole := ih h'
    rw [List.append_assoc] at whole
    exact .follow directory (by simp) short found whole
  | free _ writing => cases writing

theorem Walks.split {fs : FileSystem} {links left : Nat} {here there : Place}
    {first second : List Step} (h : Walks fs .look links here (first ++ second) left there) :
    ∃ middle mid, Walks fs .look links here first middle mid ∧
      Walks fs .look middle mid second left there := by
  generalize whole : first ++ second = steps at h
  induction h generalizing first with
  | @done links here =>
    obtain ⟨rfl, rfl⟩ := List.append_eq_nil_iff.mp whole
    exact ⟨links, here, .done, .done⟩
  | @stay links left here there rest directory walks ih =>
    rcases List.append_eq_cons_iff.mp whole with ⟨rfl, rfl⟩ | ⟨first, rfl, rfl⟩
    · exact ⟨links, here, .done, .stay directory walks⟩
    · obtain ⟨middle, mid, before, after⟩ := ih rfl
      exact ⟨middle, mid, .stay directory before, after⟩
  | @slash links left here there rest directory walks ih =>
    rcases List.append_eq_cons_iff.mp whole with ⟨rfl, rfl⟩ | ⟨first, rfl, rfl⟩
    · exact ⟨links, here, .done, .slash directory walks⟩
    · obtain ⟨middle, mid, before, after⟩ := ih rfl
      exact ⟨middle, mid, .slash directory before, after⟩
  | @up links left here there rest directory walks ih =>
    rcases List.append_eq_cons_iff.mp whole with ⟨rfl, rfl⟩ | ⟨first, rfl, rfl⟩
    · exact ⟨links, here, .done, .up directory walks⟩
    · obtain ⟨middle, mid, before, after⟩ := ih rfl
      exact ⟨middle, mid, .up directory before, after⟩
  | @enter links left here there rest name node directory notSlash short found notLink walks ih =>
    rcases List.append_eq_cons_iff.mp whole with ⟨rfl, rfl⟩ | ⟨first, rfl, rfl⟩
    · exact ⟨links, here, .done, .enter directory notSlash short found notLink walks⟩
    · obtain ⟨middle, mid, before, after⟩ := ih rfl
      exact ⟨middle, mid, .enter directory (by simp) short found notLink before, after⟩
  | @follow links left here there rest name target directory notSlash short found walks ih =>
    rcases List.append_eq_cons_iff.mp whole with ⟨rfl, rfl⟩ | ⟨first, rfl, rfl⟩
    · exact ⟨links + 1, here, .done, .follow directory notSlash short found walks⟩
    · obtain ⟨middle, mid, before, after⟩ := ih (List.append_assoc ..)
      exact ⟨middle, mid, .follow directory (by simp) short found before, after⟩
  | free _ writing => cases writing

/-- A walk ends in one way only. -/
theorem Walks.deterministic {fs : FileSystem} {links left left' : Nat} {here there there' : Place}
    {steps : List Step} (h : Walks fs .look links here steps left there)
    (h' : Walks fs .look links here steps left' there') : left = left' ∧ there = there' := by
  induction h with
  | done =>
    cases h'
    exact ⟨rfl, rfl⟩
  | stay _ _ ih =>
    cases h' with
    | stay _ walks => exact ih walks
  | slash _ _ ih =>
    cases h' with
    | slash _ walks => exact ih walks
  | up _ _ ih =>
    cases h' with
    | up _ walks => exact ih walks
  | enter _ _ _ found notLink _ ih =>
    cases h' with
    | enter _ _ _ _ _ walks => exact ih walks
    | follow _ _ _ found' _ => exact absurd (Option.some.inj (found.symm.trans found')) (notLink _)
    | free _ writing => cases writing
  | follow _ _ _ found _ ih =>
    cases h' with
    | enter _ _ _ found' notLink' _ =>
      exact absurd (Option.some.inj (found'.symm.trans found)) (notLink' _)
    | follow _ _ _ found' walks =>
      cases Option.some.inj (found.symm.trans found')
      exact ih walks
    | free _ writing => cases writing
  | free _ writing => cases writing

/-! ## Ends of a walk -/

/-- A walk that starts at a directory does not end at a link. -/
theorem Walks.not_link {fs : FileSystem} {purpose : Purpose} {links left : Nat}
    {here there : Place} {steps : List Step} (h : Walks fs purpose links here steps left there)
    (noLink : ∀ target, fs.node? here ≠ some (.link target)) :
    ∀ target, fs.node? there ≠ some (.link target) := by
  induction h with
  | done => exact noLink
  | stay _ _ ih | slash _ _ ih => exact ih noLink
  | up directory _ ih =>
    refine ih fun target => ?_
    rw [node?_tail directory]
    simp
  | enter _ _ _ found notLink _ ih =>
    refine ih fun target => ?_
    rw [found]
    simpa using notLink target
  | @follow _ _ _ _ _ _ text directory _ _ _ _ ih =>
    refine ih fun target => ?_
    rw [node?_start text directory]
    simp
  | free _ _ _ missing =>
    intro target
    simp [missing]

/-- A walk ends at a node, or at the free name of a directory. -/
theorem Walks.free_or_present {fs : FileSystem} {purpose : Purpose} {links left : Nat}
    {here there : Place} {steps : List Step} (h : Walks fs purpose links here steps left there)
    (present : fs.node? here ≠ none) :
    fs.node? there ≠ none ∨ purpose = .write ∧
      ∃ name holder, there = name :: holder ∧ fs.node? holder = some .directory := by
  induction h with
  | done => exact .inl present
  | stay _ _ ih | slash _ _ ih => exact ih present
  | up directory _ ih => exact ih (by simp [node?_tail directory])
  | enter _ _ _ found _ _ ih => exact ih (by simp [found])
  | @follow _ _ _ _ _ _ text directory _ _ _ _ ih =>
    exact ih (by simp [node?_start text directory])
  | @free _ here name directory writing => exact .inr ⟨writing, name, here, rfl, directory⟩

/-- What stands before a step is a directory. -/
theorem Walks.directory_of_cons {fs : FileSystem} {purpose : Purpose} {links left : Nat}
    {here there : Place} {step : Step} {rest : List Step}
    (h : Walks fs purpose links here (step :: rest) left there) :
    fs.node? here = some .directory := by
  cases h with
  | stay directory | slash directory | up directory | enter directory | follow directory
  | free directory => exact directory

/-- What stands before the slash at the end is a directory. -/
theorem Walks.directory_of_slash {fs : FileSystem} {links left : Nat} {here there : Place}
    {first : List Step} (h : Walks fs .look links here (first ++ [.slash]) left there) :
    Walks fs .look links here first left there ∧ fs.node? there = some .directory := by
  obtain ⟨middle, mid, before, last⟩ := h.split
  cases last with
  | slash directory rest =>
    cases rest
    exact ⟨before, directory⟩

/-- What is found and is not a directory can also be found to be written. -/
theorem Walks.write_of_look {fs : FileSystem} {links left : Nat} {here there : Place}
    {steps : List Step} (h : Walks fs .look links here steps left there)
    (notDirectory : fs.node? there ≠ some .directory) :
    Walks fs .write links here steps left there := by
  induction h with
  | done => exact .done
  | stay directory _ ih => exact .stay directory (ih notDirectory)
  | slash directory _ ih => exact .slash directory (ih notDirectory)
  | up directory _ ih => exact .up directory (ih notDirectory)
  | @enter _ _ here _ rest name _ directory _ short found notLink walks ih =>
    refine .enter directory ?_ short found notLink (ih notDirectory)
    -- A slash behind the name would demand a directory.
    rintro ⟨-, rfl⟩
    rw [← List.nil_append [Step.slash]] at walks
    exact notDirectory walks.directory_of_slash.2
  | follow directory _ short found walks ih =>
    refine .follow directory ?_ short found (ih notDirectory)
    rintro ⟨-, rfl⟩
    exact notDirectory walks.directory_of_slash.2
  | free _ writing => cases writing

end FileSystem

end BuildHeader.Files
