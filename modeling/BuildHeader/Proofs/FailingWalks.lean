import BuildHeader.Proofs.Walking

/-!
# Failing walks

A lookup that fails stops at one step of the path, or of the text of a link on the way. `Stops` says
where and why, as `Walks` does of the lookups that succeed, and the two leave nothing out.

Results:
1. `walk_eq_error_iff`: a lookup fails just if it stops somewhere, with the fault of that place.
2. `find_eq_ok_iff_leadsTo`, `find_eq_error_iff_misses`: what a path comes to, told by the two
   relations.
3. `Misses.fault_cases`: there are five reasons why a path leads nowhere.
-/

namespace BuildHeader.Files

namespace FileSystem

/-! ## Definitions -/

/-- `Stops fs links here steps fault`: from `here` the steps lead nowhere, when `links` links may be
followed.

* `blocked`: the steps go on below something that is no directory.
* `long`: a name is over its limit.
* `missing`: a name is not there.
* `looped`: a link is met when no more may be followed.
* `stay`, `slash`, `up`, `enter`, `follow`: a step can be taken, and what comes after it stops. -/
inductive Stops (fs : FileSystem) : Nat → Place → List Step → Fault → Prop
  | blocked {links : Nat} {here : Place} {step : Step} {rest : List Step} :
      fs.node? here ≠ some .directory → Stops fs links here (step :: rest) .notADirectory
  | long {links : Nat} {here : Place} {name : String} {rest : List Step} :
      fs.node? here = some .directory → nameLimit < name.utf8ByteSize →
      Stops fs links here (.enter name :: rest) .nameTooLong
  | missing {links : Nat} {here : Place} {name : String} {rest : List Step} :
      fs.node? here = some .directory → name.utf8ByteSize ≤ nameLimit →
      fs.node? (name :: here) = none → Stops fs links here (.enter name :: rest) .notFound
  | looped {here : Place} {name target : String} {rest : List Step} :
      fs.node? here = some .directory → name.utf8ByteSize ≤ nameLimit →
      fs.node? (name :: here) = some (.link target) →
      Stops fs 0 here (.enter name :: rest) .tooManyLinks
  | stay {links : Nat} {here : Place} {rest : List Step} {fault : Fault} :
      fs.node? here = some .directory → Stops fs links here rest fault →
      Stops fs links here (.stay :: rest) fault
  | slash {links : Nat} {here : Place} {rest : List Step} {fault : Fault} :
      fs.node? here = some .directory → Stops fs links here rest fault →
      Stops fs links here (.slash :: rest) fault
  | up {links : Nat} {here : Place} {rest : List Step} {fault : Fault} :
      fs.node? here = some .directory → Stops fs links here.tail rest fault →
      Stops fs links here (.up :: rest) fault
  | enter {links : Nat} {here : Place} {name : String} {rest : List Step} {node : Node}
      {fault : Fault} :
      fs.node? here = some .directory → name.utf8ByteSize ≤ nameLimit →
      fs.node? (name :: here) = some node → (∀ target, node ≠ .link target) →
      Stops fs links (name :: here) rest fault → Stops fs links here (.enter name :: rest) fault
  | follow {links : Nat} {here : Place} {name target : String} {rest : List Step} {fault : Fault} :
      fs.node? here = some .directory → name.utf8ByteSize ≤ nameLimit →
      fs.node? (name :: here) = some (.link target) →
      Stops fs links (start target here) (steps target ++ rest) fault →
      Stops fs (links + 1) here (.enter name :: rest) fault

/-- The path leads to the node, through whatever links. -/
def LeadsTo (fs : FileSystem) (path : String) (node : Node) : Prop :=
  refusal? path = none ∧ ∃ left place,
    Walks fs .look linkLimit (start path fs.home) (steps path) left place ∧
      fs.node? place = some node

/-- The path leads nowhere: it is refused beforehand, or its lookup stops on the way. -/
def Misses (fs : FileSystem) (path : String) (fault : Fault) : Prop :=
  refusal? path = some fault ∨
    refusal? path = none ∧ fs.Stops linkLimit (start path fs.home) (steps path) fault

/-! ## Lookups that fail -/

/-- The recursion is the one of the lookup, as in `walks_of_walk`. -/
theorem stops_of_walk {fs : FileSystem} {fault : Fault} :
    ∀ (links : Nat) (here : Place) (steps : List Step),
      fs.walk .look links here steps = .error fault → fs.Stops links here steps fault
  | links, here, [], h => by
    rw [walk_nil] at h
    cases h
  | links, here, step :: rest, h => by
    rw [walk_cons] at h
    split at h
    · next notDirectory =>
      cases h
      exact .blocked (by simpa [isDirectoryAt] using notDirectory)
    next inDirectory =>
    have directory : fs.node? here = some .directory := by
      simpa [isDirectoryAt_iff] using inDirectory
    cases step with
    | stay => exact .stay directory (stops_of_walk links here rest h)
    | slash => exact .slash directory (stops_of_walk links here rest h)
    | up => exact .up directory (stops_of_walk links here.tail rest h)
    | enter name =>
      simp only at h
      split at h
      · next slash => cases slash.1
      split at h
      · next long =>
        cases h
        exact .long directory long
      next notLong =>
      have short := Nat.not_lt.mp notLong
      split at h
      · next missing =>
        split at h
        · next last => cases last.1
        · cases h
          exact .missing directory short missing
      · next target found =>
        cases links with
        | zero =>
          cases h
          exact .looped directory short found
        | succ links => exact .follow directory short found (stops_of_walk links _ _ h)
      · next node notLink found =>
        exact .enter directory short found notLink (stops_of_walk links _ rest h)
termination_by links _ steps => (links, steps.length)

theorem walk_of_stops {fs : FileSystem} {links : Nat} {here : Place} {steps : List Step}
    {fault : Fault} (h : fs.Stops links here steps fault) :
    fs.walk .look links here steps = .error fault := by
  induction h with
  | blocked notDirectory =>
    rw [walk_cons, if_pos (by simp [isDirectoryAt, notDirectory])]
  | long directory long =>
    rw [walk_cons, if_neg (by simp [isDirectoryAt_iff.mpr directory])]
    simp [long]
  | missing directory short missing =>
    rw [walk_cons, if_neg (by simp [isDirectoryAt_iff.mpr directory])]
    simp [Nat.not_lt.mpr short, missing]
  | looped directory short found =>
    rw [walk_cons, if_neg (by simp [isDirectoryAt_iff.mpr directory])]
    simp [Nat.not_lt.mpr short, found]
  | stay directory _ ih | slash directory _ ih | up directory _ ih =>
    rw [walk_cons, if_neg (by simp [isDirectoryAt_iff.mpr directory])]
    exact ih
  | enter directory short found notLink _ ih =>
    rw [walk_cons, if_neg (by simp [isDirectoryAt_iff.mpr directory])]
    simp only [if_neg (Nat.not_lt.mpr short), found]
    exact ih
  | follow directory short found _ ih =>
    rw [walk_cons, if_neg (by simp [isDirectoryAt_iff.mpr directory])]
    simp only [if_neg (Nat.not_lt.mpr short), found]
    exact ih

/-- A lookup fails just if it stops somewhere. -/
theorem walk_eq_error_iff {fs : FileSystem} {links : Nat} {here : Place} {steps : List Step}
    {fault : Fault} :
    fs.walk .look links here steps = .error fault ↔ fs.Stops links here steps fault :=
  ⟨stops_of_walk links here steps, walk_of_stops⟩

/-! ## Paths -/

theorem find_eq_ok_iff_leadsTo {fs : FileSystem} {path : String} {node : Node} :
    fs.find path = .ok node ↔ fs.LeadsTo path node := by
  rw [find_eq_ok_iff]
  constructor
  · rintro ⟨place, located, stands⟩
    obtain ⟨accepted, left, walks⟩ := locate_eq_ok_iff.mp located
    exact ⟨accepted, left, place, walks, stands⟩
  · rintro ⟨accepted, left, place, walks, stands⟩
    exact ⟨place, locate_eq_ok_iff.mpr ⟨accepted, left, walks⟩, stands⟩

/-- Where a lookup ends something stands, so that it fails only on the way. -/
theorem find_eq_error_iff_locate {fs : FileSystem} {path : String} {fault : Fault} :
    fs.find path = .error fault ↔ fs.locate .look path = .error fault := by
  unfold find
  split
  · next failed => simp [failed]
  · next place located =>
    obtain ⟨_, left, walks⟩ := locate_eq_ok_iff.mp located
    have startsAt := node?_start path (node?_home fs)
    have present : fs.node? place ≠ none := by
      rcases walks.free_or_present (by simp [startsAt]) with present | ⟨writing, -⟩
      · exact present
      · cases writing
    obtain ⟨node, stands⟩ := Option.ne_none_iff_exists'.mp present
    simp [located, stands]

theorem find_eq_error_iff_misses {fs : FileSystem} {path : String} {fault : Fault} :
    fs.find path = .error fault ↔ fs.Misses path fault := by
  rw [find_eq_error_iff_locate, locate, walkPath, Misses]
  cases refused : refusal? path with
  | some own => simp
  | none => simp [walk_eq_error_iff]

/-! ## Reasons -/

theorem Stops.fault_cases {fs : FileSystem} {links : Nat} {here : Place} {steps : List Step}
    {fault : Fault} (h : fs.Stops links here steps fault) :
    fault = .notFound ∨ fault = .notADirectory ∨ fault = .tooManyLinks ∨ fault = .nameTooLong := by
  induction h with
  | blocked | long | missing | looped => simp
  | stay _ _ ih | slash _ _ ih | up _ _ ih | enter _ _ _ _ _ ih | follow _ _ _ _ ih => exact ih

/-- There are five reasons why a path leads nowhere. -/
theorem Misses.fault_cases {fs : FileSystem} {path : String} {fault : Fault}
    (h : fs.Misses path fault) :
    fault = .notFound ∨ fault = .notADirectory ∨ fault = .tooManyLinks ∨ fault = .nameTooLong ∨
      fault = .nulInPath := by
  rcases h with refused | ⟨-, stops⟩
  · unfold refusal? at refused
    split at refused
    · cases refused
      simp
    split at refused
    · cases refused
      simp
    split at refused
    · cases refused
      simp
    · cases refused
  · rcases stops.fault_cases with rfl | rfl | rfl | rfl <;> simp

end FileSystem

end BuildHeader.Files
