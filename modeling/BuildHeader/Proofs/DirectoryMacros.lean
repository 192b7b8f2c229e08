import BuildHeader.Proofs.HeaderLines
import BuildHeader.Proofs.SetSessions

/-!
# Directory macros in a set that is in use

The directory macros are three requests in a row, and a set may hold some of their names already. How
far the requests get is told by the names that the set holds, and what was inserted before a failure
is not taken back. Either way the set holds the first of the names afterwards, so that a second call
is refused at once.

Results:
1. `Proceeds.eq_none_iff`, `Proceeds.definitions_of_none`, `Proceeds.stopped_at`: how far requests
   for different identifiers get, told by what `get?` finds.
2. `Proceeds.holds_first`: the set holds the first name that was asked for.
3. `submitAll_of_held`: requests of which the first is refused change nothing.
4. `addTo_addsDirectories`: the directory macros, added to any set that a session holds.
-/

namespace BuildHeader.Macro

namespace DefinitionSet

/-! ## How far requests get -/

section
variable {set : DefinitionSet} {requests : List Request}
  {outcome : DefinitionSet × Option DefinitionError}

/-- A consistent set finds just the names in its index. -/
theorem Consistent.forall_contains_iff (h : set.Consistent) (requests : List Request) :
    (∀ r ∈ requests, set.names.contains r.definition.name = false) ↔
      ∀ name ∈ requests.map (·.definition.name), set.get? name = none := by
  simp only [h.contains_eq_false_iff, List.forall_mem_map]

/-- The requests are all carried out just if none of their names is found. -/
theorem Proceeds.eq_none_iff (h : set.Consistent) (proceeds : Proceeds set requests outcome) :
    outcome.2 = none ↔ ∀ name ∈ requests.map (·.definition.name), set.get? name = none := by
  rw [← h.forall_contains_iff]
  cases proceeds with
  | finished new => exact iff_of_true rfl new
  | @stopped before behind r after split _ held =>
    refine iff_of_false (Option.some_ne_none _) fun new => ?_
    have notHeld := new r (by simp [split])
    rw [held] at notHeld
    cases notHeld

theorem Proceeds.definitions_of_none (proceeds : Proceeds set requests outcome)
    (success : outcome.2 = none) :
    outcome.1.definitions = set.definitions ++ requests.map Request.definition := by
  cases proceeds with
  | finished _ definitions => exact definitions
  | stopped => cases success

/-- Otherwise they stop at the first name that is found, and what comes before it is inserted. -/
theorem Proceeds.stopped_at (h : set.Consistent) (proceeds : Proceeds set requests outcome)
    (failure : outcome.2 ≠ none) :
    ∃ before name behind, requests.map (·.definition.name) = before ++ name :: behind ∧
      (∀ earlier ∈ before, set.get? earlier = none) ∧ (∃ d, set.get? name = some d) ∧
      outcome.2 = some (.duplicate name) ∧
      outcome.1.definitions =
        set.definitions ++ (requests.map Request.definition).take before.length := by
  cases proceeds with
  | finished => exact absurd rfl failure
  | @stopped before behind r after split new held definitions =>
    refine ⟨before.map (·.definition.name), r.definition.name, behind.map (·.definition.name),
      ?_, (h.forall_contains_iff before).mp new, h.contains_iff.mp held, rfl, ?_⟩
    · rw [split, List.map_append, List.map_cons]
    · rw [definitions, split, List.map_append, List.length_map]
      simp

/-- The definitions of a set stay in front. -/
theorem Proceeds.exists_added (proceeds : Proceeds set requests outcome) :
    ∃ added, outcome.1.definitions = set.definitions ++ added := by
  cases proceeds with
  | finished _ definitions => exact ⟨_, definitions⟩
  | stopped _ _ _ definitions => exact ⟨_, definitions⟩

/-- The set holds the first name that was asked for, whether it was held before or is inserted. -/
theorem Proceeds.holds_first {first : Request} {rest : List Request} (h : set.Consistent)
    (proceeds : Proceeds set (first :: rest) outcome) :
    first.definition.name ∈ outcome.1.definitions.map (·.name) := by
  cases proceeds with
  | finished _ definitions => simp [definitions]
  | @stopped before behind r after split _ held definitions =>
    rw [definitions, List.map_append, List.mem_append]
    cases before with
    | nil =>
      -- Refused at once, so that it was held before.
      cases split
      exact .inl ((h.indexed _).mp held)
    | cons earlier before =>
      cases split
      exact .inr (by simp)

/-- Requests of which the first is for a name that the set holds change nothing. -/
theorem submitAll_of_held {first : Request} {rest : List Request}
    (identifier : isIdentifier first.definition.name = true)
    (held : set.names.contains first.definition.name = true) :
    set.submitAll (first :: rest) = (set, some (.duplicate first.definition.name)) := by
  rw [submitAll, submit_of_held identifier held]

end

end DefinitionSet

/-- Where the definitions of a set stay in front, so does its header. -/
theorem render_of_added {set after : DefinitionSet} {added : List Definition}
    (definitions : after.definitions = set.definitions ++ added) :
    ∃ lines, after.render = set.render ++ lines := by
  refine ⟨String.join (added.map fun d => d.render ++ "\n"), ?_⟩
  rw [DefinitionSet.render, DefinitionSet.render, definitions, List.map_append]
  simp

end BuildHeader.Macro

namespace BuildHeader.Profile

open BuildHeader.Macro

/-! ## The three macros -/

/-- The names of the directory macros, in the order in which they are added. -/
def directoryMacros : List String :=
  DirectoryNames.feeds.map (·.1)

example : directoryMacros =
    ["ALUSUS_BIN_DIR_NAME", "ALUSUS_LIB_DIR_NAME", "ALUSUS_INCLUDE_DIR_NAME"] := rfl

/-- What adding directory macros does to a set.

* `succeeds`: it succeeds just if the set held none of the three names.
* `all`: then all three are appended, in their order and with their values.
* `stops`: otherwise the error has the first of the names that the set held, and just the macros
  before it are appended.
* `kept`, `text`: all that the set held stays in front, and so does its header.
* `consistent`: list and index stay in step, also half-way.
* `again`: a further call is refused for the first name, and changes nothing. -/
structure AddsDirectories (set : DefinitionSet) (names : DirectoryNames)
    (outcome : DefinitionSet × Option DefinitionError) : Prop where
  succeeds : outcome.2 = none ↔ ∀ name ∈ directoryMacros, set.get? name = none
  all : outcome.2 = none →
    outcome.1.definitions = set.definitions ++ fed DirectoryNames.feeds names
  stops : outcome.2 ≠ none → ∃ before name behind,
    directoryMacros = before ++ name :: behind ∧
      (∀ earlier ∈ before, set.get? earlier = none) ∧ (∃ d, set.get? name = some d) ∧
      outcome.2 = some (.duplicate name) ∧
      outcome.1.definitions =
        set.definitions ++ (fed DirectoryNames.feeds names).take before.length
  kept : set.definitions <+: outcome.1.definitions
  text : ∃ lines, outcome.1.render = set.render ++ lines
  consistent : outcome.1.Consistent
  again : ∀ others : DirectoryNames,
    others.addTo outcome.1 = (outcome.1, some (.duplicate "ALUSUS_BIN_DIR_NAME"))

theorem map_name_requests (names : DirectoryNames) :
    names.requests.map (·.definition.name) = directoryMacros := rfl

theorem identifiers_requests (names : DirectoryNames) :
    ∀ r ∈ names.requests, isIdentifier r.definition.name = true := by
  have identifiers : ∀ name ∈ directoryMacros, isIdentifier name = true := by decide
  intro r member
  refine identifiers _ ?_
  rw [← map_name_requests names]
  exact List.mem_map_of_mem member

theorem proceeds_addTo (set : DefinitionSet) (names : DirectoryNames) :
    DefinitionSet.Proceeds set names.requests (names.addTo set) := by
  have distinct : directoryMacros.Nodup := by decide
  exact DefinitionSet.proceeds_submitAll (identifiers_requests names) distinct

/-- A set that holds the first of the names refuses all three macros. -/
theorem addTo_of_held {set : DefinitionSet} (names : DirectoryNames)
    (held : set.names.contains "ALUSUS_BIN_DIR_NAME" = true) :
    names.addTo set = (set, some (.duplicate "ALUSUS_BIN_DIR_NAME")) :=
  DefinitionSet.submitAll_of_held (identifiers_requests names _ List.mem_cons_self) held

/-- Adding directory macros to a set, whatever a session did to the set before. -/
theorem addTo_addsDirectories (moves : List Move) (names : DirectoryNames) :
    AddsDirectories (setAfter moves) names (names.addTo (setAfter moves)) := by
  have before := consistent_setAfter moves
  have after : (names.addTo (setAfter moves)).1.Consistent :=
    consistent_perform before (.directories names)
  have proceeds := proceeds_addTo (setAfter moves) names
  obtain ⟨added, keeps⟩ := proceeds.exists_added
  constructor
  case succeeds => exact proceeds.eq_none_iff before
  case all => exact proceeds.definitions_of_none
  case stops => exact proceeds.stopped_at before
  case kept => exact ⟨added, keeps.symm⟩
  case text => exact render_of_added keeps
  case consistent => exact after
  case again =>
    intro others
    have first := (after.indexed _).mpr (proceeds.holds_first before)
    exact addTo_of_held others first

example : ((DirectoryNames.mk "bin" "lib" "include").addTo
    (setAfter [.call (.request (.flag "ALUSUS_LIB_DIR_NAME"))])).1.definitions =
      [⟨"ALUSUS_LIB_DIR_NAME", none⟩, ⟨"ALUSUS_BIN_DIR_NAME", some "bin"⟩] := by decide +kernel

end BuildHeader.Profile
