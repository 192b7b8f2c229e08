import BuildHeader.Profile

/-!
# The history of a set

A set is only ever changed by calls: one request, or the three requests of the directory names. A
call that fails leaves what it inserted before the failure. Whatever the calls were, the set and its
index of names stay in step.

Results:
1. `consistent_insert`, `consistent_submitAll`: an insertion keeps a set consistent, and so does a
   list of requests that stops at its first failure.
2. `consistent_afterCalls`: every set with a history is consistent.
3. `proceeds_submitAll`: requests for different identifiers stop at the first name that is held.
4. `submitAll_eq`: so new and distinct identifiers are all inserted, in order.
-/

namespace BuildHeader.Macro

/-- A name that none of these requests asks for is not the name of one of them. -/
theorem Request.name_ne_of_not_mem {name : String} {requests : List Request} {r : Request}
    (notAsked : name ∉ requests.map (·.definition.name)) (member : r ∈ requests) :
    r.definition.name ≠ name := by
  rintro rfl
  exact notAsked (List.mem_map_of_mem member)

/-! ## Consistent sets -/

/-- What holds of every set that has a history.

* `identifiers`: every name is an identifier.
* `distinct`: no name stands twice.
* `indexed`: the index holds the names of the definitions and no others. -/
structure DefinitionSet.Consistent (set : DefinitionSet) : Prop where
  identifiers : ∀ d ∈ set.definitions, isIdentifier d.name = true
  distinct : (set.definitions.map (·.name)).Nodup
  indexed : ∀ name, set.names.contains name = true ↔ name ∈ set.definitions.map (·.name)

namespace DefinitionSet

theorem consistent_empty : empty.Consistent where
  identifiers := by simp [empty]
  distinct := by simp [empty]
  indexed := by simp [empty]

/-- The index after an insertion holds the new name and what it held before. -/
theorem contains_insert_iff {names : Std.TreeSet String} {name other : String} :
    (names.insert name).contains other = true ↔ other = name ∨ names.contains other = true := by
  rw [Std.TreeSet.contains_insert, Bool.or_eq_true, beq_iff_eq, Std.LawfulEqCmp.compare_eq_iff_eq,
    @eq_comm _ name]

theorem contains_insert_of_ne {names : Std.TreeSet String} {name other : String}
    (differ : other ≠ name) : (names.insert name).contains other = names.contains other := by
  rw [Bool.eq_iff_iff, contains_insert_iff]
  exact or_iff_right differ

theorem consistent_insert {set after : DefinitionSet} {d : Definition} (h : set.Consistent)
    (inserted : set.insert d = .ok after) : after.Consistent := by
  obtain ⟨identifier, new, rfl⟩ := insert_eq_ok_iff.mp inserted
  have notIn : d.name ∉ set.definitions.map (·.name) := by
    rw [← h.indexed, new]
    exact Bool.false_ne_true
  refine ⟨?_, ?_, ?_⟩
  · intro other member
    rcases List.mem_append.mp member with old | added
    · exact h.identifiers other old
    · rw [List.mem_singleton.mp added]
      exact identifier
  · rw [List.map_append, List.nodup_append]
    refine ⟨h.distinct, by simp, ?_⟩
    rintro name old other added rfl
    simp only [List.map_cons, List.map_nil, List.mem_singleton] at added
    exact notIn (added ▸ old)
  · intro name
    rw [contains_insert_iff, h.indexed, or_comm]
    simp

theorem consistent_submitAll {set : DefinitionSet} {requests : List Request}
    (h : set.Consistent) : (set.submitAll requests).1.Consistent := by
  induction requests generalizing set with
  | nil => exact h
  | cons request rest ih =>
    rw [submitAll]
    split
    · next after submitted => exact ih (consistent_insert h submitted)
    · exact h

/-! ## One request -/

section
variable {set : DefinitionSet} {r : Request}

theorem submit_of_invalid (invalid : isIdentifier r.definition.name = false) :
    set.submit r = .error (.invalidName r.definition.name) :=
  insert_eq_invalidName_iff.mpr ⟨invalid, rfl⟩

theorem submit_of_held (identifier : isIdentifier r.definition.name = true)
    (held : set.names.contains r.definition.name = true) :
    set.submit r = .error (.duplicate r.definition.name) :=
  insert_eq_duplicate_iff.mpr ⟨identifier, held, rfl⟩

theorem submit_of_new (identifier : isIdentifier r.definition.name = true)
    (new : set.names.contains r.definition.name = false) :
    set.submit r =
      .ok ⟨set.definitions ++ [r.definition], set.names.insert r.definition.name⟩ :=
  insert_eq_ok_iff.mpr ⟨identifier, new, rfl⟩

end

/-! ## Requests for different names -/

/-- `Proceeds set requests outcome`: how far requests for different identifiers get.

* `finished`: the set held none of the names, and all definitions are appended, in order.
* `stopped`: the set held the name of `r` and of no request before it. What was asked for before `r`
  is appended and stays. -/
inductive Proceeds (set : DefinitionSet) (requests : List Request) :
    DefinitionSet × Option DefinitionError → Prop
  | finished {after : DefinitionSet} :
      (∀ r ∈ requests, set.names.contains r.definition.name = false) →
      after.definitions = set.definitions ++ requests.map Request.definition →
      Proceeds set requests (after, none)
  | stopped {before behind : List Request} {r : Request} {after : DefinitionSet} :
      requests = before ++ r :: behind →
      (∀ earlier ∈ before, set.names.contains earlier.definition.name = false) →
      set.names.contains r.definition.name = true →
      after.definitions = set.definitions ++ before.map Request.definition →
      Proceeds set requests (after, some (.duplicate r.definition.name))

/-- A request that is carried out stops none of those behind it, since their names differ from its
own. -/
theorem Proceeds.cons {set : DefinitionSet} {r : Request} {rest : List Request}
    {outcome : DefinitionSet × Option DefinitionError}
    (new : set.names.contains r.definition.name = false)
    (notLater : r.definition.name ∉ rest.map (·.definition.name))
    (proceeds : Proceeds
      ⟨set.definitions ++ [r.definition], set.names.insert r.definition.name⟩ rest outcome) :
    Proceeds set (r :: rest) outcome := by
  have same : ∀ later ∈ rest,
      (set.names.insert r.definition.name).contains later.definition.name =
        set.names.contains later.definition.name :=
    fun later member => contains_insert_of_ne (Request.name_ne_of_not_mem notLater member)
  cases proceeds with
  | finished others definitions =>
    refine .finished (List.forall_mem_cons.mpr ⟨new, ?_⟩) (by simpa using definitions)
    intro later member
    rw [← same later member]
    exact others later member
  | @stopped before behind s after split others held definitions =>
    subst split
    refine .stopped List.cons_append.symm (List.forall_mem_cons.mpr ⟨new, ?_⟩) ?_
      (by simpa using definitions)
    · intro later member
      rw [← same later (List.mem_append_left _ member)]
      exact others later member
    · rw [← same s (by simp)]
      exact held

/-- Every list of requests for different identifiers gets as far as the names in the set let it. The
induction is on the requests, for any set to start with. -/
theorem proceeds_submitAll {set : DefinitionSet} {requests : List Request}
    (identifiers : ∀ r ∈ requests, isIdentifier r.definition.name = true)
    (distinct : (requests.map (·.definition.name)).Nodup) :
    Proceeds set requests (set.submitAll requests) := by
  induction requests generalizing set with
  | nil => exact .finished (by simp) (by simp)
  | cons r rest ih =>
    have identifier := identifiers r List.mem_cons_self
    obtain ⟨notLater, laterDistinct⟩ := List.nodup_cons.mp distinct
    cases held : set.names.contains r.definition.name with
    | true =>
      rw [submitAll, submit_of_held identifier held]
      exact .stopped (List.nil_append _).symm (by simp) held (by simp)
    | false =>
      rw [submitAll, submit_of_new identifier held]
      have laterIdentifiers : ∀ later ∈ rest, isIdentifier later.definition.name = true :=
        fun later member => identifiers later (List.mem_cons_of_mem _ member)
      exact (ih laterIdentifiers laterDistinct).cons held notLater

/-- Identifiers that are distinct from each other and from the names of a set are all inserted, in
their order. -/
theorem submitAll_eq {set : DefinitionSet} {requests : List Request} (h : set.Consistent)
    (identifiers : ∀ r ∈ requests, isIdentifier r.definition.name = true)
    (distinct : (set.definitions.map (·.name) ++ requests.map (·.definition.name)).Nodup) :
    (set.submitAll requests).2 = none ∧
      (set.submitAll requests).1.definitions =
        set.definitions ++ requests.map Request.definition := by
  have proceeds : Proceeds set requests (set.submitAll requests) :=
    proceeds_submitAll identifiers (List.nodup_append.mp distinct).2.1
  generalize set.submitAll requests = outcome at proceeds
  cases proceeds with
  | finished _ definitions => exact ⟨rfl, definitions⟩
  | stopped split _ held =>
    have old := (h.indexed _).mp held
    exact absurd rfl ((List.nodup_append.mp distinct).2.2 _ old _ (by simp [split]))

end DefinitionSet

end BuildHeader.Macro

/-! ## Calls -/

namespace BuildHeader.Profile

open BuildHeader.Macro

/-- What can be called on a set: one request, or the directory names. -/
inductive Call
  | request (r : Request)
  | directories (names : DirectoryNames)
deriving DecidableEq, Repr

/-- Carries out a call: the set afterwards, and the error if the call fails. -/
def Call.perform (set : DefinitionSet) : Call → DefinitionSet × Option DefinitionError
  | .request r => set.submitAll [r]
  | .directories names => names.addTo set

/-- The set after calls, of which any may fail. -/
def afterCalls (set : DefinitionSet) (calls : List Call) : DefinitionSet :=
  calls.foldl (fun set call => (call.perform set).1) set

theorem consistent_perform {set : DefinitionSet} (h : set.Consistent) (call : Call) :
    (call.perform set).1.Consistent := by
  cases call with
  | request r => exact DefinitionSet.consistent_submitAll h
  | directories names => exact DefinitionSet.consistent_submitAll h

theorem consistent_afterCalls {set : DefinitionSet} (h : set.Consistent) (calls : List Call) :
    (afterCalls set calls).Consistent := by
  induction calls generalizing set with
  | nil => exact h
  | cons call rest ih => exact ih (consistent_perform h call)

end BuildHeader.Profile
