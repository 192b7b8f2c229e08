import BuildHeader.Proofs.SetSessions

/-!
# The result of a history of requests

Requests are carried out one after the other, and one that fails does not stop the others. What
they come to can be told from the requests alone: of every name that is an identifier the first
definition asked for, in the order of the requests.

Results:
1. `definitions_afterRequests`: the list of definitions at the end.
2. `accepted_afterRequests`, `length_acceptedOf`: it holds what was answered without an error.
3. `get?_afterRequests`: the definition found under a name is the first one asked for.
4. `history_eq`: all of this for a set that was empty.
-/

namespace BuildHeader.Profile

open BuildHeader.Macro

/-! ## Definitions -/

/-- The set after requests that were carried out in order, whether they failed or not. -/
def afterRequests (set : DefinitionSet) (requests : List Request) : DefinitionSet :=
  afterCalls set (requests.map Call.request)

/-- The answers to these requests: the error of each that fails. -/
def answersTo (set : DefinitionSet) : List Request → List (Option DefinitionError)
  | [] => []
  | r :: rest =>
    ((Call.request r).perform set).2 :: answersTo ((Call.request r).perform set).1 rest

/-- Two definitions of one name. -/
def sameName (d other : Definition) : Bool :=
  d.name == other.name

/-- The definitions asked for under an identifier, of each name the first, in order. -/
def firstOfEachName (requests : List Request) : List Definition :=
  ((requests.map Request.definition).filter (isIdentifier ·.name)).eraseDupsBy sameName

/-- The first definition asked for under a name, if it is an identifier. -/
def firstOf? (requests : List Request) (name : String) : Option Definition :=
  if isIdentifier name then (requests.map Request.definition).find? (·.name == name) else none

/-- The definitions whose request was answered without an error, in order. -/
def acceptedOf (set : DefinitionSet) (requests : List Request) : List Definition :=
  ((requests.zip (answersTo set requests)).filter (·.2.isNone)).map (·.1.definition)

/-! ## The list of definitions -/

theorem afterRequests_cons (set : DefinitionSet) (r : Request) (rest : List Request) :
    afterRequests set (r :: rest) = afterRequests ((Call.request r).perform set).1 rest := rfl

theorem afterRequests_append (set : DefinitionSet) (requests later : List Request) :
    afterRequests set (requests ++ later) = afterRequests (afterRequests set requests) later := by
  simp [afterRequests, afterCalls]

theorem consistent_afterRequests {set : DefinitionSet} (h : set.Consistent)
    (requests : List Request) : (afterRequests set requests).Consistent :=
  consistent_afterCalls h _

/-- A new name counts from now on as one that the index holds. -/
theorem filter_new {names : Std.TreeSet String} {d : Definition} (rest : List Definition) :
    (rest.filter fun other => isIdentifier other.name && !names.contains other.name).filter
        (fun other => decide (sameName other d = false)) =
      rest.filter fun other =>
        isIdentifier other.name && !(names.insert d.name).contains other.name := by
  rw [List.filter_filter]
  refine List.filter_congr fun other _ => ?_
  have held : (names.insert d.name).contains other.name =
      (sameName other d || names.contains other.name) := by
    rw [Bool.eq_iff_iff, DefinitionSet.contains_insert_iff]
    simp [sameName]
  rw [held]
  cases sameName other d <;> simp

/-- The induction is on the requests, for any set to start with: what the set holds already is
left out of the definitions that are added. -/
theorem definitions_afterRequests (set : DefinitionSet) (requests : List Request) :
    (afterRequests set requests).definitions = set.definitions ++
      ((requests.map Request.definition).filter fun d =>
        isIdentifier d.name && !set.names.contains d.name).eraseDupsBy sameName := by
  induction requests generalizing set with
  | nil => simp [afterRequests, afterCalls]
  | cons r rest ih =>
    have answer := answers_perform set r
    rw [afterRequests_cons, ih, List.map_cons]
    generalize (Call.request r).perform set = outcome at answer
    cases answer with
    | invalid identifier => simp [identifier]
    | duplicate identifier held => simp [held]
    | accepted identifier new =>
      rw [List.filter_cons_of_pos (by simp [identifier, new]), List.eraseDupsBy_cons, filter_new]
      simp

theorem accepted_afterRequests (set : DefinitionSet) (requests : List Request) :
    (afterRequests set requests).definitions = set.definitions ++ acceptedOf set requests := by
  induction requests generalizing set with
  | nil => simp [afterRequests, afterCalls, acceptedOf]
  | cons r rest ih =>
    have answer := answers_perform set r
    rw [afterRequests_cons, ih, acceptedOf, acceptedOf, answersTo, List.zip_cons_cons]
    generalize (Call.request r).perform set = outcome at answer
    cases answer with
    | invalid | duplicate => simp
    | accepted => simp

theorem length_acceptedOf (set : DefinitionSet) (requests : List Request) :
    (acceptedOf set requests).length = (answersTo set requests).count none := by
  induction requests generalizing set with
  | nil => rfl
  | cons r rest ih =>
    rw [answersTo, List.count_cons, ← ih, acceptedOf, acceptedOf, answersTo, List.zip_cons_cons]
    cases ((Call.request r).perform set).2 <;> simp

/-! ## Looking a name up -/

theorem firstOf?_cons (r : Request) (rest : List Request) (name : String) :
    firstOf? (r :: rest) name = (firstOf? [r] name).or (firstOf? rest name) := by
  unfold firstOf?
  split
  · rw [← List.find?_append, ← List.map_append, List.singleton_append]
  · rfl

/-- One request: what is found under a name stays, and nothing else than the definition asked for
can be found anew. -/
theorem get?_perform {set : DefinitionSet} (h : set.Consistent) (r : Request) (name : String) :
    ((Call.request r).perform set).1.get? name = (set.get? name).or (firstOf? [r] name) := by
  have answer := answers_perform set r
  generalize (Call.request r).perform set = outcome at answer
  by_cases asked : r.definition.name = name
  · subst asked
    cases answer with
    | invalid identifier => simp [firstOf?, identifier]
    | duplicate _ held =>
      obtain ⟨d, found⟩ := h.contains_iff.mp held
      simp [found]
    | accepted identifier => simp [firstOf?, identifier, DefinitionSet.get?, List.find?_append]
  · have other : firstOf? [r] name = none := by simp [firstOf?, asked]
    cases answer with
    | invalid | duplicate => simp [other]
    | accepted => simp [other, asked, DefinitionSet.get?, List.find?_append]

theorem get?_afterRequests {set : DefinitionSet} (h : set.Consistent) (requests : List Request)
    (name : String) :
    (afterRequests set requests).get? name = (set.get? name).or (firstOf? requests name) := by
  induction requests generalizing set with
  | nil => simp [afterRequests, afterCalls, firstOf?]
  | cons r rest ih =>
    rw [afterRequests_cons, ih (consistent_perform h (.request r)), get?_perform h,
      firstOf?_cons r rest, Option.or_assoc]

/-! ## An empty set -/

theorem asksFor_definitions (requests : List Request) :
    List.Forall₂ AsksFor requests (requests.map Request.definition) := by
  rw [List.forall₂_map_right_iff, List.forall₂_same]
  exact fun r _ => asksFor_iff.mpr rfl

/-- What requests come to on an empty set, told from the requests alone, each by the name and the
value that it asks for. The set holds what was answered without an error, nothing else and in that
order. Later requests can only add to what is found under a name. -/
theorem history_eq (requests : List Request) :
    List.Forall₂ AsksFor requests (requests.map Request.definition) ∧
      (afterRequests .empty requests).definitions = firstOfEachName requests ∧
      (afterRequests .empty requests).definitions = acceptedOf .empty requests ∧
      (afterRequests .empty requests).size = (answersTo .empty requests).count none ∧
      ∀ name, (afterRequests .empty requests).get? name = firstOf? requests name ∧
        ∀ later, (afterRequests .empty (requests ++ later)).get? name =
          ((afterRequests .empty requests).get? name).or (firstOf? later name) := by
  have consistent := DefinitionSet.consistent_empty
  have accepted : (afterRequests .empty requests).definitions = acceptedOf .empty requests :=
    accepted_afterRequests .empty requests
  refine ⟨asksFor_definitions requests, ?_, accepted, ?_,
    fun name => ⟨get?_afterRequests consistent requests name, ?_⟩⟩
  · rw [definitions_afterRequests, firstOfEachName]
    simp [DefinitionSet.empty]
  · rw [DefinitionSet.size, accepted, length_acceptedOf]
  · intro later
    rw [afterRequests_append, get?_afterRequests (consistent_afterRequests consistent requests)]

example : firstOfEachName
    [.define "X_LOWER" "a", .defineLower "X" "B", .flag "1X", .flag "X", .define "X" "c"] =
      [⟨"X_LOWER", some "a"⟩, ⟨"X", none⟩] := by cbv

end BuildHeader.Profile
