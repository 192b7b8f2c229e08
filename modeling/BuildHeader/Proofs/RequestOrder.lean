import BuildHeader.Proofs.HeaderReading
import BuildHeader.Proofs.RequestHistory

/-!
# The order of requests

Requests for different names do not see each other: what a set answers to one of them depends on the
set and on that request, and on none of the others. So they can be made in any order. Each is
answered alike, the same is found under every name, and only the order of the lines differs.

Results:
1. `answerOf_eq`: an answer is told by the name and the index.
2. `answerOf_perform`: a request does not change the answer to one for another name.
3. `answersTo_eq_map`: requests for different names are answered as if each were the first.
4. `definitions_eq_filter`: the definitions they add are told request by request.
5. `requests_commute`: both orders of a list, on any set that a session holds.
-/

namespace BuildHeader.Profile

open BuildHeader.Macro

/-! ## Definitions -/

/-- Requests in two orders come to the same on a set.

* `answers`, `otherAnswers`: in both, every request is answered as the set itself answers it.
* `found`: the same is found under every name.
* `definitions`: the sets hold the same definitions, each as often.
* `lines`: so do the headers hold the same lines. -/
structure SameUpToOrder (set : DefinitionSet) (requests others : List Request) : Prop where
  answers : answersTo set requests = requests.map (answerOf set)
  otherAnswers : answersTo set others = others.map (answerOf set)
  found : ∀ name, (afterRequests set requests).get? name = (afterRequests set others).get? name
  definitions : (afterRequests set requests).definitions.Perm (afterRequests set others).definitions
  lines : (linesOf (afterRequests set requests).render).Perm
    (linesOf (afterRequests set others).render)

/-! ## One request behind another -/

/-- The answer is told by the form of the name and by its place in the index. -/
theorem answerOf_eq (set : DefinitionSet) (r : Request) :
    answerOf set r =
      if isIdentifier r.definition.name = false then some (.invalidName r.definition.name)
      else if set.names.contains r.definition.name then some (.duplicate r.definition.name)
      else none := by
  have answer := answers_perform set r
  unfold answerOf
  generalize (Call.request r).perform set = outcome at answer
  cases answer with
  | invalid identifier => simp [identifier]
  | duplicate identifier held => simp [identifier, held]
  | accepted identifier new => simp [identifier, new]

/-- A request changes the index in the place of its own name at most. -/
theorem contains_perform_of_ne {set : DefinitionSet} {r : Request} {name : String}
    (differ : name ≠ r.definition.name) :
    ((Call.request r).perform set).1.names.contains name = set.names.contains name := by
  have answer := answers_perform set r
  generalize (Call.request r).perform set = outcome at answer
  cases answer with
  | invalid | duplicate => rfl
  | accepted => exact DefinitionSet.contains_insert_of_ne differ

/-- A request, whether it fails or not, does not change the answer to one for another name. -/
theorem answerOf_perform {set : DefinitionSet} {r other : Request}
    (differ : other.definition.name ≠ r.definition.name) :
    answerOf ((Call.request r).perform set).1 other = answerOf set other := by
  rw [answerOf_eq, answerOf_eq, contains_perform_of_ne differ]

/-! ## Lists of requests -/

/-- Requests for different names are answered as if each were the first. The induction is on the
requests, for any set to start with. -/
theorem answersTo_eq_map {set : DefinitionSet} {requests : List Request}
    (distinct : (requests.map (·.definition.name)).Nodup) :
    answersTo set requests = requests.map (answerOf set) := by
  induction requests generalizing set with
  | nil => rfl
  | cons r rest ih =>
    obtain ⟨notLater, laterDistinct⟩ := List.nodup_cons.mp distinct
    have unseen : ∀ later ∈ rest,
        answerOf ((Call.request r).perform set).1 later = answerOf set later :=
      fun later member => answerOf_perform (Request.name_ne_of_not_mem notLater member)
    rw [answersTo, ih laterDistinct, List.map_cons, List.map_congr_left unseen]
    rfl

/-- What requests for different names add to a set: the definition of each that the set itself does
not refuse. -/
theorem definitions_eq_filter {set : DefinitionSet} {requests : List Request}
    (distinct : (requests.map (·.definition.name)).Nodup) :
    (afterRequests set requests).definitions = set.definitions ++
      (requests.filter fun r => (answerOf set r).isNone).map Request.definition := by
  rw [accepted_afterRequests, acceptedOf, answersTo_eq_map distinct, ← List.map_prod_left_eq_zip,
    List.filter_map, List.map_map]
  rfl

/-- Consistent sets with the same definitions, in whatever order, find the same. -/
theorem get?_eq_of_perm {set other : DefinitionSet} (h : set.Consistent)
    (hOther : other.Consistent) (order : set.definitions.Perm other.definitions) (name : String) :
    set.get? name = other.get? name := by
  ext d
  rw [h.get?_eq_some_iff, hOther.get?_eq_some_iff, order.mem_iff]

/-- Requests for different names come to the same in every order, on a consistent set. -/
theorem sameUpToOrder_of_perm {set : DefinitionSet} {requests others : List Request}
    (h : set.Consistent) (distinct : (requests.map (·.definition.name)).Nodup)
    (order : requests.Perm others) : SameUpToOrder set requests others := by
  have otherDistinct : (others.map (·.definition.name)).Nodup :=
    (order.map _).nodup_iff.mp distinct
  have first := consistent_afterRequests h requests
  have second := consistent_afterRequests h others
  have definitions : (afterRequests set requests).definitions.Perm
      (afterRequests set others).definitions := by
    rw [definitions_eq_filter distinct, definitions_eq_filter otherDistinct]
    exact ((order.filter _).map _).append_left _
  constructor
  case answers => exact answersTo_eq_map distinct
  case otherAnswers => exact answersTo_eq_map otherDistinct
  case found => exact get?_eq_of_perm first second definitions
  case definitions => exact definitions
  case lines =>
    rw [linesOf_render first, linesOf_render second]
    exact definitions.map _

/-- Requests for different names come to the same in every order, whatever a session did to the set
before. -/
theorem requests_commute (moves : List Move) {requests others : List Request}
    (distinct : (requests.map (·.definition.name)).Nodup) (order : requests.Perm others) :
    SameUpToOrder (setAfter moves) requests others :=
  sameUpToOrder_of_perm (consistent_setAfter moves) distinct order

/-- The set holds the name that the first request asks for, and the last one asks for no name. -/
theorem requests_commute_reversed :
    ([Request.defineLower "X" "B", .flag "X", .define "1X" "c"].map
        (·.definition.name)).Nodup ∧
      [Request.defineLower "X" "B", .flag "X", .define "1X" "c"].Perm
        [.define "1X" "c", .flag "X", .defineLower "X" "B"] ∧
      SameUpToOrder (setAfter [.call (.request (.define "X_LOWER" "a"))])
        [.defineLower "X" "B", .flag "X", .define "1X" "c"]
        [.define "1X" "c", .flag "X", .defineLower "X" "B"] := by
  have distinct : ([Request.defineLower "X" "B", .flag "X", .define "1X" "c"].map
      (·.definition.name)).Nodup := by decide
  have order : [Request.defineLower "X" "B", .flag "X", .define "1X" "c"].Perm
      [.define "1X" "c", .flag "X", .defineLower "X" "B"] :=
    (List.reverse_perm _).symm
  exact ⟨distinct, order, requests_commute _ distinct order⟩

end BuildHeader.Profile
