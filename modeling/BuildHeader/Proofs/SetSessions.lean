import Mathlib.Data.List.Nodup
import BuildHeader.Proofs.SetHistory

/-!
# Sessions with a set

A program does more with a set than call it: it starts over with an empty one, keeps copies, and
goes back to a copy. A session is any such use. What one request does to a set that has a history
is told once, by cases, and everything about sessions follows from it.

Results:
1. `isIdentifier_iff`: the identifiers are the texts that `[A-Za-z_][A-Za-z0-9_]*` matches.
2. `asksFor_iff`: the name and the value that a request asks for.
3. `answers_perform`: what a request does to a set.
4. `Answers.decides`: hence which requests to a consistent set fail, with which error, and what they
   leave.
5. `allConsistent_afterMoves`: every set that a session holds is consistent.
6. `session_decides`: both together, for the set at the end of a session.
-/

namespace BuildHeader.Macro

/-! ## The form of a name -/

/-- A letter of ASCII or an underscore: `[A-Za-z_]`. -/
def IsLetter (c : Char) : Prop :=
  ('A' ≤ c ∧ c ≤ 'Z') ∨ ('a' ≤ c ∧ c ≤ 'z') ∨ c = '_'

/-- The text is matched by `[A-Za-z_][A-Za-z0-9_]*`. -/
def MatchesName (name : String) : Prop :=
  ∃ first rest, name.toList = first :: rest ∧ IsLetter first ∧
    ∀ c ∈ rest, IsLetter c ∨ ('0' ≤ c ∧ c ≤ '9')

theorem isNameStart_iff {c : Char} : isNameStart c = true ↔ IsLetter c := by
  have alpha : c.isAlpha = (decide ('A' ≤ c ∧ c ≤ 'Z') ||
      (decide ('a' ≤ c) && decide (c ≤ 'z'))) := rfl
  simp only [isNameStart, IsLetter, alpha, Bool.or_eq_true, Bool.and_eq_true, decide_eq_true_eq,
    beq_iff_eq, or_assoc]

theorem isNameChar_iff {c : Char} : isNameChar c = true ↔ IsLetter c ∨ ('0' ≤ c ∧ c ≤ '9') := by
  have alphanum : c.isAlphanum = (c.isAlpha || (decide ('0' ≤ c) && decide (c ≤ '9'))) := rfl
  rw [← isNameStart_iff, isNameChar, isNameStart, alphanum]
  simp only [Bool.or_eq_true, Bool.and_eq_true, decide_eq_true_eq]
  exact or_right_comm

theorem isIdentifier_iff {name : String} : isIdentifier name = true ↔ MatchesName name := by
  unfold isIdentifier MatchesName
  split
  · next empty => simp [empty]
  · next first rest shape =>
    simp only [shape, Bool.and_eq_true, List.all_eq_true, isNameStart_iff, isNameChar_iff]
    constructor
    · rintro ⟨start, others⟩
      exact ⟨first, rest, rfl, start, others⟩
    · rintro ⟨first', rest', same, start, others⟩
      cases same
      exact ⟨start, others⟩

/-! ## Looking a name up -/

namespace DefinitionSet

/-- What is found is the one definition of that name. -/
theorem Consistent.get?_eq_some_iff {set : DefinitionSet} (h : set.Consistent) {name : String}
    {d : Definition} : set.get? name = some d ↔ d ∈ set.definitions ∧ d.name = name := by
  constructor
  · intro found
    exact ⟨List.mem_of_find?_eq_some found, by simpa using List.find?_some found⟩
  · rintro ⟨member, rfl⟩
    have some : (set.definitions.find? (·.name == d.name)).isSome := by
      simpa using ⟨d, member, rfl⟩
    obtain ⟨other, found⟩ := Option.isSome_iff_exists.mp some
    have sameName : other.name = d.name := by simpa using List.find?_some found
    have same := List.inj_on_of_nodup_map h.distinct (List.mem_of_find?_eq_some found) member sameName
    rw [get?, found, same]

/-- The index holds a name just if the name is found. -/
theorem Consistent.contains_iff {set : DefinitionSet} (h : set.Consistent) {name : String} :
    set.names.contains name = true ↔ ∃ d, set.get? name = some d := by
  rw [h.indexed, List.mem_map]
  exact exists_congr fun d => h.get?_eq_some_iff.symm

/-- The index lacks a name just if nothing is found under it. -/
theorem Consistent.contains_eq_false_iff {set : DefinitionSet} (h : set.Consistent)
    {name : String} : set.names.contains name = false ↔ set.get? name = none := by
  rw [← Bool.not_eq_true, h.contains_iff, Option.eq_none_iff_forall_ne_some, not_exists]

end DefinitionSet

end BuildHeader.Macro

namespace BuildHeader.Profile

open BuildHeader.Macro

/-! ## One request -/

/-- `AsksFor r d`: the definition that a request asks for, by its name and its value.

* `define`: the name and the value as they are given.
* `defineLower`: the name with `_LOWER` behind it, and the value in small letters.
* `flag`: the name alone. -/
inductive AsksFor : Request → Definition → Prop
  | define {name value : String} : AsksFor (.define name value) ⟨name, some value⟩
  | defineLower {name value : String} :
      AsksFor (.defineLower name value) ⟨name ++ "_LOWER", some (Text.lowercase value)⟩
  | flag {name : String} : AsksFor (.flag name) ⟨name, none⟩

theorem asksFor_iff {r : Request} {d : Definition} : AsksFor r d ↔ r.definition = d := by
  constructor
  · intro asks
    cases asks <;> rfl
  · rintro rfl
    cases r with
    | define => exact .define
    | defineLower => exact .defineLower
    | flag => exact .flag

/-- `Answers set r outcome`: what a request can do to a set.

* `invalid`: the name asked for is no identifier; the set stays as it is.
* `duplicate`: the set holds the name; it stays as it is.
* `accepted`: the definition goes to the end of the list, and its name into the index. -/
inductive Answers (set : DefinitionSet) (r : Request) :
    DefinitionSet × Option DefinitionError → Prop
  | invalid : isIdentifier r.definition.name = false →
      Answers set r (set, some (.invalidName r.definition.name))
  | duplicate : isIdentifier r.definition.name = true →
      set.names.contains r.definition.name = true →
      Answers set r (set, some (.duplicate r.definition.name))
  | accepted : isIdentifier r.definition.name = true →
      set.names.contains r.definition.name = false →
      Answers set r
        (⟨set.definitions ++ [r.definition], set.names.insert r.definition.name⟩, none)

/-- Every request does one of these things. -/
theorem answers_perform (set : DefinitionSet) (r : Request) :
    Answers set r ((Call.request r).perform set) := by
  rw [Call.perform, DefinitionSet.submitAll]
  cases identifier : isIdentifier r.definition.name with
  | false =>
    rw [DefinitionSet.submit_of_invalid identifier]
    exact .invalid identifier
  | true =>
    cases held : set.names.contains r.definition.name with
    | false =>
      rw [DefinitionSet.submit_of_new identifier held]
      exact .accepted identifier held
    | true =>
      rw [DefinitionSet.submit_of_held identifier held]
      exact .duplicate identifier held

/-- The answer of a set to one request: its error, if it fails. -/
def answerOf (set : DefinitionSet) (r : Request) : Option DefinitionError :=
  ((Call.request r).perform set).2

/-- How a set decides on a request, in terms of the form of the name and of what `get?` finds.

* `invalid`, `duplicate`: when it fails, and with which error.
* `accepted`: otherwise the definition asked for is the one new one, and the last.
* `kept`: a request that fails changes neither the list nor the index. -/
structure Decides (set : DefinitionSet) (r : Request)
    (outcome : DefinitionSet × Option DefinitionError) : Prop where
  invalid : outcome.2 = some (.invalidName r.definition.name) ↔ ¬ MatchesName r.definition.name
  duplicate : outcome.2 = some (.duplicate r.definition.name) ↔
    MatchesName r.definition.name ∧ ∃ d, set.get? r.definition.name = some d
  accepted : MatchesName r.definition.name → set.get? r.definition.name = none →
    outcome.2 = none ∧ outcome.1.definitions = set.definitions ++ [r.definition]
  kept : outcome.2 ≠ none → outcome.1 = set

/-- A consistent set finds just the names in its index, so that the index decides as `get?` does. -/
theorem Answers.decides {set : DefinitionSet} {r : Request}
    {outcome : DefinitionSet × Option DefinitionError} (h : set.Consistent)
    (answer : Answers set r outcome) : Decides set r outcome := by
  constructor
  · rw [← isIdentifier_iff]
    cases answer with
    | invalid identifier => simp [identifier]
    | duplicate identifier => simp [identifier]
    | accepted identifier => simp [identifier]
  · rw [← isIdentifier_iff, ← h.contains_iff]
    cases answer with
    | invalid identifier => simp [identifier]
    | duplicate identifier held => simp [identifier, held]
    | accepted identifier new => simp [new]
  · rw [← isIdentifier_iff, ← h.contains_eq_false_iff]
    intro identifier new
    cases answer with
    | invalid notIdentifier => simp [notIdentifier] at identifier
    | duplicate _ held => simp [held] at new
    | accepted => exact ⟨rfl, rfl⟩
  · intro failed
    cases answer with
    | invalid => rfl
    | duplicate => rfl
    | accepted => exact absurd rfl failed

/-! ## Sessions -/

/-- The set in use, and the copies that were kept of it, the latest first. -/
structure Session where
  current : DefinitionSet
  copies : List DefinitionSet

/-- What a program does with a set.

* `call`: it calls the set in use.
* `fresh`: it goes on with an empty set.
* `copy`: it keeps a copy of the set in use.
* `restore`: it goes on with one of the copies, if there are so many. -/
inductive Move
  | call (call : Call)
  | fresh
  | copy
  | restore (index : Nat)

/-- The session that starts with an empty set. -/
def Session.start : Session :=
  ⟨.empty, []⟩

/-- The session after a move. -/
def Session.move (session : Session) : Move → Session
  | .call call => { session with current := (call.perform session.current).1 }
  | .fresh => { session with current := .empty }
  | .copy => { session with copies := session.current :: session.copies }
  | .restore index => { session with current := session.copies.getD index session.current }

/-- The session after moves. -/
def Session.afterMoves (session : Session) (moves : List Move) : Session :=
  moves.foldl Session.move session

/-- Every set that the session holds is consistent. -/
def Session.AllConsistent (session : Session) : Prop :=
  ∀ set ∈ session.current :: session.copies, set.Consistent

theorem allConsistent_move {session : Session} (h : session.AllConsistent) (move : Move) :
    (session.move move).AllConsistent := by
  have current : session.current.Consistent := h _ List.mem_cons_self
  have copies : ∀ set ∈ session.copies, set.Consistent :=
    fun set member => h set (List.mem_cons_of_mem _ member)
  cases move with
  | call call => exact List.forall_mem_cons.mpr ⟨consistent_perform current call, copies⟩
  | fresh => exact List.forall_mem_cons.mpr ⟨DefinitionSet.consistent_empty, copies⟩
  | copy => exact List.forall_mem_cons.mpr ⟨current, h⟩
  | restore index =>
    refine List.forall_mem_cons.mpr ⟨?_, copies⟩
    show (session.copies.getD index session.current).Consistent
    rw [List.getD_eq_getElem?_getD]
    cases kept : session.copies[index]? with
    | none => exact current
    | some set => exact copies set (List.mem_of_getElem? kept)

/-- The induction is on the moves: the copies are consistent as well, so that going back to one
keeps the invariant. -/
theorem allConsistent_afterMoves {session : Session} (h : session.AllConsistent)
    (moves : List Move) : (session.afterMoves moves).AllConsistent := by
  induction moves generalizing session with
  | nil => exact h
  | cons move rest ih => exact ih (allConsistent_move h move)

/-- The set in use after moves, of which the first starts with an empty set. -/
def setAfter (moves : List Move) : DefinitionSet :=
  (Session.start.afterMoves moves).current

theorem consistent_setAfter (moves : List Move) : (setAfter moves).Consistent := by
  have start : Session.start.AllConsistent := by
    intro set member
    rw [List.mem_singleton.mp member]
    exact DefinitionSet.consistent_empty
  exact allConsistent_afterMoves start moves _ List.mem_cons_self

/-- Whatever a session did, every name of its set has the form of a name, none stands twice, the
index holds just the names in the list, and these decide on every request, by the name and the value
that it asks for. -/
theorem session_decides (moves : List Move) :
    (∀ d ∈ (setAfter moves).definitions, MatchesName d.name) ∧
      ((setAfter moves).definitions.map (·.name)).Nodup ∧
      (∀ name, (setAfter moves).names.contains name = true ↔
        name ∈ (setAfter moves).definitions.map (·.name)) ∧
      ∀ r, AsksFor r r.definition ∧
        Decides (setAfter moves) r ((Call.request r).perform (setAfter moves)) := by
  have consistent := consistent_setAfter moves
  refine ⟨?_, consistent.distinct, consistent.indexed, fun r => ?_⟩
  · intro d member
    exact isIdentifier_iff.mp (consistent.identifiers d member)
  · exact ⟨asksFor_iff.mpr rfl, (answers_perform (setAfter moves) r).decides consistent⟩

end BuildHeader.Profile
