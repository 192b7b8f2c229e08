import Std.Data.TreeSet
import BuildHeader.Macro.Definition
import BuildHeader.Text.Legible

/-!
# Sets of definitions

A set keeps its definitions in the order of insertion and an index of their names. A name enters
it once, and only if it is an identifier: the first of these two faults that a name has is the
one reported.
-/

namespace BuildHeader.Macro

/-! ## Definitions -/

/-- Why a definition is not inserted.

* `invalidName`: the name is not an identifier.
* `duplicate`: the set holds a definition of that name. -/
inductive DefinitionError
  | invalidName (name : String)
  | duplicate (name : String)
deriving DecidableEq, Repr

/-- The text shown to the user. A rejected name may hold any character, so it is shown in its
legible form; a duplicate one is an identifier and is shown as it is. -/
def DefinitionError.message : DefinitionError → String
  | .invalidName name => "invalid macro name " ++ Text.legible name
  | .duplicate name => "macro " ++ name ++ " is defined more than once"

/-- Definitions in the order of insertion, and the names among them. -/
structure DefinitionSet where
  definitions : List Definition
  names : Std.TreeSet String

namespace DefinitionSet

/-- The set without definitions. -/
def empty : DefinitionSet :=
  ⟨[], ∅⟩

/-- Appends a definition, or says why it cannot stand in the set. -/
def insert (set : DefinitionSet) (d : Definition) : Except DefinitionError DefinitionSet :=
  if !isIdentifier d.name then .error (.invalidName d.name)
  else if set.names.contains d.name then .error (.duplicate d.name)
  else .ok ⟨set.definitions ++ [d], set.names.insert d.name⟩

/-- The number of definitions. -/
def size (set : DefinitionSet) : Nat :=
  set.definitions.length

/-- The set holds no definition. -/
def isEmpty (set : DefinitionSet) : Bool :=
  set.definitions.isEmpty

/-- The definition of a name. -/
def get? (set : DefinitionSet) (name : String) : Option Definition :=
  set.definitions.find? (·.name == name)

/-- The header: every directive on a line of its own. -/
def render (set : DefinitionSet) : String :=
  String.join (set.definitions.map fun d => d.render ++ "\n")

end DefinitionSet

/-! ## Lemmas -/

namespace DefinitionSet

theorem insert_eq_invalidName_iff {set : DefinitionSet} {d : Definition} {name : String} :
    set.insert d = .error (.invalidName name) ↔ isIdentifier d.name = false ∧ d.name = name := by
  unfold insert
  cases isIdentifier d.name <;> cases set.names.contains d.name <;> simp

theorem insert_eq_duplicate_iff {set : DefinitionSet} {d : Definition} {name : String} :
    set.insert d = .error (.duplicate name) ↔
      isIdentifier d.name = true ∧ set.names.contains d.name = true ∧ d.name = name := by
  unfold insert
  cases isIdentifier d.name <;> cases set.names.contains d.name <;> simp

theorem insert_eq_ok_iff {set after : DefinitionSet} {d : Definition} :
    set.insert d = .ok after ↔
      isIdentifier d.name = true ∧ set.names.contains d.name = false ∧
        after = ⟨set.definitions ++ [d], set.names.insert d.name⟩ := by
  unfold insert
  cases isIdentifier d.name <;> cases set.names.contains d.name <;> simp [eq_comm]

end DefinitionSet

end BuildHeader.Macro
