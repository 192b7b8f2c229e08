import BuildHeader.Macro.DefinitionSet
import BuildHeader.Text.Lowercase

/-!
# Requests to a set

The three ways to ask for a macro: a value, the lowercase form of a value under a name of its
own, and a flag. Each asks for one definition, and a list of requests is carried out in order.
-/

namespace BuildHeader.Macro

/-! ## Definitions -/

/-- What can be asked of a set.

* `define`: the macro with that value.
* `defineLower`: the macro whose name ends in `_LOWER`, with the value in small letters.
* `flag`: the macro without a value. -/
inductive Request
  | define (name value : String)
  | defineLower (name value : String)
  | flag (name : String)
deriving DecidableEq, Repr

/-- The end of the name of a macro that holds a lowercase copy. -/
def lowerEnding : String := "_LOWER"

/-- The definition asked for. -/
def Request.definition : Request → Definition
  | .define name value => ⟨name, some value⟩
  | .defineLower name value => ⟨name ++ lowerEnding, some (Text.lowercase value)⟩
  | .flag name => ⟨name, none⟩

namespace DefinitionSet

/-- Carries out one request. -/
def submit (set : DefinitionSet) (request : Request) : Except DefinitionError DefinitionSet :=
  set.insert request.definition

/-- Carries out requests up to the first that fails. The definitions inserted before it stay. -/
def submitAll (set : DefinitionSet) : List Request → DefinitionSet × Option DefinitionError
  | [] => (set, none)
  | request :: rest =>
    match set.submit request with
    | .ok set => set.submitAll rest
    | .error e => (set, some e)

end DefinitionSet

end BuildHeader.Macro
