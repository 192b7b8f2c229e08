import BuildHeader.Proofs.LegibleReading
import BuildHeader.Proofs.SealedHeaders

/-!
# Messages of insertion errors

A message names the text that was refused. An invalid name can hold anything, but its legible form
is one line. A duplicate name is shown as it is, but an identifier is all that it can be. So every
message is one line, and a reader that knows nothing of the request finds the error in it.

Results:
1. `readMessage?_message`, `message_injective`: a message is read as its error.
2. `not_breaksLine_message`: it is one line, if a duplicate name is an identifier.
3. `identified_of_answerOf`: so it is for every request that fails.
4. `message_identifies`: the messages of two requests that fail.
-/

namespace BuildHeader.Macro

/-! ## Messages -/

/-- The name that an error is about. -/
def DefinitionError.name : DefinitionError → String
  | .invalidName name => name
  | .duplicate name => name

/-- The error of a message. What stands in front tells the kind of error, and what is left is a text
in its legible form, or a name as it is. -/
def readMessage? (message : String) : Option DefinitionError :=
  match message.toList.dropPrefix? "invalid macro name ".toList with
  | some form => (Text.legible? form).map .invalidName
  | none => do
    let named ← message.toList.dropPrefix? "macro ".toList
    let name ← named.dropSuffix? " is defined more than once".toList
    return .duplicate (String.ofList name)

theorem DefinitionError.toList_message_invalidName (name : String) :
    (invalidName name).message.toList =
      "invalid macro name ".toList ++ (Text.legible name).toList :=
  String.toList_append

theorem DefinitionError.toList_message_duplicate (name : String) :
    (duplicate name).message.toList =
      "macro ".toList ++ (name.toList ++ " is defined more than once".toList) := by
  show ("macro " ++ name ++ " is defined more than once").toList = _
  rw [String.toList_append, String.toList_append, List.append_assoc]

theorem dropPrefix?_append (opening rest : List Char) :
    (opening ++ rest).dropPrefix? opening = some rest :=
  List.dropPrefix?_eq_some_iff.mpr ⟨opening, rfl, beq_self_eq_true opening⟩

theorem dropSuffix?_append (rest ending : List Char) :
    (rest ++ ending).dropSuffix? ending = some rest :=
  List.dropSuffix?_eq_some_iff.mpr ⟨ending, rfl, beq_self_eq_true ending⟩

/-- A message is read as its error. -/
theorem readMessage?_message (e : DefinitionError) : readMessage? e.message = some e := by
  cases e with
  | invalidName name =>
    rw [readMessage?, DefinitionError.toList_message_invalidName, dropPrefix?_append]
    simp [Text.legible?_legible]
  | duplicate name =>
    -- The first letter tells the two kinds apart.
    have otherKind (rest : List Char) :
        ("macro ".toList ++ rest).dropPrefix? "invalid macro name ".toList = none := rfl
    rw [readMessage?, DefinitionError.toList_message_duplicate, otherKind]
    simp only [dropPrefix?_append, dropSuffix?_append, Option.bind_eq_bind, Option.bind_some,
      String.ofList_toList]
    rfl

/-- Two messages are the same only for the same error. -/
theorem message_injective {e f : DefinitionError} : e.message = f.message ↔ e = f := by
  constructor
  · intro same
    have read := readMessage?_message e
    rw [same, readMessage?_message f] at read
    exact (Option.some.inj read).symm
  · rintro rfl
    rfl

/-- A message is one line if a name that is shown as it is, is an identifier. -/
theorem not_breaksLine_message {e : DefinitionError}
    (identifier : ∀ name, e = .duplicate name → isIdentifier name = true) :
    ∀ c ∈ e.message.toList, ¬ Text.BreaksLine c := by
  intro c member
  cases e with
  | invalidName name =>
    rw [DefinitionError.toList_message_invalidName] at member
    rcases List.mem_append.mp member with inOpening | inForm
    · exact Text.not_breaksLine_of_all rfl c inOpening
    · exact Text.not_breaksLine_legible name c inForm
  | duplicate name =>
    rw [DefinitionError.toList_message_duplicate] at member
    rcases List.mem_append.mp member with inOpening | member
    · exact Text.not_breaksLine_of_all rfl c inOpening
    · rcases List.mem_append.mp member with inName | inEnding
      · have nameChar := isNameChar_of_identifier (identifier name rfl) c inName
        exact Text.not_breaksLine_of_printable (printable_of_isNameChar nameChar)
      · exact Text.not_breaksLine_of_all rfl c inEnding

end BuildHeader.Macro

namespace BuildHeader.Profile

open BuildHeader.Macro

/-! ## Requests that fail -/

/-- What the message of a request that failed tells.

* `name`: the error is about the name asked for.
* `oneLine`: the message holds no control character and no end of a line or a paragraph.
* `read`: the error is read from the message. -/
structure Identified (r : Request) (e : DefinitionError) : Prop where
  name : e.name = r.definition.name
  oneLine : ∀ c ∈ e.message.toList, ¬ Text.BreaksLine c
  read : readMessage? e.message = some e

/-- A duplicate name is an identifier, since that is what is looked at first. -/
theorem identified_of_answerOf {set : DefinitionSet} {r : Request} {e : DefinitionError}
    (failed : answerOf set r = some e) : Identified r e := by
  have answer := answers_perform set r
  unfold answerOf at failed
  generalize (Call.request r).perform set = outcome at answer failed
  cases answer with
  | invalid =>
    cases failed
    exact ⟨rfl, not_breaksLine_message (by simp), readMessage?_message _⟩
  | duplicate identifier =>
    cases failed
    exact ⟨rfl, not_breaksLine_message (by simpa using identifier), readMessage?_message _⟩
  | accepted => cases failed

/-- The message of a request that fails is one line and identifies the error, whatever a session did
to the set before. Two requests that fail, on whatever sets, have the same message just for the same
kind of error and the same name. -/
theorem message_identifies {moves otherMoves : List Move} {r s : Request} {e f : DefinitionError}
    (failed : answerOf (setAfter moves) r = some e)
    (otherFailed : answerOf (setAfter otherMoves) s = some f) :
    Identified r e ∧ Identified s f ∧ (e.message = f.message ↔ e = f) :=
  ⟨identified_of_answerOf failed, identified_of_answerOf otherFailed, message_injective⟩

/-- A name with an end of a line, a quote and a mark that attaches to it, and a name that the set
holds. -/
theorem message_identifies_hostile :
    answerOf (setAfter []) (.defineLower "a\n\"\u0301" "v") =
        some (.invalidName "a\n\"\u0301_LOWER") ∧
      answerOf (setAfter [.call (.request (.flag "A_LOWER"))]) (.defineLower "A" "v") =
        some (.duplicate "A_LOWER") ∧
      Identified (.defineLower "a\n\"\u0301" "v") (.invalidName "a\n\"\u0301_LOWER") ∧
      Identified (.defineLower "A" "v") (.duplicate "A_LOWER") ∧
      ((DefinitionError.invalidName "a\n\"\u0301_LOWER").message =
          (DefinitionError.duplicate "A_LOWER").message ↔
        DefinitionError.invalidName "a\n\"\u0301_LOWER" = .duplicate "A_LOWER") := by
  have failed : answerOf (setAfter []) (.defineLower "a\n\"\u0301" "v") =
      some (.invalidName "a\n\"\u0301_LOWER") := by decide +kernel
  have otherFailed : answerOf (setAfter [.call (.request (.flag "A_LOWER"))])
      (.defineLower "A" "v") = some (.duplicate "A_LOWER") := by decide +kernel
  exact ⟨failed, otherFailed, message_identifies failed otherFailed⟩

end BuildHeader.Profile
