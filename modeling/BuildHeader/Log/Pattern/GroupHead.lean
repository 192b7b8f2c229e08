import BuildHeader.Text.AlphanumericTable

/-!
# Heads of groups in a pattern

An opening parenthesis and a question mark are followed by a name for the group, by flags for it, or
by flags for the rest of the group around them.
-/

namespace BuildHeader.Log.Pattern

open BuildHeader.Text

/-! ## Definitions -/

/-- What stands behind an opening parenthesis and a question mark.

* `named`: the name of a group.
* `group`: flags for a group.
* `flags`: flags for the rest of the group around them. -/
inductive GroupHead
  | named (name : List Char)
  | group (flags : List Char)
  | flags (flags : List Char)
deriving DecidableEq, Repr

/-- The characters are a name: a letter or an underscore, and then letters, numbers, underscores,
dots and brackets. -/
def isGroupName : List Char → Bool
  | [] => false
  | first :: rest => (first == '_' || isLetter first) &&
      rest.all fun c => c == '_' || c == '.' || c == '[' || c == ']' || isLetterOrNumber c

/-- The characters are flags: each at most once, and at most one dash, with a flag behind it. -/
def areFlags (flags : List Char) : Bool :=
  flags.all (fun c => "imsUuRx-".toList.contains c) && decide flags.Nodup &&
    flags.getLast? != some '-'

/-- The name of a group and the text behind it, given from the name on. -/
def readGroupName? (text : List Char) : Option (GroupHead × List Char) :=
  let name := text.takeWhile (· != '>')
  match text.drop name.length with
  | '>' :: rest => if isGroupName name then some (.named name, rest) else none
  | _ => none

/-- The flags of a group or of the group around them, and the text behind them. -/
def readFlags? (text : List Char) : Option (GroupHead × List Char) :=
  let flags := text.takeWhile fun c => c != ':' && c != ')'
  match text.drop flags.length with
  | ':' :: rest => if areFlags flags then some (.group flags, rest) else none
  | ')' :: rest => if areFlags flags && !flags.isEmpty then some (.flags flags, rest) else none
  | _ => none

/-- What stands behind an opening parenthesis and a question mark, and the rest. -/
def readGroupHead? : List Char → Option (GroupHead × List Char)
  | 'P' :: '<' :: rest => readGroupName? rest
  | '<' :: rest => readGroupName? rest
  | text => readFlags? text

/-! ## Lemmas -/

theorem readGroupName?_length_lt {text : List Char} {result : GroupHead × List Char}
    (h : readGroupName? text = some result) : result.2.length < text.length := by
  simp only [readGroupName?] at h
  split at h
  · rename_i rest heq
    have hlength := congrArg List.length heq
    simp only [List.length_drop, List.length_cons] at hlength
    simp only [Option.ite_none_right_eq_some, Option.some.injEq] at h
    obtain ⟨_, rfl⟩ := h
    simp only
    omega
  · simp at h

theorem readFlags?_length_lt {text : List Char} {result : GroupHead × List Char}
    (h : readFlags? text = some result) : result.2.length < text.length := by
  simp only [readFlags?] at h
  split at h
  all_goals try simp at h
  all_goals
    rename_i rest heq
    have hlength := congrArg List.length heq
    simp only [List.length_drop, List.length_cons] at hlength
    obtain ⟨_, rfl⟩ := h
    simp only
    omega

theorem readGroupHead?_length_lt {text : List Char} {result : GroupHead × List Char}
    (h : readGroupHead? text = some result) : result.2.length < text.length := by
  unfold readGroupHead? at h
  split at h
  · have := readGroupName?_length_lt h
    simp only [List.length_cons]
    omega
  · have := readGroupName?_length_lt h
    simp only [List.length_cons]
    omega
  · exact readFlags?_length_lt h

example : readGroupHead? "i-x:a".toList = some (.group ['i', '-', 'x'], ['a']) := by decide
example : readGroupHead? ")a".toList = none := by decide

end BuildHeader.Log.Pattern
