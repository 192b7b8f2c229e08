import BuildHeader.Log.Pattern.CharacterSet
import BuildHeader.Log.Pattern.GroupHead

/-!
# Well-formed patterns

A log rule can demand that a field has a value of some form, which it gives by a pattern: a regular
expression. No event is let through by such a rule, so that all that matters of a pattern is
whether it is well formed: brackets and parentheses close, what is repeated is there, atoms and sets
can be matched in the modes in force, and the whole is not too deep.

Counted repetitions are written between braces, which a rule keeps for itself, and are refused.
-/

namespace BuildHeader.Log.Pattern

/-! ## Progress -/

/-- What has been read of a group.

* `modes`: the modes in force.
* `branches`: the branches that are complete.
* `items`: the items of the branch that is not. -/
structure Group where
  modes : Modes
  branches : Siblings
  items : Siblings
deriving DecidableEq, Repr

namespace Group

/-- A group of which nothing has been read. -/
def start (modes : Modes) : Group :=
  ⟨modes, .empty, .empty⟩

/-- One more item of a depth. -/
def add (g : Group) (depth : Nat) : Group :=
  { g with items := g.items.add depth }

/-- The last item is repeated. -/
def repeatLast (g : Group) : Group :=
  { g with items := g.items.wrapLast }

/-- A branch ends. -/
def endBranch (g : Group) : Group :=
  { g with branches := g.branches.add g.items.depth, items := .empty }

/-- The depth of what the group holds. -/
def depth (g : Group) : Nat :=
  g.endBranch.branches.depth

end Group

/-- What has been read of a pattern.

* `group`: the innermost group that is open, or the whole pattern.
* `outer`: the groups around it, the innermost first.
* `repeatable`: the last item can be repeated.
* `names`: the names of groups. -/
structure Progress where
  group : Group
  outer : List Group
  repeatable : Bool
  names : List (List Char)
deriving DecidableEq, Repr

namespace Progress

/-- Before the first item of a pattern. -/
def start : Progress :=
  ⟨.start .initial, [], false, []⟩

/-- The modes in force. -/
def modes (p : Progress) : Modes :=
  p.group.modes

/-- A group with modes of its own begins. -/
def enter (p : Progress) (modes : Modes) : Progress :=
  { p with group := .start modes, outer := p.group :: p.outer, repeatable := false }

/-- The progress behind the head of a group; a name must be new. -/
def afterHead? (p : Progress) : GroupHead → Option Progress
  | .named name =>
    if p.names.contains name then none
    else some { p.enter p.modes with names := name :: p.names }
  | .group flags => some (p.enter (p.modes.afterFlags flags))
  | .flags flags =>
    some { p with
      group := { p.group.add 0 with modes := p.modes.afterFlags flags }
      repeatable := false }

/-- An item of a depth has been read. -/
def add (p : Progress) (depth : Nat) : Progress :=
  { p with group := p.group.add depth, repeatable := true }

/-- The last item is repeated. -/
def repeatLast (p : Progress) : Progress :=
  { p with group := p.group.repeatLast }

/-- A branch ends. -/
def endBranch (p : Progress) : Progress :=
  { p with group := p.group.endBranch, repeatable := false }

/-- A group ends, if one is open. -/
def leave? (p : Progress) : Option Progress :=
  match p.outer with
  | [] => none
  | around :: outer =>
    some { p with group := around.add (p.group.depth + 1), outer, repeatable := true }

/-- The pattern can end: no group is open, and it is not too deep. -/
def isComplete (p : Progress) : Bool :=
  p.outer.isEmpty && p.group.depth ≤ depthLimit

end Progress

/-! ## Whole patterns -/

/-- The text behind a question mark, or all of it where it does not start with one. -/
def dropQuestionMark : List Char → List Char
  | '?' :: rest => rest
  | text => text

theorem dropQuestionMark_length_le (text : List Char) :
    (dropQuestionMark text).length ≤ text.length := by
  unfold dropQuestionMark
  split <;> simp

/-- The rest of a pattern is well formed. A question mark right behind a sign of repetition belongs
to it. -/
def isWellFormedAfter (p : Progress) (text : List Char) : Bool :=
  match _h : p.modes.skip text with
  | [] => p.isComplete
  | '|' :: rest => isWellFormedAfter p.endBranch rest
  | '(' :: rest =>
    match _inner : p.modes.skip rest with
    | '?' :: headed =>
      match _head : readGroupHead? headed with
      | none => false
      | some (head, body) =>
        match p.afterHead? head with
        | none => false
        | some inside => isWellFormedAfter inside body
    | _ => isWellFormedAfter (p.enter p.modes) rest
  | ')' :: rest =>
    match p.leave? with
    | none => false
    | some around => isWellFormedAfter around rest
  | '[' :: rest =>
    match _set : readSet? p.modes rest with
    | none => false
    | some (depth, after) => isWellFormedAfter (p.add depth) after
  | '\\' :: rest =>
    match _escape : readEscape? p.modes rest with
    | none => false
    | some (atom, after) => atom.isMatchable p.modes && isWellFormedAfter (p.add 0) after
  | c :: rest =>
    if c == '*' || c == '+' || c == '?' then
      p.repeatable && isWellFormedAfter p.repeatLast (dropQuestionMark rest)
    else if c == '\x7b' then false
    else if c == '.' then p.modes.unicode && isWellFormedAfter (p.add 0) rest
    else if c == '^' || c == '$' then isWellFormedAfter (p.add 0) rest
    else (Atom.literal c).isMatchable p.modes && isWellFormedAfter (p.add 0) rest
termination_by text.length
decreasing_by
  all_goals
    have hskip := p.modes.skip_length_le text
    rw [_h] at hskip
    simp only [List.length_cons] at hskip
  · omega
  · have hinner := p.modes.skip_length_le rest
    have hhead := readGroupHead?_length_lt _head
    rw [_inner] at hinner
    simp only [List.length_cons] at hinner hhead
    omega
  · omega
  · omega
  · have := readSet?_length_lt _set
    simp only at this
    omega
  · have := readEscape?_length_lt _escape
    simp only at this
    omega
  · have := dropQuestionMark_length_le rest
    omega
  · omega
  · omega
  · omega

/-- The text is a well-formed pattern. -/
def isWellFormed (text : List Char) : Bool :=
  isWellFormedAfter .start text

end BuildHeader.Log.Pattern
