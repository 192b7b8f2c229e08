/-!
# Depth of a pattern

A pattern is a tree. Groups, repetitions and sets are nodes of it, and so are two or more things
side by side. The tree must not be deeper than `depthLimit`.
-/

namespace BuildHeader.Log.Pattern

/-- The greatest depth of a pattern. -/
def depthLimit : Nat := 250

/-- The depths of things side by side.

* `count`: how many there are.
* `earlier`: the greatest depth of those before the last.
* `last`: the depth of the last. -/
structure Siblings where
  count : Nat
  earlier : Nat
  last : Nat
deriving DecidableEq, Repr

namespace Siblings

/-- Nothing. -/
def empty : Siblings :=
  ⟨0, 0, 0⟩

/-- One more thing of a depth. -/
def add (s : Siblings) (depth : Nat) : Siblings :=
  ⟨s.count + 1, max s.earlier s.last, depth⟩

/-- A node around the last thing. -/
def wrapLast (s : Siblings) : Siblings :=
  { s with last := s.last + 1 }

/-- The depth of all together. A single thing needs no node. -/
def depth (s : Siblings) : Nat :=
  if s.count ≤ 1 then s.last else max s.earlier s.last + 1

example : (empty.add 2).depth = 2 := by decide
example : ((empty.add 2).add 1).depth = 3 := by decide

end Siblings

end BuildHeader.Log.Pattern
