import BuildHeader.Log.Event

/-!
# Log rules

A rule lets the events of a part of the program through up to a level. It can be limited to the
events that carry a field. Of several rules the most specific one decides.
-/

namespace BuildHeader.Log

/-! ## Definitions -/

/-- The least important level that is let through; none lets nothing through. -/
abbrev Threshold := Option Level

/-- The level is let through. -/
def Threshold.allows (threshold : Threshold) (level : Level) : Bool :=
  match threshold with
  | none => false
  | some last => level.rank ≤ last.rank

/-- One rule.

* `source`: the beginning of the sources that it is about.
* `field?`: the field that events must carry, if any.
* `threshold`: what it lets through. -/
structure Rule where
  source : String
  field? : Option String
  threshold : Threshold
deriving DecidableEq, Repr

/-- The rule for all events. -/
def Rule.general (threshold : Threshold) : Rule :=
  ⟨"", none, threshold⟩

/-- The rule is about the event. -/
def Rule.covers (rule : Rule) (event : Event) : Bool :=
  rule.source.toList.isPrefixOf event.source.toList &&
    match rule.field? with
    | none => true
    | some name => event.fieldNames.contains name

/-- The rule is at least as specific as the other: it has a longer source, or one of the same length
and a field, where the other has none or one that is not later in the alphabet. -/
def Rule.outranks (rule other : Rule) : Bool :=
  if rule.source.length = other.source.length then
    match rule.field?, other.field? with
    | _, none => true
    | none, some _ => false
    | some name, some otherName => decide (otherName ≤ name)
  else other.source.length < rule.source.length

/-- The rule that decides about an event: the most specific one about it, and of two that are
equally specific the later. -/
def deciding? (event : Event) (rules : List Rule) : Option Rule :=
  (rules.filter (·.covers event)).foldl (fun best rule =>
    match best with
    | none => some rule
    | some other => if rule.outranks other then some rule else best) none

/-- The event is let through. -/
def allows (rules : List Rule) (event : Event) : Bool :=
  match deciding? event rules with
  | none => false
  | some rule => rule.threshold.allows event.level

/-- The events that the rules let through, in order. -/
def visible (rules : List Rule) (events : List Event) : List Event :=
  events.filter (allows rules)

/-! ## Lemmas -/

theorem Rule.general_covers (threshold : Threshold) (event : Event) :
    (Rule.general threshold).covers event = true := by
  simp [Rule.general, Rule.covers]

theorem deciding?_general (threshold : Threshold) (event : Event) :
    deciding? event [Rule.general threshold] = some (Rule.general threshold) := by
  have hfilter : [Rule.general threshold].filter (·.covers event) = [Rule.general threshold] := by
    simp [Rule.general_covers]
  rw [deciding?, hfilter]
  rfl

theorem allows_general (threshold : Threshold) (event : Event) :
    allows [Rule.general threshold] event = threshold.allows event.level := by
  rw [allows, deciding?_general]
  rfl

end BuildHeader.Log
