import BuildHeader.Log.Pattern.Atom
import BuildHeader.Log.Pattern.Depth

/-!
# Sets of characters in a pattern

A set stands between square brackets. It has single members, ranges, named classes and further sets,
and doubled signs combine what stands on their two sides from left to right. A circumflex at the
start negates a set. A closing bracket at the start, or dashes there, are members.
-/

namespace BuildHeader.Log.Pattern

/-! ## Members -/

/-- The atom that a set goes on with, and the rest. -/
def readMember? (modes : Modes) : List Char → Option (Atom × List Char)
  | [] => none
  | '\\' :: rest => readEscape? modes rest
  | c :: rest => some (.literal c, rest)

/-- Two atoms are the ends of a range: both stand for one character, in order. -/
def areEnds (modes : Modes) (first last : Atom) : Bool :=
  match first.code?, last.code? with
  | some low, some high => low ≤ high && first.isMember modes && last.isMember modes
  | _, _ => false

/-- The text behind the dash of a range. A dash makes no range if the set ends behind it or it is
doubled. -/
def behindDash? (modes : Modes) : List Char → Option (List Char)
  | '-' :: text =>
    if modes.peek? text == some ']' || modes.peek? text == some '-' then none
    else some (modes.skip text)
  | _ => none

/-- The text behind a member or a range of a set. -/
def skipMembers? (modes : Modes) (text : List Char) : Option (List Char) :=
  match readMember? modes text with
  | none => none
  | some (first, rest) =>
    match behindDash? modes (modes.skip rest) with
    | none => if first.isMember modes then some (modes.skip rest) else none
    | some more =>
      match readMember? modes more with
      | none => none
      | some (last, after) => if areEnds modes first last then some after else none

/-- The names of the classes. -/
def classNames : List String :=
  ["alnum", "alpha", "ascii", "blank", "cntrl", "digit", "graph", "lower", "print", "punct",
    "space", "upper", "word", "xdigit"]

/-- Whether a named class is negated, and the text behind it, given from behind the bracket that
opens it on. Its name stands between colons. -/
def readNamed? : List Char → Option (Bool × List Char)
  | ':' :: text =>
    let negated := text.head? == some '^'
    let body := if negated then text.tail else text
    let name := body.takeWhile (· != ':')
    match body.drop name.length with
    | ':' :: ']' :: rest =>
      if classNames.contains (String.ofList name) then some (negated, rest) else none
    | _ => none
  | _ => none

/-- A named class can be part of a set. Its complement has bytes beyond ASCII. -/
def isNamedPart (modes : Modes) (negated : Bool) : Bool :=
  !modes.needsCaseTable && (modes.unicode || !negated)

/-! ## Sets -/

/-- What has been read of a set.

* `combined?`: the depth of what stands before the last doubled sign.
* `members`: the members behind it. -/
structure OpenSet where
  combined? : Option Nat
  members : Siblings
deriving DecidableEq, Repr

namespace OpenSet

/-- A set without members. -/
def empty : OpenSet :=
  ⟨none, .empty⟩

/-- One more member of a depth. -/
def add (s : OpenSet) (depth : Nat) : OpenSet :=
  { s with members := s.members.add depth }

/-- The depth of what the set holds. -/
def depth (s : OpenSet) : Nat :=
  match s.combined? with
  | none => s.members.depth
  | some before => max before s.members.depth + 1

/-- A doubled sign follows. -/
def combine (s : OpenSet) : OpenSet :=
  ⟨some s.depth, .empty⟩

end OpenSet

/-- Reads the dashes at the start of a set. -/
def readDashes (modes : Modes) (s : OpenSet) (text : List Char) : OpenSet × List Char :=
  match text with
  | '-' :: rest => readDashes modes (s.add 0) (modes.skip rest)
  | _ => (s, text)
termination_by text.length
decreasing_by exact Nat.lt_succ_of_le (modes.skip_length_le rest)

/-- Reads what opens a set from behind its bracket on. -/
def openSet? (modes : Modes) (text : List Char) : Option (OpenSet × List Char) :=
  let start := modes.skip text
  let negated := start.head? == some '^'
  let body := if negated then modes.skip start.tail else start
  let opened :=
    match body with
    | ']' :: rest => (OpenSet.empty.add 0, modes.skip rest)
    | _ => readDashes modes .empty body
  if (negated && !modes.unicode) || (opened.1.members.count != 0 && modes.needsCaseTable) then none
  else some opened

theorem readMember?_length_lt {modes : Modes} {text : List Char} {result : Atom × List Char}
    (h : readMember? modes text = some result) : result.2.length < text.length := by
  unfold readMember? at h
  split at h
  · simp at h
  · exact Nat.lt_trans (readEscape?_length_lt h) (Nat.lt_succ_self _)
  · simp only [Option.some.injEq] at h
    subst h
    exact Nat.lt_succ_self _

theorem behindDash?_length_le {modes : Modes} {text rest : List Char}
    (h : behindDash? modes text = some rest) : rest.length ≤ text.length := by
  unfold behindDash? at h
  split at h
  · rename_i more
    simp only [Option.ite_none_left_eq_some, Option.some.injEq] at h
    obtain ⟨_, rfl⟩ := h
    exact Nat.le_succ_of_le (modes.skip_length_le more)
  · simp at h

theorem skipMembers?_length_lt {modes : Modes} {text rest : List Char}
    (h : skipMembers? modes text = some rest) : rest.length < text.length := by
  unfold skipMembers? at h
  split at h
  · simp at h
  · rename_i first found hfirst
    have hfound := readMember?_length_lt hfirst
    have hskip := modes.skip_length_le found
    simp only at hfound
    split at h
    · simp only [Option.ite_none_right_eq_some, Option.some.injEq] at h
      obtain ⟨_, rfl⟩ := h
      omega
    · rename_i more hmore
      have hdash := behindDash?_length_le hmore
      split at h
      · simp at h
      · rename_i last after hlast
        have hafter := readMember?_length_lt hlast
        simp only [Option.ite_none_right_eq_some, Option.some.injEq] at h
        obtain ⟨_, rfl⟩ := h
        simp only at hafter
        omega

theorem readNamed?_length_lt {text : List Char} {result : Bool × List Char}
    (h : readNamed? text = some result) : result.2.length < text.length := by
  unfold readNamed? at h
  split at h
  · rename_i body
    have hbody : (if (body.head? == some '^') then body.tail else body).length ≤ body.length := by
      split <;> simp
    simp only at h
    split at h
    · rename_i rest heq
      have hlength := congrArg List.length heq
      simp only [List.length_drop, List.length_cons] at hlength
      simp only [Option.ite_none_right_eq_some, Option.some.injEq] at h
      obtain ⟨_, rfl⟩ := h
      simp only [List.length_cons]
      omega
    · simp at h
  · simp at h

theorem readDashes_length_le (modes : Modes) (s : OpenSet) (text : List Char) :
    (readDashes modes s text).2.length ≤ text.length := by
  fun_induction readDashes modes s text with
  | case1 s rest ih =>
    exact Nat.le_succ_of_le (Nat.le_trans ih (modes.skip_length_le rest))
  | case2 => exact Nat.le_refl _

theorem openSet?_length_le {modes : Modes} {text : List Char} {result : OpenSet × List Char}
    (h : openSet? modes text = some result) : result.2.length ≤ text.length := by
  simp only [openSet?, Option.ite_none_left_eq_some, Option.some.injEq] at h
  obtain ⟨_, rfl⟩ := h
  have hstart := modes.skip_length_le text
  have htail := modes.skip_length_le (modes.skip text).tail
  have hbody : (if (modes.skip text).head? == some '^' then modes.skip (modes.skip text).tail
      else modes.skip text).length ≤ text.length := by
    split
    · simp only [List.length_tail] at htail
      omega
    · exact hstart
  split
  · rename_i rest heq
    rw [heq, List.length_cons] at hbody
    exact Nat.le_trans (modes.skip_length_le rest) (by omega)
  · exact Nat.le_trans (readDashes_length_le modes .empty _) hbody

/-- Reads a set up to the bracket that closes it: its depth and the text behind it. The sets that
enclose it within the same outer brackets are given with the innermost first. -/
def closeSet? (modes : Modes) (s : OpenSet) (outer : List OpenSet) (text : List Char) :
    Option (Nat × List Char) :=
  match _h : modes.skip text with
  | [] => none
  | ']' :: rest =>
    match outer with
    | [] => some (s.depth + 1, rest)
    | enclosing :: outer => closeSet? modes (enclosing.add (s.depth + 1)) outer rest
  | '[' :: rest =>
    match _named : readNamed? rest with
    | some (negated, after) =>
      if isNamedPart modes negated then closeSet? modes (s.add 0) outer after else none
    | none =>
      match _opened : openSet? modes rest with
      | none => none
      | some (inner, body) => closeSet? modes inner (s :: outer) body
  | '&' :: '&' :: rest => closeSet? modes s.combine outer rest
  | '-' :: '-' :: rest => closeSet? modes s.combine outer rest
  | '~' :: '~' :: rest => closeSet? modes s.combine outer rest
  | c :: more =>
    match _members : skipMembers? modes (c :: more) with
    | none => none
    | some rest => closeSet? modes (s.add 0) outer rest
termination_by text.length
decreasing_by
  all_goals
    have hskip := modes.skip_length_le text
    rw [_h] at hskip
    simp only [List.length_cons] at hskip
  · omega
  · have := readNamed?_length_lt _named
    simp only at this
    omega
  · have := openSet?_length_le _opened
    simp only at this
    omega
  · omega
  · omega
  · omega
  · have := skipMembers?_length_lt _members
    simp only [List.length_cons] at this
    omega

theorem closeSet?_length_lt {modes : Modes} {s : OpenSet} {outer : List OpenSet}
    {text : List Char} {result : Nat × List Char}
    (h : closeSet? modes s outer text = some result) : result.2.length < text.length := by
  fun_induction closeSet? modes s outer text with
  | case1 => simp at h
  | case2 s text rest hskip =>
    have hle := modes.skip_length_le text
    rw [hskip, List.length_cons] at hle
    simp only [Option.some.injEq] at h
    exact h ▸ hle
  | case3 s text rest hskip enclosing outer ih =>
    have hle := modes.skip_length_le text
    rw [hskip, List.length_cons] at hle
    exact Nat.lt_trans (ih h) hle
  | case4 s outer text rest hskip negated after hnamed _ ih =>
    have hle := modes.skip_length_le text
    rw [hskip, List.length_cons] at hle
    exact Nat.lt_trans (ih h) (Nat.lt_trans (readNamed?_length_lt hnamed) hle)
  | case5 => simp at h
  | case6 => simp at h
  | case7 s outer text rest hskip _ inner body hopened ih =>
    have hle := modes.skip_length_le text
    rw [hskip, List.length_cons] at hle
    exact Nat.lt_trans (Nat.lt_of_lt_of_le (ih h) (openSet?_length_le hopened)) hle
  | case8 s outer text rest hskip ih | case9 s outer text rest hskip ih
  | case10 s outer text rest hskip ih =>
    have hle := modes.skip_length_le text
    rw [hskip, List.length_cons, List.length_cons] at hle
    have := ih h
    omega
  | case11 => simp at h
  | case12 s outer text c more _ _ _ _ _ hskip rest hmembers ih =>
    have hle := modes.skip_length_le text
    rw [hskip] at hle
    have := ih h
    have := skipMembers?_length_lt hmembers
    omega

/-- Reads a set from behind its opening bracket on: its depth and the text behind it. -/
def readSet? (modes : Modes) (text : List Char) : Option (Nat × List Char) :=
  (openSet? modes text).bind fun (s, body) => closeSet? modes s [] body

theorem readSet?_length_lt {modes : Modes} {text : List Char} {result : Nat × List Char}
    (h : readSet? modes text = some result) : result.2.length < text.length := by
  obtain ⟨opened, hopened, hclose⟩ := Option.bind_eq_some_iff.1 h
  exact Nat.lt_of_lt_of_le (closeSet?_length_lt hclose) (openSet?_length_le hopened)

end BuildHeader.Log.Pattern
