import BuildHeader.Proofs.LiteralReading
import BuildHeader.Proofs.SetHistory

/-!
# Reading a header

A reader of headers that knows nothing of the set that a header was made from. It cuts the text at
the ends of its lines; of each line it takes the opening word away, the name up to the first blank
or to the end of the line, and the value of the literal behind the blank, if there is one.

Results:
1. `read?_render`: a directive with an identifier for its name is read as its definition.
2. `linesOf_render`: a header has one line for each definition.
3. `readHeader?_render`: a header of such directives is read as its list of definitions.
4. `readHeader?_afterCalls`: so is the header of every set that has a history; two of them are the
   same text only for the same definitions.
-/

namespace BuildHeader.Macro

/-! ## The reader -/

/-- The word that opens a directive, with the blank behind it. -/
def directiveOpening : List Char := ['#', 'd', 'e', 'f', 'i', 'n', 'e', ' ']

/-- The definition of a directive. -/
def Definition.read? (line : List Char) : Option Definition :=
  if directiveOpening.isPrefixOf line then
    let text := line.drop directiveOpening.length
    let name := String.ofList (text.takeWhile (· != ' '))
    match text.dropWhile (· != ' ') with
    | [] => some ⟨name, none⟩
    | _ :: literal =>
      (Literal.value? (String.ofList literal)).map fun value => ⟨name, some value⟩
  else none

/-- The definitions of a header, every line of which must be ended. -/
def readHeader? (header : String) : Option (List Definition) :=
  let lines := header.toList.splitOn '\n'
  if lines.getLast? = some [] then lines.dropLast.mapM Definition.read? else none

/-! ## Names -/

theorem isNameChar_of_identifier {name : String} (h : isIdentifier name = true) :
    ∀ c ∈ name.toList, isNameChar c = true := by
  unfold isIdentifier at h
  split at h
  · cases h
  · next first rest shape =>
    rw [Bool.and_eq_true] at h
    intro c member
    rw [shape] at member
    rcases List.mem_cons.mp member with rfl | inRest
    · have start := h.1
      simp only [isNameStart, isNameChar, Char.isAlphanum, Bool.or_eq_true] at start ⊢
      exact start.imp .inl id
    · exact List.all_eq_true.mp h.2 c inRest

/-- An identifier holds no character that ends a name or a line. -/
theorem not_mem_identifier {name : String} {c : Char} (h : isIdentifier name = true)
    (notName : isNameChar c = false) : c ∉ name.toList := by
  intro member
  rw [isNameChar_of_identifier h c member] at notName
  cases notName

/-! ## Directives -/

/-- What stands behind the name of a directive. -/
def Definition.tail (d : Definition) : List Char :=
  match d.value with
  | some value => ' ' :: (Literal.quote value).toList
  | none => []

theorem Definition.toList_render (d : Definition) :
    d.render.toList = directiveOpening ++ (d.name.toList ++ d.tail) := by
  obtain ⟨name, value⟩ := d
  cases value <;> simp [Definition.render, Definition.tail, directiveOpening]

theorem newline_not_mem_render {d : Definition} (h : isIdentifier d.name = true) :
    '\n' ∉ d.render.toList := by
  have inTail : '\n' ∉ d.tail := by
    unfold Definition.tail
    split
    · next value _ =>
      simp only [Literal.toList_quote, List.mem_cons, List.mem_append, List.not_mem_nil, or_false]
      rintro (h | h | h | h)
      · cases h
      · cases h
      · exact absurd (Literal.encode_printable _ _ h) (by decide)
      · cases h
    · exact List.not_mem_nil
  rw [d.toList_render]
  simp only [List.mem_append, not_or]
  exact ⟨by decide, not_mem_identifier h (by decide), inTail⟩

/-- A directive is read as its definition. Its name ends where the reader stops, since it holds no
blank. -/
theorem read?_render {d : Definition} (h : isIdentifier d.name = true) :
    Definition.read? d.render.toList = some d := by
  have inName : ∀ c ∈ d.name.toList, (c != ' ') = true := by
    intro c member
    rw [bne_iff_ne]
    rintro rfl
    exact not_mem_identifier h (by decide) member
  rw [d.toList_render, Definition.read?, if_pos (by simp), List.drop_left]
  simp only [List.takeWhile_append_of_pos inName, List.dropWhile_append_of_pos inName]
  obtain ⟨name, value⟩ := d
  cases value with
  | none => simp [Definition.tail]
  | some value => simp [Definition.tail, Literal.value?_quote]

/-! ## Headers -/

theorem DefinitionSet.toList_render (set : DefinitionSet) :
    set.render.toList = set.definitions.flatMap fun d => d.render.toList ++ ['\n'] := by
  simp [DefinitionSet.render, String.toList_join, List.flatMap_map]

/-- The lines of a header, and the empty rest behind the end of the last one. -/
theorem splitOn_directives {ds : List Definition}
    (h : ∀ d ∈ ds, isIdentifier d.name = true) :
    (ds.flatMap fun d => d.render.toList ++ ['\n']).splitOn '\n' =
      ds.map (·.render.toList) ++ [[]] := by
  induction ds with
  | nil => simp
  | cons d rest ih =>
    have line := List.splitOn_append_cons_self_of_not_mem (newline_not_mem_render (h d (by simp)))
      (rest.flatMap fun d => d.render.toList ++ ['\n'])
    rw [ih fun other member => h other (by simp [member])] at line
    simpa using line

/-- The lines of a text, without their ends. What stands behind the last end is a line too, unless
it is empty. -/
def linesOf (text : String) : List String :=
  let pieces := text.toList.splitOn '\n'
  (if pieces.getLast? = some [] then pieces.dropLast else pieces).map String.ofList

/-- A header has one line for each definition. -/
theorem linesOf_render {set : DefinitionSet} (h : set.Consistent) :
    linesOf set.render = set.definitions.map (·.render) := by
  simp [linesOf, set.toList_render, splitOn_directives h.identifiers]

/-- Two directives are the same line only for the same definition. -/
theorem Definition.render_inj {d other : Definition} (h : isIdentifier d.name = true)
    (hOther : isIdentifier other.name = true) : d.render = other.render ↔ d = other := by
  constructor
  · intro same
    have read := read?_render h
    rw [same, read?_render hOther] at read
    exact (Option.some.inj read).symm
  · rintro rfl
    rfl

theorem mapM_read?_render {ds : List Definition} (h : ∀ d ∈ ds, isIdentifier d.name = true) :
    (ds.map (·.render.toList)).mapM Definition.read? = some ds := by
  induction ds with
  | nil => rfl
  | cons d rest ih =>
    simp [List.mapM_cons, read?_render (h d (by simp)),
      ih fun other member => h other (by simp [member])]

/-- A header is read as its list of definitions. -/
theorem readHeader?_render {set : DefinitionSet} (h : set.Consistent) :
    readHeader? set.render = some set.definitions := by
  simp [readHeader?, set.toList_render, splitOn_directives h.identifiers,
    mapM_read?_render h.identifiers]

example : readHeader? "#define A \"x\\n\"\n#define B\n" =
    some [⟨"A", some "x\n"⟩, ⟨"B", none⟩] := by cbv

/-- Consistent sets with the same header hold the same definitions. -/
theorem render_injective {set other : DefinitionSet} (h : set.Consistent)
    (hOther : other.Consistent) :
    set.render = other.render ↔ set.definitions = other.definitions := by
  constructor
  · intro same
    have read := readHeader?_render h
    rw [same, readHeader?_render hOther] at read
    exact (Option.some.inj read).symm
  · intro same
    rw [DefinitionSet.render, same, DefinitionSet.render]

end BuildHeader.Macro

namespace BuildHeader.Profile

open BuildHeader.Macro

/-- The header of a set is read as the definitions of the set, whatever calls made the set. Two such
headers are the same text just if the two sets hold the same definitions in the same order. -/
theorem readHeader?_afterCalls (calls others : List Call) :
    readHeader? (afterCalls .empty calls).render = some (afterCalls .empty calls).definitions ∧
      ((afterCalls .empty calls).render = (afterCalls .empty others).render ↔
        (afterCalls .empty calls).definitions = (afterCalls .empty others).definitions) := by
  have first := consistent_afterCalls DefinitionSet.consistent_empty calls
  have second := consistent_afterCalls DefinitionSet.consistent_empty others
  exact ⟨readHeader?_render first, render_injective first second⟩

end BuildHeader.Profile
