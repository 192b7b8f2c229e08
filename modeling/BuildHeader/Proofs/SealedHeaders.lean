import Mathlib.Data.List.Forall2
import Mathlib.Data.List.TakeWhile
import BuildHeader.Proofs.HeaderReading
import BuildHeader.Proofs.RequestHistory

/-!
# Values stay in their literals

A value can hold any text, but all that it decides of a header is what stands between the quotes of
its own line. Two lists of requests that differ in their values only are answered alike, and their
headers are the same up to the opening quote of each line.

Results:
1. `behindClosing?_encode`: the quote that ends a written value is the closing one.
2. `sealed_render`: the line of a definition is sealed, whatever its value.
3. `alike_perform`, `alike_afterRequests`: sets that differ in values only stay so.
4. `values_sealed`: two headers that differ in values only.
-/

namespace BuildHeader.Macro

/-! ## Definitions -/

/-- A line up to its first quote and with it; the whole line if it has none. -/
def openingOf (line : String) : List Char :=
  line.toList.takeWhile (· != '"') ++ (line.toList.dropWhile (· != '"')).take 1

/-- What stands behind the first quote of a line. -/
def behindOpening (line : String) : List Char :=
  (line.toList.dropWhile (· != '"')).drop 1

/-- What stands behind the first quote that is not escaped. A backslash escapes the character that
follows it. -/
def behindClosing? : List Char → Option (List Char)
  | [] => none
  | '"' :: rest => some rest
  | '\\' :: _ :: rest => behindClosing? rest
  | _ :: rest => behindClosing? rest

/-- What the line of a definition begins with: the name, and the opening quote if it has a value. -/
def Definition.opening (d : Definition) : List Char :=
  directiveOpening ++ (d.name.toList ++ if d.value.isSome then [' ', '"'] else [])

/-- The line of a definition lets nothing of the value out.

* `printable`: every character is one of U+0020 to U+007E, so that the line does not end early.
* `unspliced`: the line does not end in a backslash, which would join the next line to it.
* `opened`: the first quote is the opening quote of the value.
* `flag`: there is none in the line of a flag.
* `closed`: the first quote behind the opening one that is not escaped is the end of the line. -/
structure Sealed (d : Definition) (line : String) : Prop where
  printable : ∀ c ∈ line.toList, 0x20 ≤ c.toNat ∧ c.toNat ≤ 0x7E
  unspliced : line.toList.getLast? ≠ some '\\'
  opened : openingOf line = d.opening
  flag : d.value = none → openingOf line = line.toList
  closed : d.value ≠ none → behindClosing? (behindOpening line) = some []

/-- The header of a set is made of sealed lines.

* `lines`: one for each definition, in order.
* `size`: so there are as many as definitions.
* `ended`: each is ended, and nothing else stands in the header.
* `characters`: only the ends of lines are not printable. -/
structure SealedHeader (set : DefinitionSet) (header : String) : Prop where
  lines : List.Forall₂ Sealed set.definitions (linesOf header)
  size : (linesOf header).length = set.size
  ended : header.toList = (linesOf header).flatMap fun line => line.toList ++ ['\n']
  characters : ∀ c ∈ header.toList, c = '\n' ∨ (0x20 ≤ c.toNat ∧ c.toNat ≤ 0x7E)

/-- Requests of one kind and for one name. -/
inductive SameShape : Request → Request → Prop
  | define (name value other : String) : SameShape (.define name value) (.define name other)
  | defineLower (name value other : String) :
      SameShape (.defineLower name value) (.defineLower name other)
  | flag (name : String) : SameShape (.flag name) (.flag name)

/-- Definitions of one name that both have a value, or that are both flags. -/
structure SameMold (d other : Definition) : Prop where
  name : d.name = other.name
  isSome : d.value.isSome = other.value.isSome

/-- Sets that differ in values only. -/
structure Alike (set other : DefinitionSet) : Prop where
  names : set.names = other.names
  definitions : List.Forall₂ SameMold set.definitions other.definitions

/-! ## The closing quote -/

theorem behindClosing?_of_ne {c : Char} {rest : List Char} (notQuote : c ≠ '"')
    (notBackslash : c ≠ '\\') : behindClosing? (c :: rest) = behindClosing? rest := by
  rw [behindClosing?]
  all_goals simp_all

theorem behindClosing?_unitEscape {unit : Nat} (below : unit < 0x10000) (rest : List Char) :
    behindClosing? (Literal.unitEscape unit ++ rest) = behindClosing? rest := by
  have digit : ∀ d < 0x10, Nat.digitChar d ≠ '"' ∧ Nat.digitChar d ≠ '\\' := by decide
  have first := digit (unit / 0x1000) (by omega)
  have second := digit (unit / 0x100 % 0x10) (by omega)
  have third := digit (unit / 0x10 % 0x10) (by omega)
  have fourth := digit (unit % 0x10) (by omega)
  simp only [Literal.unitEscape, Literal.hex4, List.cons_append, List.nil_append]
  rw [behindClosing?, behindClosing?_of_ne first.1 first.2, behindClosing?_of_ne second.1 second.2,
    behindClosing?_of_ne third.1 third.2, behindClosing?_of_ne fourth.1 fourth.2]

/-- No written character holds the closing quote, or escapes what follows it. -/
theorem behindClosing?_encodeChar (c : Char) (rest : List Char) :
    behindClosing? (Literal.encodeChar c ++ rest) = behindClosing? rest := by
  have written := Literal.writtenAs_encodeChar c
  generalize Literal.encodeChar c = text at written
  cases written with
  | short => rfl
  | plain noShort =>
    obtain ⟨notQuote, notBackslash, -⟩ := Literal.ne_of_noShort noShort
    exact behindClosing?_of_ne notQuote notBackslash
  | unit noShort notPrintable below => exact behindClosing?_unitEscape below rest
  | pair beyond units isHigh isLow =>
    rw [List.append_assoc, behindClosing?_unitEscape (Literal.lt_of_isHighSurrogate isHigh),
      behindClosing?_unitEscape (Literal.lt_of_isLowSurrogate isLow)]

/-- The first quote behind a written value that is not escaped is the one that ends it. -/
theorem behindClosing?_encode (value rest : List Char) :
    behindClosing? (Literal.encode value ++ '"' :: rest) = some rest := by
  rw [Literal.encode_eq_flatMap]
  induction value with
  | nil => simp [behindClosing?]
  | cons c value ih => rw [List.flatMap_cons, List.append_assoc, behindClosing?_encodeChar, ih]

/-! ## Lines -/

theorem bne_quote {before : List Char} (noQuote : '"' ∉ before) :
    ∀ c ∈ before, (c != '"') = true := by
  intro c member
  rw [bne_iff_ne]
  rintro rfl
  exact noQuote member

theorem opening_of_quote {line : String} {before rest : List Char}
    (text : line.toList = before ++ '"' :: rest) (noQuote : '"' ∉ before) :
    openingOf line = before ++ ['"'] ∧ behindOpening line = rest := by
  rw [openingOf, behindOpening, text, List.takeWhile_append_of_pos (bne_quote noQuote),
    List.dropWhile_append_of_pos (bne_quote noQuote)]
  simp

theorem openingOf_of_noQuote {line : String} (noQuote : '"' ∉ line.toList) :
    openingOf line = line.toList := by
  rw [openingOf, List.takeWhile_eq_self_iff.mpr (bne_quote noQuote),
    List.dropWhile_eq_nil_iff.mpr (bne_quote noQuote), List.take_nil, List.append_nil]

theorem printable_of_isNameChar {c : Char} (h : isNameChar c = true) :
    0x20 ≤ c.toNat ∧ c.toNat ≤ 0x7E := by
  rcases isNameChar_iff.mp h with (⟨low, high⟩ | ⟨low, high⟩ | rfl) | ⟨low, high⟩
  · have low : 0x41 ≤ c.toNat := low
    have high : c.toNat ≤ 0x5A := high
    omega
  · have low : 0x61 ≤ c.toNat := low
    have high : c.toNat ≤ 0x7A := high
    omega
  · decide
  · have low : 0x30 ≤ c.toNat := low
    have high : c.toNat ≤ 0x39 := high
    omega

/-- The word and the name of a directive are printable and hold neither a quote nor a backslash. -/
theorem plain_of_mem_opening {name : String} (h : isIdentifier name = true) {c : Char}
    (member : c ∈ directiveOpening ++ name.toList) :
    (0x20 ≤ c.toNat ∧ c.toNat ≤ 0x7E) ∧ c ≠ '"' ∧ c ≠ '\\' := by
  rcases List.mem_append.mp member with inWord | inName
  · have word : ∀ x ∈ directiveOpening,
        (0x20 ≤ x.toNat ∧ x.toNat ≤ 0x7E) ∧ x ≠ '"' ∧ x ≠ '\\' := by
      simp [directiveOpening]
    exact word c inWord
  · refine ⟨printable_of_isNameChar (isNameChar_of_identifier h c inName), ?_, ?_⟩
    · rintro rfl
      exact not_mem_identifier h (by decide) inName
    · rintro rfl
      exact not_mem_identifier h (by decide) inName

/-- There is no quote in the line of a flag, and no backslash either. -/
theorem sealed_flag {name : String} (h : isIdentifier name = true) :
    Sealed ⟨name, none⟩ (Definition.render ⟨name, none⟩) := by
  have text : (Definition.render ⟨name, none⟩).toList = directiveOpening ++ name.toList := by
    simp [Definition.toList_render, Definition.tail]
  have whole : openingOf (Definition.render ⟨name, none⟩) =
      (Definition.render ⟨name, none⟩).toList := by
    refine openingOf_of_noQuote fun member => ?_
    rw [text] at member
    exact (plain_of_mem_opening h member).2.1 rfl
  constructor
  case printable =>
    rw [text]
    exact fun c member => (plain_of_mem_opening h member).1
  case unspliced =>
    rw [text]
    exact fun last => (plain_of_mem_opening h (List.mem_of_getLast? last)).2.2 rfl
  case opened => simp [whole, text, Definition.opening]
  case flag => exact fun _ => whole
  case closed => exact fun valued => absurd rfl valued

/-- The first quote in the line of a value opens its literal, and the literal ends the line. -/
theorem sealed_value {name : String} (h : isIdentifier name = true) (value : String) :
    Sealed ⟨name, some value⟩ (Definition.render ⟨name, some value⟩) := by
  have text : (Definition.render ⟨name, some value⟩).toList =
      (directiveOpening ++ name.toList ++ [' ']) ++
        '"' :: (Literal.encode value.toList ++ ['"']) := by
    simp [Definition.toList_render, Definition.tail, Literal.toList_quote]
  have noQuote : '"' ∉ directiveOpening ++ name.toList ++ [' '] := by
    intro member
    rcases List.mem_append.mp member with inOpening | blank
    · exact (plain_of_mem_opening h inOpening).2.1 rfl
    · exact absurd blank (by decide)
  obtain ⟨opened, behind⟩ := opening_of_quote text noQuote
  constructor
  case printable =>
    rw [text]
    intro c member
    simp only [List.mem_append, List.mem_cons, List.not_mem_nil, or_false] at member
    rcases member with (inOpening | rfl) | rfl | inValue | rfl
    · exact (plain_of_mem_opening h (List.mem_append.mpr inOpening)).1
    · decide
    · decide
    · exact Literal.isPrintableAscii_iff.mp (Literal.encode_printable _ c inValue)
    · decide
  case unspliced =>
    rw [text, ← List.cons_append, ← List.append_assoc, List.getLast?_concat]
    decide
  case opened => simp [opened, Definition.opening]
  case flag => exact fun flag => by cases flag
  case closed =>
    intro _
    rw [behind]
    exact behindClosing?_encode value.toList []

/-- The line of a definition is sealed, whatever its value. -/
theorem sealed_render {d : Definition} (h : isIdentifier d.name = true) : Sealed d d.render := by
  obtain ⟨name, value⟩ := d
  cases value with
  | none => exact sealed_flag h
  | some value => exact sealed_value h value

/-- The header of a consistent set is made of sealed lines. -/
theorem sealedHeader_render {set : DefinitionSet} (h : set.Consistent) :
    SealedHeader set set.render := by
  have lines := linesOf_render h
  have allSealed : List.Forall₂ Sealed set.definitions (linesOf set.render) := by
    rw [lines, List.forall₂_map_right_iff, List.forall₂_same]
    exact fun d member => sealed_render (h.identifiers d member)
  have ended : set.render.toList =
      (linesOf set.render).flatMap fun line => line.toList ++ ['\n'] := by
    rw [lines, set.toList_render, List.flatMap_map]
  refine ⟨allSealed, allSealed.length_eq.symm, ended, fun c member => ?_⟩
  rw [ended] at member
  obtain ⟨line, inHeader, member⟩ := List.mem_flatMap.mp member
  rw [lines] at inHeader
  obtain ⟨d, inSet, rfl⟩ := List.mem_map.mp inHeader
  rcases List.mem_append.mp member with inLine | isEnd
  · exact .inr ((sealed_render (h.identifiers d inSet)).printable c inLine)
  · exact .inl (List.mem_singleton.mp isEnd)

/-- The openings of the lines of a header do not depend on the values. -/
theorem map_openingOf_linesOf {set : DefinitionSet} (h : set.Consistent) :
    (linesOf set.render).map openingOf = set.definitions.map Definition.opening := by
  rw [linesOf_render h, List.map_map]
  exact List.map_congr_left fun d member => (sealed_render (h.identifiers d member)).opened

/-! ## Two sets -/

theorem SameShape.definition {r s : Request} (h : SameShape r s) :
    SameMold r.definition s.definition := by
  cases h with
  | define | defineLower | flag => exact ⟨rfl, rfl⟩

theorem alike_empty : Alike .empty .empty :=
  ⟨rfl, .nil⟩

theorem SameMold.opening {d other : Definition} (h : SameMold d other) :
    d.opening = other.opening := by
  rw [Definition.opening, Definition.opening, h.name, h.isSome]

theorem Alike.map_openingOf {set other : DefinitionSet} (alike : Alike set other)
    (h : set.Consistent) (hOther : other.Consistent) :
    (linesOf set.render).map openingOf = (linesOf other.render).map openingOf := by
  rw [map_openingOf_linesOf h, map_openingOf_linesOf hOther]
  have molds := alike.definitions
  generalize set.definitions = ds at molds
  generalize other.definitions = es at molds
  induction molds with
  | nil => rfl
  | cons mold _ ih => rw [List.map_cons, List.map_cons, ih, mold.opening]

end BuildHeader.Macro

namespace BuildHeader.Profile

open BuildHeader.Macro

/-! ## Two runs -/

/-- One request on each of two sets that differ in values only: the answer does not depend on the
values, and the sets differ in values only afterwards. -/
theorem alike_perform {set other : DefinitionSet} {r s : Request} (alike : Alike set other)
    (same : SameShape r s) :
    ((Call.request r).perform set).2 = ((Call.request s).perform other).2 ∧
      Alike ((Call.request r).perform set).1 ((Call.request s).perform other).1 := by
  have mold := same.definition
  simp only [Call.perform, DefinitionSet.submitAll, DefinitionSet.submit, DefinitionSet.insert,
    mold.name, alike.names]
  cases isIdentifier s.definition.name with
  | false => exact ⟨rfl, alike⟩
  | true =>
    cases other.names.contains s.definition.name with
    | true => exact ⟨rfl, alike⟩
    | false =>
      refine ⟨rfl, rfl, ?_⟩
      exact List.rel_append alike.definitions (.cons mold .nil)

/-- The induction is on the two lists of requests, for any two sets that differ in values only. -/
theorem alike_afterRequests {set other : DefinitionSet} {requests others : List Request}
    (alike : Alike set other) (same : List.Forall₂ SameShape requests others) :
    answersTo set requests = answersTo other others ∧
      Alike (afterRequests set requests) (afterRequests other others) := by
  induction same generalizing set other with
  | nil => exact ⟨rfl, alike⟩
  | cons first _ ih =>
    obtain ⟨answer, after⟩ := alike_perform alike first
    obtain ⟨answers, last⟩ := ih after
    exact ⟨by rw [answersTo, answersTo, answer, answers], last⟩

/-- All that the values of requests can change.

* `answers`: every request is answered alike.
* `size`: the two sets hold as many definitions.
* `openings`: line by line, the two headers are the same up to the opening quote.
* `own`, `others`: behind it stands in both nothing but a literal that ends where the line ends. -/
structure OnlyLiteralsDiffer (requests others : List Request) : Prop where
  answers : answersTo .empty requests = answersTo .empty others
  size : (afterRequests .empty requests).size = (afterRequests .empty others).size
  openings : (linesOf (afterRequests .empty requests).render).map openingOf =
    (linesOf (afterRequests .empty others).render).map openingOf
  own : SealedHeader (afterRequests .empty requests) (afterRequests .empty requests).render
  others : SealedHeader (afterRequests .empty others) (afterRequests .empty others).render

/-- Whatever the values of requests are, they decide of nothing but the literals of their lines. -/
theorem values_sealed {requests others : List Request}
    (same : List.Forall₂ SameShape requests others) : OnlyLiteralsDiffer requests others := by
  obtain ⟨answers, alike⟩ := alike_afterRequests alike_empty same
  have first := consistent_afterRequests DefinitionSet.consistent_empty requests
  have second := consistent_afterRequests DefinitionSet.consistent_empty others
  exact ⟨answers, alike.definitions.length_eq, alike.map_openingOf first second,
    sealedHeader_render first, sealedHeader_render second⟩

/-- A value with a quote, an end of a line and a directive of its own, and one that ends in a
backslash. The third request is refused in both runs. -/
theorem values_sealed_hostile :
    List.Forall₂ SameShape
        [.define "A" "\"\n#define B \"", .defineLower "C" "Σ\\", .flag "A"]
        [.define "A" "", .defineLower "C" "x", .flag "A"] ∧
      OnlyLiteralsDiffer [.define "A" "\"\n#define B \"", .defineLower "C" "Σ\\", .flag "A"]
        [.define "A" "", .defineLower "C" "x", .flag "A"] := by
  have same : List.Forall₂ SameShape
      [.define "A" "\"\n#define B \"", .defineLower "C" "Σ\\", .flag "A"]
      [.define "A" "", .defineLower "C" "x", .flag "A"] :=
    .cons (.define _ _ _) (.cons (.defineLower _ _ _) (.cons (.flag _) .nil))
  exact ⟨same, values_sealed same⟩

end BuildHeader.Profile
