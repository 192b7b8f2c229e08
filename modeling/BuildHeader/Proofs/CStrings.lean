import Mathlib.Data.List.TFAE
import Mathlib.Tactic.TFAE
import BuildHeader.Proofs.LiteralReading

/-!
# Written literals in C

A written literal is a JSON text, and a compiler of C reads it by rules of its own: C knows more
escapes than JSON, and its `\u` names a character, not a unit, and none below U+00A0. Whether the
compiler reads the value that was written is told here by the characters of the value.

The reader works behind the phases of translation that replace trigraphs, which are off, and that
join lines. It reads one element after the other, each as long as it can be.

Results:
1. `readElement?_encodeChar`: what the compiler makes of one written character, whatever follows it.
2. `portable_tfae`: a literal is one of C just if every character of its value is portable, and then
   its elements are the characters of the value.
-/

namespace BuildHeader.CString

open BuildHeader.Literal

/-! ## The reader -/

/-- The code that a letter stands for after a backslash. -/
def simpleEscape? : Char → Option Nat
  | '"' => some 0x22
  | '\x27' => some 0x27
  | '?' => some 0x3F
  | '\\' => some 0x5C
  | 'a' => some 0x07
  | 'b' => some 0x08
  | 't' => some 0x09
  | 'n' => some 0x0A
  | 'v' => some 0x0B
  | 'f' => some 0x0C
  | 'r' => some 0x0D
  | _ => none

/-- The character is a digit of a base up to sixteen. -/
def isDigitOf (base : Nat) (c : Char) : Bool :=
  (hexValue? c).any (· < base)

/-- The number that digits write in a base. -/
def numberOf (base : Nat) (digits : List Char) : Nat :=
  digits.foldl (fun number digit => base * number + (hexValue? digit).getD 0) 0

/-- Reads as many digits as there are, up to `most`. The number must fit into a byte. -/
def readNumber? (base most : Nat) (text : List Char) : Option (Nat × List Char) :=
  let digits := (text.take most).takeWhile (isDigitOf base)
  if digits = [] ∨ 0xFF < numberOf base digits then none
  else some (numberOf base digits, text.drop digits.length)

/-- A `\u` name may name the character: it is no surrogate, and not below U+00A0. C11 exempts `$`,
`@` and the grave accent from the latter; with `exempt` unset, nothing is exempted. -/
def isNameable (exempt : Bool) (code : Nat) : Bool :=
  (0xA0 ≤ code && code ≤ 0x10FFFF && !(0xD800 ≤ code && code ≤ 0xDFFF)) ||
    (exempt && (code == 0x24 || code == 0x40 || code == 0x60))

/-- The element of a name with that code, and the text after the name. -/
def named? (exempt : Bool) (code? : Option Nat) (rest : List Char) : Option (Nat × List Char) :=
  (code?.filter (isNameable exempt)).map fun code => (code, rest)

/-- Reads what stands behind a backslash: the code of the element and the text after it. -/
def readEscape? (exempt : Bool) : List Char → Option (Nat × List Char)
  | [] => none
  | 'u' :: a :: b :: c :: d :: rest => named? exempt (unit? a b c d) rest
  | 'U' :: a :: b :: c :: d :: e :: f :: g :: h :: rest =>
    let code? := do return 0x10000 * (← unit? a b c d) + (← unit? e f g h)
    named? exempt code? rest
  | 'x' :: rest => readNumber? 16 rest.length rest
  | letter :: rest =>
    match simpleEscape? letter with
    | some code => some (code, rest)
    | none => readNumber? 8 3 (letter :: rest)

/-- Reads one element: an escape, or a character that stands for itself. -/
def readElement? (exempt : Bool) : List Char → Option (Nat × List Char)
  | [] => none
  | '\\' :: rest => readEscape? exempt rest
  | c :: rest => if c = '"' ∨ c = '\n' then none else some (c.toNat, rest)

theorem rest_of_named? {exempt : Bool} {code? : Option Nat} {code : Nat} {text rest : List Char}
    (h : named? exempt code? text = some (code, rest)) : rest = text := by
  obtain ⟨_, -, same⟩ := Option.map_eq_some_iff.mp h
  exact (Prod.mk.inj same).2.symm

theorem readNumber?_length_le {base most code : Nat} {text rest : List Char}
    (h : readNumber? base most text = some (code, rest)) : rest.length ≤ text.length := by
  unfold readNumber? at h
  simp only at h
  split at h
  · cases h
  · obtain ⟨-, rfl⟩ := Prod.mk.inj (Option.some.inj h)
    exact (List.drop_sublist _ _).length_le

theorem readEscape?_length_le {exempt : Bool} {code : Nat} {text rest : List Char}
    (h : readEscape? exempt text = some (code, rest)) : rest.length ≤ text.length := by
  unfold readEscape? at h
  split at h
  · cases h
  · rw [rest_of_named? h]
    simp only [List.length_cons]
    omega
  · rw [rest_of_named? h]
    simp only [List.length_cons]
    omega
  · exact Nat.le_succ_of_le (readNumber?_length_le h)
  · split at h
    · cases h
      exact Nat.le_succ _
    · exact readNumber?_length_le h

theorem readElement?_length_lt {exempt : Bool} {code : Nat} {text rest : List Char}
    (h : readElement? exempt text = some (code, rest)) : rest.length < text.length := by
  unfold readElement? at h
  split at h
  · cases h
  · exact Nat.lt_succ_of_le (readEscape?_length_le h)
  · split at h <;> cases h
    exact Nat.lt_succ_self _

/-- Reads elements up to the closing quote: their codes and the text after the quote. -/
def readElements? (exempt : Bool) (text : List Char) : Option (List Nat × List Char) :=
  if text.head? = some '"' then some ([], text.tail)
  else
    match _ : readElement? exempt text with
    | none => none
    | some (code, rest) =>
      (readElements? exempt rest).map fun (codes, after) => (code :: codes, after)
termination_by text.length
decreasing_by exact readElement?_length_lt ‹_›

/-- The codes of the elements of a text that is one literal and nothing else. -/
def codes? (exempt : Bool) (literal : String) : Option (List Nat) :=
  match literal.toList with
  | '"' :: body =>
    match readElements? exempt body with
    | some (codes, []) => some codes
    | _ => none
  | _ => none

/-- A character whose written form means the same in C.

* `control`: below U+0020 only the five controls with a short escape.
* `notDelete`: not DEL.
* `notHighControl`: none of the controls U+0080 to U+009F.
* `oneUnit`: nothing above U+FFFF. -/
structure IsPortable (c : Char) : Prop where
  control : c.toNat < 0x20 → c.toNat ∈ [0x08, 0x09, 0x0A, 0x0C, 0x0D]
  notDelete : c.toNat ≠ 0x7F
  notHighControl : ¬ (0x80 ≤ c.toNat ∧ c.toNat ≤ 0x9F)
  oneUnit : c.toNat ≤ 0xFFFF

/-! ## Written characters -/

theorem isPortable_iff {c : Char} :
    IsPortable c ↔ (c.toNat = 0x08 ∨ c.toNat = 0x09 ∨ c.toNat = 0x0A ∨ c.toNat = 0x0C ∨
      c.toNat = 0x0D) ∨ (0x20 ≤ c.toNat ∧ c.toNat ≤ 0x7E) ∨
      (0xA0 ≤ c.toNat ∧ c.toNat ≤ 0xFFFF) := by
  constructor
  · rintro ⟨control, notDelete, notHighControl, oneUnit⟩
    simp only [List.mem_cons, List.not_mem_nil, or_false] at control
    omega
  · intro codes
    constructor
    · simp only [List.mem_cons, List.not_mem_nil, or_false]
      omega
    all_goals omega

instance (c : Char) : Decidable (IsPortable c) :=
  decidable_of_iff _ isPortable_iff.symm

/-- The escape of a unit is read as the character with that code, if it may be named at all. It is
four digits long, whatever follows it. -/
theorem readElement?_unitEscape {exempt : Bool} {unit : Nat} (below : unit < 0x10000)
    (rest : List Char) :
    readElement? exempt (unitEscape unit ++ rest) =
      if isNameable exempt unit = true then some (unit, rest) else none := by
  have read : readElement? exempt (unitEscape unit ++ rest) = named? exempt (some unit) rest := by
    rw [← unit?_hex4 below]
    rfl
  rw [read, named?, Option.filter_some]
  split <;> rfl

/-- A short escape of JSON is a simple escape of C. -/
theorem readElement?_shortEscape {exempt : Bool} {c letter : Char} {rest : List Char}
    (h : shortEscape? c = some letter) :
    IsPortable c ∧ readElement? exempt ('\\' :: letter :: rest) = some (c.toNat, rest) := by
  unfold shortEscape? at h
  split at h <;> cases h <;> exact ⟨by decide, rfl⟩

/-- A character without a short escape stands for itself in C as well. -/
theorem readElement?_plain {exempt : Bool} {c : Char} {rest : List Char}
    (noShort : shortEscape? c = none) :
    readElement? exempt (c :: rest) = some (c.toNat, rest) := by
  obtain ⟨notQuote, notBackslash, notNewline⟩ := ne_of_noShort noShort
  unfold readElement?
  split
  · next empty => cases empty
  · next same => exact absurd (List.cons.inj same).1 notBackslash
  · next first others _ same =>
    obtain ⟨rfl, rfl⟩ := List.cons.inj same
    rw [if_neg (not_or.mpr ⟨notQuote, notNewline⟩)]

/-- Of the characters that are written as one unit, those from U+00A0 on may be named. What C11
exempts is printable and never written so. -/
theorem isNameable_iff_isPortable {exempt : Bool} {c : Char} (noShort : shortEscape? c = none)
    (notPrintable : ¬ isPrintableAscii c = true) (below : c.toNat < 0x10000) :
    isNameable exempt c.toNat = true ↔ IsPortable c := by
  have valid : c.toNat < 0xD800 ∨ 0xDFFF < c.toNat ∧ c.toNat < 0x110000 := c.valid
  rw [shortEscape?_eq_none_iff] at noShort
  rw [isPrintableAscii_iff] at notPrintable
  rw [isPortable_iff]
  simp only [isNameable, Bool.or_eq_true, Bool.and_eq_true, Bool.not_eq_true',
    Bool.and_eq_false_iff, decide_eq_true_eq, decide_eq_false_iff_not, beq_iff_eq]
  omega

/-- No half of a surrogate pair may be named. -/
theorem isNameable_of_isHighSurrogate {exempt : Bool} {high : Nat}
    (isHigh : isHighSurrogate high = true) : isNameable exempt high = false := by
  simp only [isHighSurrogate, Bool.and_eq_true, decide_eq_true_eq] at isHigh
  simp only [isNameable, Bool.or_eq_false_iff, Bool.and_eq_false_iff, Bool.not_eq_false',
    Bool.and_eq_true, decide_eq_true_eq, decide_eq_false_iff_not, beq_eq_false_iff_ne]
  omega

/-- What the compiler makes of one written character: the element with its code, and the text that
follows it is left alone; or nothing, if the character is not portable. -/
theorem readElement?_encodeChar (exempt : Bool) (c : Char) (rest : List Char) :
    readElement? exempt (encodeChar c ++ rest) =
      if IsPortable c then some (c.toNat, rest) else none := by
  have written := writtenAs_encodeChar c
  generalize encodeChar c = text at written
  cases written with
  | short isShort =>
    obtain ⟨portable, read⟩ := @readElement?_shortEscape exempt c _ rest isShort
    rw [if_pos portable]
    exact read
  | plain noShort printable =>
    rw [if_pos (isPortable_iff.mpr (.inr (.inl (isPrintableAscii_iff.mp printable))))]
    exact readElement?_plain noShort
  | unit noShort notPrintable below =>
    rw [readElement?_unitEscape below]
    simp only [isNameable_iff_isPortable noShort notPrintable below]
  | pair beyond units isHigh =>
    have notPortable : ¬ IsPortable c := fun portable => by
      have atMost := portable.oneUnit
      omega
    rw [List.append_assoc, readElement?_unitEscape (lt_of_isHighSurrogate isHigh),
      isNameable_of_isHighSurrogate isHigh, if_neg notPortable]
    rfl

/-- No written character is taken for the closing quote. -/
theorem head?_encodeChar (c : Char) (rest : List Char) :
    (encodeChar c ++ rest).head? ≠ some '"' := by
  have written := writtenAs_encodeChar c
  generalize encodeChar c = text at written
  cases written with
  | short => exact fun same => absurd (Option.some.inj same) (by decide)
  | plain noShort => exact fun same => (ne_of_noShort noShort).1 (Option.some.inj same)
  | unit => exact fun same => absurd (Option.some.inj same) (by decide)
  | pair => exact fun same => absurd (Option.some.inj same) (by decide)

/-! ## Literals -/

/-- In front of the closing quote the reader takes one element and goes on behind it. -/
theorem readElements?_of_head {exempt : Bool} {text : List Char} (inside : text.head? ≠ some '"') :
    readElements? exempt text = (readElement? exempt text).bind fun (code, rest) =>
      (readElements? exempt rest).map fun (codes, after) => (code :: codes, after) := by
  rw [readElements?, if_neg inside]
  split
  · next missing => rw [missing, Option.bind_none]
  · next code rest found => rw [found, Option.bind_some]

/-- Of portable characters every element is the character that it was written for. -/
theorem readElements?_encode {exempt : Bool} {characters : List Char}
    (portable : ∀ c ∈ characters, IsPortable c) (after : List Char) :
    readElements? exempt (encode characters ++ '"' :: after) =
      some (characters.map Char.toNat, after) := by
  rw [encode_eq_flatMap]
  induction characters with
  | nil =>
    rw [readElements?]
    simp
  | cons c rest ih =>
    obtain ⟨here, later⟩ := List.forall_mem_cons.mp portable
    rw [List.flatMap_cons, List.append_assoc, readElements?_of_head (head?_encodeChar c _),
      readElement?_encodeChar, if_pos here, Option.bind_some]
    simp [ih later]

/-- A character that is not portable ends the reading wherever it stands. -/
theorem portable_of_readElements? {exempt : Bool} {characters after : List Char}
    {result : List Nat × List Char}
    (read : readElements? exempt (encode characters ++ after) = some result) :
    ∀ c ∈ characters, IsPortable c := by
  rw [encode_eq_flatMap] at read
  induction characters generalizing result with
  | nil => simp
  | cons c rest ih =>
    rw [List.flatMap_cons, List.append_assoc, readElements?_of_head (head?_encodeChar c _),
      readElement?_encodeChar] at read
    split at read
    · next portable =>
      rw [Option.bind_some] at read
      obtain ⟨others, readRest, -⟩ := Option.map_eq_some_iff.mp read
      exact List.forall_mem_cons.mpr ⟨portable, ih readRest⟩
    · cases read

theorem codes?_quote_iff {exempt : Bool} {value : String} {codes : List Nat} :
    codes? exempt (quote value) = some codes ↔
      readElements? exempt (encode value.toList ++ ['"']) = some (codes, []) := by
  rw [codes?, toList_quote]
  simp only
  split
  · next found => simp [found]
  · next missing =>
    refine ⟨fun absent => (by cases absent), fun found => absurd found (missing _)⟩

/-- A written literal is one of C just if the value has portable characters only. Then the elements
that the compiler reads are the characters of the value, and each of them is read by itself,
whatever text follows it. -/
theorem portable_tfae (exempt : Bool) (value : String) : List.TFAE
    [∃ codes, codes? exempt (quote value) = some codes,
      ∀ c ∈ value.toList, IsPortable c,
      codes? exempt (quote value) = some (value.toList.map Char.toNat),
      ∀ c ∈ value.toList, ∀ rest,
        readElement? exempt (encodeChar c ++ rest) = some (c.toNat, rest)] := by
  tfae_have 1 → 2 := by
    rintro ⟨codes, read⟩
    exact portable_of_readElements? (codes?_quote_iff.mp read)
  tfae_have 2 → 3 := by
    intro portable
    rw [codes?_quote_iff]
    exact readElements?_encode portable []
  tfae_have 3 → 1 := fun read => ⟨_, read⟩
  tfae_have 2 → 4 := by
    intro portable c member rest
    rw [readElement?_encodeChar, if_pos (portable c member)]
  tfae_have 4 → 2 := by
    intro reads c member
    have read := reads c member []
    rw [readElement?_encodeChar] at read
    split at read
    · next portable => exact portable
    · cases read
  tfae_finish

/-- An octal escape takes three digits, and a name of a control is refused. -/
example : codes? true "\"\\1011\\u00e9\"" = some [0x41, 0x31, 0xE9] ∧
    codes? true "\"\\u007f\"" = none := by cbv

end BuildHeader.CString
