import BuildHeader.Proofs.LiteralReading
import BuildHeader.Text.Legible

/-!
# Reading back a legible form

The legible form of a text is one line, and a reader finds the text in it. The writer decides by
tables which characters are shown as they are, and the reader knows nothing of them: it takes every
character as it is but the quote and the backslash.

Results:
1. `shownAs_legibleChar`: the three ways in which a character is shown.
2. `readLegible_toDigits`: the digits of a code point are read as the code point.
3. `readLegible_legibleChar`, `legible?_legible`: a legible form is read as its text.
4. `not_breaksLine_legible`: it holds no control character and no end of a line.
-/

namespace BuildHeader.Text

/-! ## Definitions -/

/-- A control character, or one that ends a line or a paragraph. -/
def BreaksLine (c : Char) : Prop :=
  c.toNat < 0x20 ∨ (0x7F ≤ c.toNat ∧ c.toNat < 0xA0) ∨ c.toNat = 0x2028 ∨ c.toNat = 0x2029

/-- The character that a letter stands for behind a backslash. -/
def unescape? : Char → Option Char
  | '"' => some '"'
  | '\\' => some '\\'
  | 'n' => some '\n'
  | 'r' => some '\r'
  | 't' => some '\t'
  | '0' => some '\x00'
  | _ => none

/-- Reads a legible form up to its closing quote: the text, and what stands behind the quote. Between
the braces of an escape, the first argument is what has been read of its code point. -/
def readLegible : Option Nat → List Char → Option (List Char × List Char)
  | _, [] => none
  | some code, '\x7d' :: rest =>
    (readLegible none rest).map fun (text, after) => (Char.ofNat code :: text, after)
  | some code, digit :: rest =>
    (Literal.hexValue? digit).bind fun value => readLegible (some (0x10 * code + value)) rest
  | none, '"' :: rest => some ([], rest)
  | none, '\\' :: 'u' :: '\x7b' :: rest => readLegible (some 0) rest
  | none, '\\' :: letter :: rest =>
    (unescape? letter).bind fun c =>
      (readLegible none rest).map fun (text, after) => (c :: text, after)
  | none, c :: rest =>
    if c = '\\' then none else (readLegible none rest).map fun (text, after) => (c :: text, after)

/-- The text of which this is the legible form, and nothing else. -/
def legible? : List Char → Option String
  | '"' :: body =>
    match readLegible none body with
    | some (text, []) => some (String.ofList text)
    | _ => none
  | _ => none

/-- `ShownAs c form`: the ways in which one character is shown.

* `short`: as a backslash and a letter.
* `plain`: as itself.
* `code`: as its code point. -/
inductive ShownAs (c : Char) : List Char → Prop
  | short {letter : Char} : shortEscape? c = some letter → ShownAs c ['\\', letter]
  | plain : shortEscape? c = none → isPlain c = true → ShownAs c [c]
  | code : ShownAs c (codePointEscape c)

theorem shownAs_legibleChar (c : Char) : ShownAs c (legibleChar c) := by
  unfold legibleChar
  cases short : shortEscape? c with
  | some letter => exact .short short
  | none =>
    cases plain : isPlain c with
    | true => exact .plain short plain
    | false => exact .code

/-! ## Code points -/

theorem readLegible_digitChar {code digit : Nat} (h : digit < 0x10) (rest : List Char) :
    readLegible (some code) (Nat.digitChar digit :: rest) =
      readLegible (some (0x10 * code + digit)) rest := by
  have notBrace : ∀ d < 0x10, Nat.digitChar d ≠ '\x7d' := by decide
  rw [readLegible, Literal.hexValue?_digitChar h, Option.bind_some]
  exact notBrace digit h

/-- The digits of a code point are read as the code point. The induction takes the last digit
away. -/
theorem readLegible_toDigits (code : Nat) (rest : List Char) :
    readLegible (some 0) (Nat.toDigits 0x10 code ++ rest) = readLegible (some code) rest := by
  induction code using Nat.strongRecOn generalizing rest with
  | _ code ih =>
    by_cases single : code < 0x10
    · rw [Nat.toDigits_of_lt_base single, List.singleton_append, readLegible_digitChar single,
        Nat.mul_zero, Nat.zero_add]
    · rw [Nat.toDigits_of_base_le (by decide) (Nat.not_lt.mp single), List.append_assoc,
        ih (code / 0x10) (by omega), List.singleton_append, readLegible_digitChar (by omega),
        Nat.div_add_mod]

theorem readLegible_codePointEscape (c : Char) (rest : List Char) :
    readLegible none (codePointEscape c ++ rest) =
      (readLegible none rest).map fun (text, after) => (c :: text, after) := by
  simp only [codePointEscape, List.cons_append, List.nil_append, List.append_assoc]
  rw [readLegible, readLegible_toDigits, readLegible, Char.ofNat_toNat]

theorem exists_digit_of_mem_toDigits {code : Nat} {x : Char} (member : x ∈ Nat.toDigits 0x10 code) :
    ∃ digit < 0x10, x = Nat.digitChar digit := by
  induction code using Nat.strongRecOn with
  | _ code ih =>
    by_cases single : code < 0x10
    · rw [Nat.toDigits_of_lt_base single, List.mem_singleton] at member
      exact ⟨code, single, member⟩
    · rw [Nat.toDigits_of_base_le (by decide) (Nat.not_lt.mp single)] at member
      rcases List.mem_append.mp member with earlier | last
      · exact ih (code / 0x10) (by omega) earlier
      · exact ⟨code % 0x10, Nat.mod_lt _ (by decide), List.mem_singleton.mp last⟩

/-! ## Reading back a text -/

theorem readLegible_short {c letter : Char} (h : shortEscape? c = some letter) (rest : List Char) :
    readLegible none ('\\' :: letter :: rest) =
      (readLegible none rest).map fun (text, after) => (c :: text, after) := by
  unfold shortEscape? at h
  split at h <;> cases h <;> rfl

theorem readLegible_plain {c : Char} (h : shortEscape? c = none) (rest : List Char) :
    readLegible none (c :: rest) =
      (readLegible none rest).map fun (text, after) => (c :: text, after) := by
  have notQuote : c ≠ '"' := by
    rintro rfl
    cases h
  have notBackslash : c ≠ '\\' := by
    rintro rfl
    cases h
  rw [readLegible]
  · rw [if_neg notBackslash]
  all_goals simp_all

/-- The reader takes one shown character as a whole, whatever follows it. -/
theorem readLegible_legibleChar (c : Char) (rest : List Char) :
    readLegible none (legibleChar c ++ rest) =
      (readLegible none rest).map fun (text, after) => (c :: text, after) := by
  have shown := shownAs_legibleChar c
  generalize legibleChar c = form at shown
  cases shown with
  | short letter => exact readLegible_short letter rest
  | plain noShort => exact readLegible_plain noShort rest
  | code => exact readLegible_codePointEscape c rest

theorem readLegible_flatMap (text rest : List Char) :
    readLegible none (text.flatMap legibleChar ++ '"' :: rest) = some (text, rest) := by
  induction text with
  | nil => rfl
  | cons c text ih =>
    rw [List.flatMap_cons, List.append_assoc, readLegible_legibleChar, ih]
    rfl

theorem toList_legible (text : String) :
    (legible text).toList = '"' :: (text.toList.flatMap legibleChar ++ ['"']) := by
  simp [legible]

/-- The legible form of a text is read as the text. -/
theorem legible?_legible (text : String) : legible? (legible text).toList = some text := by
  rw [toList_legible, legible?, readLegible_flatMap]
  simp

example : legible? "\"a\\u\x7b301\x7d\\n\"".toList = some "a\u0301\n" := by cbv

/-! ## One line -/

theorem not_breaksLine_of_printable {c : Char} (h : 0x20 ≤ c.toNat ∧ c.toNat ≤ 0x7E) :
    ¬ BreaksLine c := by
  unfold BreaksLine
  omega

/-- What ends a line has no shape of its own. -/
theorem not_breaksLine_of_isPlain {c : Char} (plain : isPlain c = true) : ¬ BreaksLine c := by
  have shapeless : ∀ range ∈ unprintableTable, ¬ (range.first ≤ c.toNat ∧ c.toNat ≤ range.last) := by
    intro range member within
    have listed := inTable_eq_true_iff.mpr ⟨range, member, within⟩
    simp [isPlain, listed] at plain
  -- The ranges of the table that cover the controls and the two separators.
  have low := shapeless ⟨0x0, 0x1F⟩ (by decide +kernel)
  have high := shapeless ⟨0x7F, 0xA0⟩ (by decide +kernel)
  have separators := shapeless ⟨0x2028, 0x202F⟩ (by decide +kernel)
  unfold BreaksLine
  dsimp only at low high separators
  omega

theorem not_breaksLine_of_isPrintableAscii {c : Char} (h : Literal.isPrintableAscii c = true) :
    ¬ BreaksLine c :=
  not_breaksLine_of_printable (Literal.isPrintableAscii_iff.mp h)

/-- A text of printable characters is one line. -/
theorem not_breaksLine_of_all {text : List Char} (h : text.all Literal.isPrintableAscii = true) :
    ∀ c ∈ text, ¬ BreaksLine c :=
  fun c member => not_breaksLine_of_isPrintableAscii (List.all_eq_true.mp h c member)

theorem shortEscape_printable {c letter : Char} (h : shortEscape? c = some letter) :
    Literal.isPrintableAscii letter = true := by
  unfold shortEscape? at h
  split at h <;> cases h <;> rfl

theorem codePointEscape_printable {c x : Char} (member : x ∈ codePointEscape c) :
    Literal.isPrintableAscii x = true := by
  simp only [codePointEscape, List.mem_append, List.mem_cons, List.not_mem_nil, or_false] at member
  rcases member with ((rfl | rfl | rfl) | digits) | rfl
  · decide
  · decide
  · decide
  · obtain ⟨digit, below, rfl⟩ := exists_digit_of_mem_toDigits digits
    exact Literal.digitChar_printable below
  · decide

theorem not_breaksLine_legibleChar (c : Char) : ∀ x ∈ legibleChar c, ¬ BreaksLine x := by
  have shown := shownAs_legibleChar c
  generalize legibleChar c = form at shown
  intro x member
  cases shown with
  | short letter =>
    rcases List.mem_cons.mp member with rfl | member
    · exact not_breaksLine_of_isPrintableAscii (by decide)
    · rw [List.mem_singleton.mp member]
      exact not_breaksLine_of_isPrintableAscii (shortEscape_printable letter)
  | plain _ plain =>
    rw [List.mem_singleton.mp member]
    exact not_breaksLine_of_isPlain plain
  | code => exact not_breaksLine_of_isPrintableAscii (codePointEscape_printable member)

/-- The legible form of a text is one line, whatever the text holds. -/
theorem not_breaksLine_legible (text : String) : ∀ x ∈ (legible text).toList, ¬ BreaksLine x := by
  intro x member
  rw [toList_legible] at member
  simp only [List.mem_cons, List.mem_append, List.mem_flatMap, List.not_mem_nil, or_false] at member
  rcases member with rfl | ⟨c, _, member⟩ | rfl
  · exact not_breaksLine_of_isPrintableAscii (by decide)
  · exact not_breaksLine_legibleChar c x member
  · exact not_breaksLine_of_isPrintableAscii (by decide)

end BuildHeader.Text
