import BuildHeader.Literal.Decode

/-!
# Reading back what was quoted

The reader of `Literal.Decode` accepts more than the writer produces, so the statements here go one
way only: what is written is read as the value that it was written for, whatever text follows it.

Results:
1. `unit?_hex4`, `joinSurrogates_utf16Units`: the digits of a unit give the unit, and the two units
   of a character above U+FFFF give the character.
2. `writtenAs_encodeChar`: the four ways in which a character is written.
3. `readBody_encodeChar`: the reader takes one written character as a whole.
4. `read_literal`, `read_quote`: it takes one written literal as a whole.
5. `encode_printable`: a written literal is one line of printable ASCII.
-/

namespace BuildHeader.Literal

/-! ## Units -/

theorem hexValue?_digitChar {digit : Nat} (h : digit < 0x10) :
    hexValue? (Nat.digitChar digit) = some digit := by
  revert digit
  decide

/-- The four digits of a unit write the unit. -/
theorem unit?_hex4 {unit : Nat} (h : unit < 0x10000) :
    unit? (Nat.digitChar (unit / 0x1000)) (Nat.digitChar (unit / 0x100 % 0x10))
      (Nat.digitChar (unit / 0x10 % 0x10)) (Nat.digitChar (unit % 0x10)) = some unit := by
  have first := hexValue?_digitChar (show unit / 0x1000 < 0x10 by omega)
  have second := hexValue?_digitChar (show unit / 0x100 % 0x10 < 0x10 by omega)
  have third := hexValue?_digitChar (show unit / 0x10 % 0x10 < 0x10 by omega)
  have fourth := hexValue?_digitChar (show unit % 0x10 < 0x10 by omega)
  have sum : 0x1000 * (unit / 0x1000) + 0x100 * (unit / 0x100 % 0x10) +
      0x10 * (unit / 0x10 % 0x10) + unit % 0x10 = unit := by omega
  simp [unit?, first, second, third, fourth, sum]

theorem char_not_surrogate (c : Char) :
    isHighSurrogate c.toNat = false ∧ isLowSurrogate c.toNat = false := by
  have valid : c.toNat < 0xD800 ∨ 0xDFFF < c.toNat ∧ c.toNat < 0x110000 := c.valid
  simp only [isHighSurrogate, isLowSurrogate, Bool.and_eq_false_iff, decide_eq_false_iff_not]
  omega

theorem lt_of_isHighSurrogate {unit : Nat} (h : isHighSurrogate unit = true) : unit < 0x10000 := by
  simp only [isHighSurrogate, Bool.and_eq_true, decide_eq_true_eq] at h
  omega

theorem lt_of_isLowSurrogate {unit : Nat} (h : isLowSurrogate unit = true) : unit < 0x10000 := by
  simp only [isLowSurrogate, Bool.and_eq_true, decide_eq_true_eq] at h
  omega

/-- The two units of a character above U+FFFF are a surrogate pair of that character. -/
theorem joinSurrogates_utf16Units {c : Char} (h : 0x10000 ≤ c.toNat) :
    ∃ high low, utf16Units c = [high, low] ∧ isHighSurrogate high = true ∧
      isLowSurrogate low = true ∧ joinSurrogates high low = c := by
  have valid : c.toNat < 0xD800 ∨ 0xDFFF < c.toNat ∧ c.toNat < 0x110000 := c.valid
  refine ⟨0xD800 + (c.toNat - 0x10000) / 0x400, 0xDC00 + (c.toNat - 0x10000) % 0x400,
    if_neg (Nat.not_lt.mpr h), ?_, ?_, ?_⟩
  · simp only [isHighSurrogate, Bool.and_eq_true, decide_eq_true_eq]
    omega
  · simp only [isLowSurrogate, Bool.and_eq_true, decide_eq_true_eq]
    omega
  · have code : 0x10000 + (0xD800 + (c.toNat - 0x10000) / 0x400 - 0xD800) * 0x400 +
        (0xDC00 + (c.toNat - 0x10000) % 0x400 - 0xDC00) = c.toNat := by omega
    rw [joinSurrogates, code, Char.ofNat_toNat]

/-! ## Written characters -/

/-- The characters with a meaning of their own in a literal have a short escape. -/
theorem ne_of_noShort {c : Char} (noShort : shortEscape? c = none) :
    c ≠ '"' ∧ c ≠ '\\' ∧ c ≠ '\n' := by
  refine ⟨?_, ?_, ?_⟩ <;> rintro rfl <;> cases noShort

theorem isPrintableAscii_iff {c : Char} :
    isPrintableAscii c = true ↔ 0x20 ≤ c.toNat ∧ c.toNat ≤ 0x7E := by
  simp [isPrintableAscii]

/-- The characters without a short escape, by their codes. -/
theorem shortEscape?_eq_none_iff {c : Char} :
    shortEscape? c = none ↔ c.toNat ≠ 0x22 ∧ c.toNat ≠ 0x5C ∧ c.toNat ≠ 0x08 ∧ c.toNat ≠ 0x09 ∧
      c.toNat ≠ 0x0A ∧ c.toNat ≠ 0x0C ∧ c.toNat ≠ 0x0D := by
  constructor
  · intro none
    rw [← Char.ofNat_toNat c] at none
    refine ⟨?_, ?_, ?_, ?_, ?_, ?_, ?_⟩ <;> intro code <;> rw [code] at none <;> cases none
  · intro codes
    unfold shortEscape?
    split
    all_goals first | rfl | exact absurd codes (by decide)

/-- `WrittenAs c text`: the ways in which one character is written.

* `short`: as a backslash and a letter.
* `plain`: as itself, if it is printable.
* `unit`: as the escape of its one unit.
* `pair`: as the escapes of its two units, a surrogate pair that is joined to the character. -/
inductive WrittenAs (c : Char) : List Char → Prop
  | short {letter : Char} : shortEscape? c = some letter → WrittenAs c ['\\', letter]
  | plain : shortEscape? c = none → isPrintableAscii c = true → WrittenAs c [c]
  | unit : shortEscape? c = none → ¬ isPrintableAscii c = true → c.toNat < 0x10000 →
      WrittenAs c (unitEscape c.toNat)
  | pair {high low : Nat} : 0x10000 ≤ c.toNat → utf16Units c = [high, low] →
      isHighSurrogate high = true → isLowSurrogate low = true → joinSurrogates high low = c →
      WrittenAs c (unitEscape high ++ unitEscape low)

/-- Every character is written in one of these ways. -/
theorem writtenAs_encodeChar (c : Char) : WrittenAs c (encodeChar c) := by
  unfold encodeChar
  cases short : shortEscape? c with
  | some letter => exact .short short
  | none =>
    by_cases printable : isPrintableAscii c = true
    · simpa [printable] using WrittenAs.plain short printable
    · by_cases below : c.toNat < 0x10000
      · simpa [printable, utf16Units, below] using WrittenAs.unit short printable below
      · obtain ⟨high, low, units, isHigh, isLow, joined⟩ :=
          joinSurrogates_utf16Units (Nat.not_lt.mp below)
        simpa [printable, units] using
          WrittenAs.pair (Nat.not_lt.mp below) units isHigh isLow joined

/-! ## Escapes -/

/-- An escape that is no part of a surrogate pair is read as its character. -/
theorem readBody_unitEscape {unit : Nat} {rest : List Char} (below : unit < 0x10000)
    (notHigh : isHighSurrogate unit = false) (notLow : isLowSurrogate unit = false) :
    readBody (unitEscape unit ++ rest) =
      (readBody rest).map fun (value, after) => (Char.ofNat unit :: value, after) := by
  simp [unitEscape, hex4, readBody, unit?_hex4 below, notHigh, notLow]

/-- The escapes of a surrogate pair are read as one character. -/
theorem readBody_pair {high low : Nat} {rest : List Char}
    (isHigh : isHighSurrogate high = true) (isLow : isLowSurrogate low = true) :
    readBody (unitEscape high ++ (unitEscape low ++ rest)) =
      (readBody rest).map fun (value, after) => (joinSurrogates high low :: value, after) := by
  have notLow : isLowSurrogate high = false := by
    simp only [isHighSurrogate, isLowSurrogate, Bool.and_eq_true, Bool.and_eq_false_iff,
      decide_eq_true_eq, decide_eq_false_iff_not] at isHigh ⊢
    omega
  simp [unitEscape, hex4, readBody, unit?_hex4 (lt_of_isHighSurrogate isHigh),
    unit?_hex4 (lt_of_isLowSurrogate isLow), isHigh, isLow, notLow]

theorem readBody_shortEscape {c letter : Char} {rest : List Char}
    (h : shortEscape? c = some letter) :
    readBody ('\\' :: letter :: rest) =
      (readBody rest).map fun (value, after) => (c :: value, after) := by
  unfold shortEscape? at h
  split at h <;> cases h <;> rfl

/-- A printable character without a short escape is neither the closing quote nor a backslash. -/
theorem readBody_printable {c : Char} {rest : List Char} (noShort : shortEscape? c = none)
    (printable : isPrintableAscii c = true) :
    readBody (c :: rest) = (readBody rest).map fun (value, after) => (c :: value, after) := by
  obtain ⟨notQuote, notBackslash, -⟩ := ne_of_noShort noShort
  have notControl : ¬ c.toNat < 0x20 := by
    simp only [isPrintableAscii, Bool.and_eq_true, decide_eq_true_eq] at printable
    omega
  rw [readBody]
  · rw [if_neg (by simp [notBackslash, notControl])]
  all_goals simp_all

/-! ## Characters and literals -/

/-- The reader takes one written character as a whole, whatever follows it. -/
theorem readBody_encodeChar (c : Char) (rest : List Char) :
    readBody (encodeChar c ++ rest) =
      (readBody rest).map fun (value, after) => (c :: value, after) := by
  have written := writtenAs_encodeChar c
  generalize encodeChar c = text at written
  cases written with
  | short letter => exact readBody_shortEscape letter
  | plain noShort printable => exact readBody_printable noShort printable
  | unit noShort notPrintable below =>
    obtain ⟨notHigh, notLow⟩ := char_not_surrogate c
    simpa [Char.ofNat_toNat] using readBody_unitEscape below notHigh notLow
  | pair beyond units isHigh isLow joined =>
    -- Two escapes that only count together.
    rw [List.append_assoc, readBody_pair isHigh isLow, joined]

theorem readBody_encode (value rest : List Char) :
    readBody (encode value ++ '"' :: rest) = some (value, rest) := by
  rw [encode_eq_flatMap]
  induction value with
  | nil => simp [readBody]
  | cons c value ih =>
    rw [List.flatMap_cons, List.append_assoc, readBody_encodeChar, ih]
    rfl

/-- The characters of a literal. -/
theorem toList_quote (value : String) :
    (quote value).toList = '"' :: (encode value.toList ++ ['"']) := by
  simp [quote]

theorem read_literal (value : String) (rest : List Char) :
    read ('"' :: (encode value.toList ++ '"' :: rest)) = some (value.toList, rest) :=
  readBody_encode value.toList rest

/-- The reader takes a written literal as a whole, whatever follows it, and gives the value that it
was written for. -/
theorem read_quote (value : String) (rest : List Char) :
    read ((quote value).toList ++ rest) = some (value.toList, rest) := by
  rw [toList_quote, List.cons_append, List.append_assoc]
  exact read_literal value rest

example : read "\"a\\ud83d\\ude00\\n\" 1".toList = some ("a😀\n".toList, " 1".toList) := by cbv

/-- A written literal is the literal of the value that it was written for. -/
theorem value?_quote (value : String) : value? (quote value) = some value := by
  have whole := read_quote value []
  rw [List.append_nil] at whole
  simp [value?, whole]

/-! ## The characters of a literal -/

theorem digitChar_printable {digit : Nat} (h : digit < 0x10) :
    isPrintableAscii (Nat.digitChar digit) = true := by
  revert digit
  decide

theorem unitEscape_printable {unit : Nat} (h : unit < 0x10000) :
    ∀ x ∈ unitEscape unit, isPrintableAscii x = true := by
  intro x member
  simp only [unitEscape, hex4, List.mem_cons, List.not_mem_nil, or_false] at member
  rcases member with rfl | rfl | rfl | rfl | rfl | rfl
  · decide
  · decide
  all_goals exact digitChar_printable (by omega)

theorem shortEscape_printable {c letter : Char} (h : shortEscape? c = some letter) :
    isPrintableAscii letter = true := by
  unfold shortEscape? at h
  split at h <;> cases h <;> rfl

theorem encodeChar_printable (c : Char) : ∀ x ∈ encodeChar c, isPrintableAscii x = true := by
  have written := writtenAs_encodeChar c
  generalize encodeChar c = text at written
  cases written with
  | short letter =>
    intro x member
    rcases List.mem_cons.mp member with rfl | member
    · decide
    · rw [List.mem_singleton.mp member]
      exact shortEscape_printable letter
  | plain noShort printable => simpa using printable
  | unit noShort notPrintable below => exact unitEscape_printable below
  | pair beyond units isHigh isLow =>
    intro x member
    rcases List.mem_append.mp member with first | second
    · exact unitEscape_printable (lt_of_isHighSurrogate isHigh) x first
    · exact unitEscape_printable (lt_of_isLowSurrogate isLow) x second

/-- What stands between the quotes is printable ASCII, so that no value can end its line. -/
theorem encode_printable (value : List Char) :
    ∀ x ∈ encode value, isPrintableAscii x = true := by
  intro x member
  rw [encode_eq_flatMap] at member
  obtain ⟨c, _, member⟩ := List.mem_flatMap.mp member
  exact encodeChar_printable c x member

end BuildHeader.Literal
