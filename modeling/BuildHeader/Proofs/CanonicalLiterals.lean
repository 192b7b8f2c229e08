import Mathlib.Data.List.TFAE
import Mathlib.Data.Set.List
import Mathlib.Tactic.TFAE
import BuildHeader.Proofs.LiteralReading
import BuildHeader.Text.CodeRange

/-!
# Canonical literals

The reader accepts many literals of one value, the writer produces one of them. Which one that is
can be told from the literal alone: it is a sequence of canonical items between two quotes. The
items are described here without the writer, by the characters and digits that they are made of.

Results:
1. `namesUnit_iff`: four lowercase digits name a unit just if they are the ones the writer uses.
2. `canonicalItem_iff`: the canonical items are what single characters are written as.
3. `isCanonical_tfae`: the canonical literals are the written ones, and quoting gives each back from
   the value that is read in it.
-/

namespace BuildHeader.Literal

/-! ## Definitions -/

/-- A digit of `[0-9a-f]`. -/
def IsLowerHexDigit (c : Char) : Prop :=
  ('0' ≤ c ∧ c ≤ '9') ∨ ('a' ≤ c ∧ c ≤ 'f')

/-- `NamesUnit unit escape`: the escape is `\u` and four lowercase digits that name the unit. -/
inductive NamesUnit (unit : Nat) : List Char → Prop
  | digits {a b c d : Char} : IsLowerHexDigit a → IsLowerHexDigit b → IsLowerHexDigit c →
      IsLowerHexDigit d → unit? a b c d = some unit → NamesUnit unit ['\\', 'u', a, b, c, d]

/-- The code of a character that has no shorter form than the escape of its one unit.

* `control`: a control below U+0020 other than the five with a short escape.
* `delete`: DEL.
* `beyond`: a character of U+0080 to U+FFFF; the surrogates are none. -/
inductive NeedsUnit (code : Nat) : Prop
  | control : code < 0x20 → code ∉ [0x08, 0x09, 0x0A, 0x0C, 0x0D] → NeedsUnit code
  | delete : code = 0x7F → NeedsUnit code
  | beyond : 0x80 ≤ code → code ≤ 0xFFFF → ¬ (0xD800 ≤ code ∧ code ≤ 0xDFFF) → NeedsUnit code

/-- What a canonical literal is made of.

* `plain`: a printable ASCII character other than the quote and the backslash.
* `short`: a backslash and the letter of a short escape.
* `unit`: the escape of a character that has no shorter form.
* `pair`: the escape of a high surrogate and directly behind it that of a low one. -/
inductive CanonicalItem : List Char → Prop
  | plain {c : Char} : 0x20 ≤ c.toNat → c.toNat ≤ 0x7E → c ≠ '"' → c ≠ '\\' → CanonicalItem [c]
  | short {letter : Char} : letter ∈ ['"', '\\', 'b', 't', 'n', 'f', 'r'] →
      CanonicalItem ['\\', letter]
  | unit {code : Nat} {escape : List Char} : NeedsUnit code → NamesUnit code escape →
      CanonicalItem escape
  | pair {high low : Nat} {first second : List Char} : isHighSurrogate high = true →
      isLowSurrogate low = true → NamesUnit high first → NamesUnit low second →
      CanonicalItem (first ++ second)

/-- The text is a quote, canonical items and a quote. -/
def IsCanonical (literal : String) : Prop :=
  ∃ items : List (List Char), (∀ item ∈ items, CanonicalItem item) ∧
    literal.toList = '"' :: items.flatten ++ ['"']

/-! ## Digits and units -/

/-- A lowercase digit is the one that is written for its value. -/
theorem IsLowerHexDigit.exists_digitChar {c : Char} (h : IsLowerHexDigit c) :
    ∃ digit, digit < 0x10 ∧ hexValue? c = some digit ∧ Nat.digitChar digit = c := by
  have decimal : ∀ code < 0x3A, 0x30 ≤ code → Nat.digitChar (code - 0x30) = Char.ofNat code := by
    decide
  have letter : ∀ code < 0x67, 0x61 ≤ code → Nat.digitChar (code - 0x57) = Char.ofNat code := by
    decide
  rcases h with ⟨atLeast, atMost⟩ | ⟨atLeast, atMost⟩
  · have low : 0x30 ≤ c.toNat := atLeast
    have high : c.toNat ≤ 0x39 := atMost
    refine ⟨c.toNat - 0x30, by omega, if_pos ⟨atLeast, atMost⟩, ?_⟩
    rw [decimal c.toNat (by omega) low, Char.ofNat_toNat]
  · have low : 0x61 ≤ c.toNat := atLeast
    have high : c.toNat ≤ 0x66 := atMost
    have notDecimal : ¬ ('0' ≤ c ∧ c ≤ '9') := fun ⟨_, below⟩ => by
      have below : c.toNat ≤ 0x39 := below
      omega
    refine ⟨c.toNat - 0x57, by omega, ?_, ?_⟩
    · rw [hexValue?, if_neg notDecimal, if_pos ⟨atLeast, atMost⟩]
    · rw [letter c.toNat (by omega) low, Char.ofNat_toNat]

theorem isLowerHexDigit_digitChar {digit : Nat} (h : digit < 0x10) :
    IsLowerHexDigit (Nat.digitChar digit) := by
  unfold IsLowerHexDigit
  revert digit
  decide

/-- The digits that name a unit are the ones that are written for it. -/
theorem namesUnit_iff {unit : Nat} {escape : List Char} :
    NamesUnit unit escape ↔ unit < 0x10000 ∧ escape = unitEscape unit := by
  constructor
  · rintro ⟨first, second, third, fourth, named⟩
    obtain ⟨a, aBelow, aValue, rfl⟩ := first.exists_digitChar
    obtain ⟨b, bBelow, bValue, rfl⟩ := second.exists_digitChar
    obtain ⟨c, cBelow, cValue, rfl⟩ := third.exists_digitChar
    obtain ⟨d, dBelow, dValue, rfl⟩ := fourth.exists_digitChar
    have sum : 0x1000 * a + 0x100 * b + 0x10 * c + d = unit := by
      simpa [unit?, aValue, bValue, cValue, dValue] using named
    have aDigit : unit / 0x1000 = a := by omega
    have bDigit : unit / 0x100 % 0x10 = b := by omega
    have cDigit : unit / 0x10 % 0x10 = c := by omega
    have dDigit : unit % 0x10 = d := by omega
    refine ⟨by omega, ?_⟩
    rw [unitEscape, hex4, aDigit, bDigit, cDigit, dDigit]
  · rintro ⟨below, rfl⟩
    exact .digits (isLowerHexDigit_digitChar (by omega)) (isLowerHexDigit_digitChar (by omega))
      (isLowerHexDigit_digitChar (by omega)) (isLowerHexDigit_digitChar (by omega))
      (unit?_hex4 below)

/-- The character of a surrogate pair has the pair for its units. -/
theorem utf16Units_joinSurrogates {high low : Nat} (isHigh : isHighSurrogate high = true)
    (isLow : isLowSurrogate low = true) :
    0x10000 ≤ (joinSurrogates high low).toNat ∧
      utf16Units (joinSurrogates high low) = [high, low] := by
  simp only [isHighSurrogate, isLowSurrogate, Bool.and_eq_true, decide_eq_true_eq] at isHigh isLow
  have code : (joinSurrogates high low).toNat =
      0x10000 + (high - 0xD800) * 0x400 + (low - 0xDC00) :=
    Text.toNat_ofNat (.inr (by omega))
  have highBack : 0xD800 + (0x10000 + (high - 0xD800) * 0x400 + (low - 0xDC00) - 0x10000) / 0x400 =
      high := by omega
  have lowBack : 0xDC00 + (0x10000 + (high - 0xD800) * 0x400 + (low - 0xDC00) - 0x10000) % 0x400 =
      low := by omega
  refine ⟨by omega, ?_⟩
  rw [utf16Units, code, if_neg (by omega), highBack, lowBack]

/-! ## Items -/

/-- The codes that need a unit, as ranges. -/
theorem needsUnit_iff {code : Nat} :
    NeedsUnit code ↔ code < 0x08 ∨ code = 0x0B ∨ (0x0D < code ∧ code < 0x20) ∨ code = 0x7F ∨
      (0x7F < code ∧ code < 0xD800) ∨ (0xDFFF < code ∧ code < 0x10000) := by
  constructor
  · intro needs
    cases needs with
    | control low noShort =>
      simp only [List.mem_cons, List.not_mem_nil, or_false] at noShort
      omega
    | delete => omega
    | beyond => omega
  · intro codes
    by_cases low : code < 0x20
    · refine .control low ?_
      simp only [List.mem_cons, List.not_mem_nil, or_false]
      omega
    · by_cases delete : code = 0x7F
      · exact .delete delete
      · exact .beyond (by omega) (by omega) (by omega)

/-- The ways of writing a character exclude each other. -/
theorem WrittenAs.encodeChar_eq {c : Char} {text : List Char} (h : WrittenAs c text) :
    encodeChar c = text := by
  cases h with
  | short letter => simp [encodeChar, letter]
  | plain noShort printable => simp [encodeChar, noShort, printable]
  | unit noShort notPrintable below =>
    simp [encodeChar, noShort, notPrintable, utf16Units, below]
  | pair beyond units =>
    have noShort : shortEscape? c = none := by
      rw [shortEscape?_eq_none_iff]
      omega
    have notPrintable : ¬ isPrintableAscii c = true := by
      rw [isPrintableAscii_iff]
      omega
    simp [encodeChar, noShort, notPrintable, units]

/-- Every way of writing a character gives a canonical item. -/
theorem WrittenAs.canonicalItem {c : Char} {text : List Char} (h : WrittenAs c text) :
    CanonicalItem text := by
  cases h with
  | short letter =>
    refine .short ?_
    unfold shortEscape? at letter
    split at letter <;> cases letter <;> decide
  | plain noShort printable =>
    obtain ⟨atLeast, atMost⟩ := isPrintableAscii_iff.mp printable
    obtain ⟨notQuote, notBackslash, -⟩ := ne_of_noShort noShort
    exact .plain atLeast atMost notQuote notBackslash
  | unit noShort notPrintable below =>
    have valid : c.toNat < 0xD800 ∨ 0xDFFF < c.toNat ∧ c.toNat < 0x110000 := c.valid
    refine .unit ?_ (namesUnit_iff.mpr ⟨below, rfl⟩)
    rw [shortEscape?_eq_none_iff] at noShort
    rw [isPrintableAscii_iff] at notPrintable
    rw [needsUnit_iff]
    omega
  | pair beyond units isHigh isLow =>
    exact .pair isHigh isLow (namesUnit_iff.mpr ⟨lt_of_isHighSurrogate isHigh, rfl⟩)
      (namesUnit_iff.mpr ⟨lt_of_isLowSurrogate isLow, rfl⟩)

/-- Every canonical item is a way of writing a character. -/
theorem CanonicalItem.exists_writtenAs {item : List Char} (h : CanonicalItem item) :
    ∃ c, WrittenAs c item := by
  cases h with
  | @plain c atLeast atMost notQuote notBackslash =>
    have notQuoteCode : c.toNat ≠ 0x22 := fun code => notQuote (Char.toNat_inj.mp code)
    have notBackslashCode : c.toNat ≠ 0x5C := fun code => notBackslash (Char.toNat_inj.mp code)
    refine ⟨c, .plain ?_ ?_⟩
    · rw [shortEscape?_eq_none_iff]
      omega
    · exact isPrintableAscii_iff.mpr ⟨atLeast, atMost⟩
  | @short letter member =>
    simp only [List.mem_cons, List.not_mem_nil, or_false] at member
    rcases member with rfl | rfl | rfl | rfl | rfl | rfl | rfl
    · exact ⟨'"', .short rfl⟩
    · exact ⟨'\\', .short rfl⟩
    · exact ⟨'\x08', .short rfl⟩
    · exact ⟨'\x09', .short rfl⟩
    · exact ⟨'\x0a', .short rfl⟩
    · exact ⟨'\x0c', .short rfl⟩
    · exact ⟨'\x0d', .short rfl⟩
  | @unit code escape needs names =>
    obtain ⟨below, rfl⟩ := namesUnit_iff.mp names
    rw [needsUnit_iff] at needs
    have named : (Char.ofNat code).toNat = code := by
      refine Text.toNat_ofNat ?_
      unfold Nat.isValidChar
      omega
    have written := @WrittenAs.unit (Char.ofNat code)
    rw [shortEscape?_eq_none_iff, isPrintableAscii_iff, named] at written
    exact ⟨Char.ofNat code, written (by omega) (by omega) below⟩
  | @pair high low first second isHigh isLow firstNames secondNames =>
    obtain ⟨-, rfl⟩ := namesUnit_iff.mp firstNames
    obtain ⟨-, rfl⟩ := namesUnit_iff.mp secondNames
    obtain ⟨beyond, units⟩ := utf16Units_joinSurrogates isHigh isLow
    exact ⟨joinSurrogates high low, .pair beyond units isHigh isLow rfl⟩

/-- The canonical items are just what single characters are written as. -/
theorem canonicalItem_iff {item : List Char} : CanonicalItem item ↔ ∃ c, encodeChar c = item := by
  constructor
  · intro canonical
    obtain ⟨c, written⟩ := canonical.exists_writtenAs
    exact ⟨c, written.encodeChar_eq⟩
  · rintro ⟨c, rfl⟩
    exact (writtenAs_encodeChar c).canonicalItem

/-! ## Literals -/

theorem isCanonical_quote (value : String) : IsCanonical (quote value) := by
  refine ⟨value.toList.map encodeChar, ?_, ?_⟩
  · intro item member
    obtain ⟨c, -, rfl⟩ := List.mem_map.mp member
    exact canonicalItem_iff.mpr ⟨c, rfl⟩
  · rw [toList_quote, encode_eq_flatMap, List.flatMap]
    rfl

/-- Canonical items are the characters of some value, one by one. -/
theorem exists_quote_of_isCanonical {literal : String} (h : IsCanonical literal) :
    ∃ value, quote value = literal := by
  obtain ⟨items, canonical, whole⟩ := h
  have written : items ∈ Set.range (List.map encodeChar) := by
    rw [Set.range_list_map]
    exact fun item member => canonicalItem_iff.mp (canonical item member)
  obtain ⟨characters, rfl⟩ := written
  refine ⟨String.ofList characters, String.toList_inj.mp ?_⟩
  rw [whole, toList_quote, String.toList_ofList, encode_eq_flatMap, List.flatMap]
  rfl

/-- The canonical literals are the written ones. Each is read as a literal, and the value read in it
is written as this literal again. -/
theorem isCanonical_tfae (literal : String) : List.TFAE
    [IsCanonical literal,
      ∃ value, quote value = literal,
      ∃ value, value? literal = some value ∧ quote value = literal] := by
  tfae_have 1 → 2 := exists_quote_of_isCanonical
  tfae_have 2 → 3 := by
    rintro ⟨value, rfl⟩
    exact ⟨value, value?_quote value, rfl⟩
  tfae_have 3 → 1 := by
    rintro ⟨value, -, rfl⟩
    exact isCanonical_quote value
  tfae_finish

/-- The reader takes other literals of the same value. -/
example : value? "\"\\u0041\\/\"" = value? (quote "A/") ∧ "\"\\u0041\\/\"" ≠ quote "A/" := by
  decide +kernel

end BuildHeader.Literal
