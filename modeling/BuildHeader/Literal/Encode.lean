/-!
# Quoting a value

A value is written as a JSON string literal of printable ASCII characters. A quote, a backslash
and five controls have a short escape; a printable ASCII character stands for itself; any other
character is written as the `\u` escapes of its UTF-16 units, in lowercase hexadecimal.

The text is cut at the characters with an escape of the format itself, and the runs between them
are copied with only the characters outside printable ASCII replaced.

This file proves that cutting into runs gives the same text as writing character by character
(`encode_eq_flatMap`).
-/

namespace BuildHeader.Literal

/-! ## Definitions -/

/-- The letter after the backslash in a short escape. -/
def shortEscape? : Char → Option Char
  | '"' => some '"'
  | '\\' => some '\\'
  | '\x08' => some 'b'
  | '\x09' => some 't'
  | '\x0a' => some 'n'
  | '\x0c' => some 'f'
  | '\x0d' => some 'r'
  | _ => none

/-- The UTF-16 units of a character: itself, or a surrogate pair above U+FFFF. -/
def utf16Units (c : Char) : List Nat :=
  if c.toNat < 0x10000 then [c.toNat]
  else [0xD800 + (c.toNat - 0x10000) / 0x400, 0xDC00 + (c.toNat - 0x10000) % 0x400]

/-- A unit as four lowercase hexadecimal digits. -/
def hex4 (unit : Nat) : List Char :=
  [Nat.digitChar (unit / 0x1000), Nat.digitChar (unit / 0x100 % 0x10),
    Nat.digitChar (unit / 0x10 % 0x10), Nat.digitChar (unit % 0x10)]

/-- The `\u` escape of a unit. -/
def unitEscape (unit : Nat) : List Char :=
  '\\' :: 'u' :: hex4 unit

/-- The character stands for itself unless it is a quote or a backslash: U+0020 to U+007E. -/
def isPrintableAscii (c : Char) : Bool :=
  0x20 ≤ c.toNat && c.toNat ≤ 0x7E

/-- The escape that the format itself gives to a character: a quote, a backslash or a control
below U+0020. -/
def formatEscape? (c : Char) : Option (List Char) :=
  match shortEscape? c with
  | some letter => some ['\\', letter]
  | none => if c.toNat < 0x20 then some (unitEscape c.toNat) else none

/-- One character of a run: it holds no character with an escape of the format. -/
def runChar (c : Char) : List Char :=
  if isPrintableAscii c then [c] else (utf16Units c).flatMap unitEscape

/-- Copies a run. The characters in `kept`, given backwards, are printable and not yet written;
they are written in one piece before the next escape and at the end. -/
def copyRun (kept : List Char) : List Char → List Char
  | [] => kept.reverse
  | c :: rest =>
    if isPrintableAscii c then copyRun (c :: kept) rest
    else kept.reverse ++ (utf16Units c).flatMap unitEscape ++ copyRun [] rest

/-- Cuts a text into runs and escapes. The run read so far is in `run`, given backwards. -/
def encodeFrom (run : List Char) : List Char → List Char
  | [] => copyRun [] run.reverse
  | c :: rest =>
    match formatEscape? c with
    | some escape => copyRun [] run.reverse ++ escape ++ encodeFrom [] rest
    | none => encodeFrom (c :: run) rest

/-- The body of a literal, without its quotes. -/
def encode (value : List Char) : List Char :=
  encodeFrom [] value

/-- One character in the body of a literal. -/
def encodeChar (c : Char) : List Char :=
  match shortEscape? c with
  | some letter => ['\\', letter]
  | none => if isPrintableAscii c then [c] else (utf16Units c).flatMap unitEscape

/-- The literal of a value, in double quotes. -/
def quote (value : String) : String :=
  String.ofList ('"' :: encode value.toList ++ ['"'])

/-! ## Lemmas -/

theorem copyRun_eq {kept run : List Char} :
    copyRun kept run = kept.reverse ++ run.flatMap runChar := by
  induction run generalizing kept with
  | nil => simp [copyRun]
  | cons c rest ih =>
    by_cases h : isPrintableAscii c = true <;> simp [copyRun, runChar, h, ih]

theorem encodeChar_of_formatEscape {c : Char} {escape : List Char}
    (h : formatEscape? c = some escape) : encodeChar c = escape := by
  unfold formatEscape? at h
  unfold encodeChar
  split at h
  · simpa using h
  · rename_i noShort
    split at h
    · rename_i low
      have below : c.toNat < 0x10000 := by omega
      simp only [Option.some.injEq] at h
      simp [isPrintableAscii, utf16Units, Nat.not_le.mpr low, below, h]
    · simp at h

theorem encodeChar_of_noFormatEscape {c : Char} (h : formatEscape? c = none) :
    encodeChar c = runChar c := by
  unfold formatEscape? at h
  unfold encodeChar
  split at h
  · simp at h
  · rfl

theorem encodeFrom_eq {run rest : List Char} :
    encodeFrom run rest = run.reverse.flatMap runChar ++ rest.flatMap encodeChar := by
  induction rest generalizing run with
  | nil => simp [encodeFrom, copyRun_eq]
  | cons c rest ih =>
    unfold encodeFrom
    split
    · rename_i escape found
      simp [copyRun_eq, ih, encodeChar_of_formatEscape found]
    · rename_i missing
      simp [ih, encodeChar_of_noFormatEscape missing]

/-- Cutting into runs gives the same text as writing character by character. -/
theorem encode_eq_flatMap (value : List Char) : encode value = value.flatMap encodeChar := by
  simp [encode, encodeFrom_eq]

end BuildHeader.Literal
