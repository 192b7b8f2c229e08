import BuildHeader.Literal.Encode
import BuildHeader.Text.CodeRange

/-!
# Quoting by offsets into the bytes

A value is cut twice where it is quoted as a JSON text: its bytes at those that the format escapes
itself, and each fragment between them at the characters outside printable ASCII, with offsets into
the bytes of the fragment. Both cuts are stated here on the bytes, and the literal they write is the
one that `quote` gives.

The outer cut knows nothing of characters: it is right because no byte of a character beyond ASCII
has an escape. The inner one moves on by the size of each character: it is right because `start` and
`offset` stay at the bounds of the characters that are not yet written.

Results:
1. `writeFragment_eq`: a fragment is written as `copyRun` copies its characters.
2. `writeFragments?_eq`: the bytes of a text are written as `encodeFrom` encodes its characters.
3. `quoteInFragments_perCharacter`: the literal is the one written character by character, hence
   the literal of a concatenation has the bodies of both parts.
-/

namespace BuildHeader.Literal

/-! ## Definitions -/

/-- The escape that the format gives to a byte. -/
def byteEscape? (byte : UInt8) : Option (List Char) :=
  formatEscape? (Char.ofNat byte.toNat)

/-- Writes the characters of a fragment that begin at the byte `offset`. Those between the bytes
`start` and `offset` are read and not yet written. A control cannot be among them, DEL can. -/
def writeFragment (fragment : ByteArray) (start offset : Nat) : List Char → ByteArray
  | [] => fragment.extract start fragment.size
  | c :: rest =>
    let next := offset + c.utf8Size
    if c.toNat < 0x80 ∧ c ≠ '\x7f' then writeFragment fragment start next rest
    else
      fragment.extract start offset ++
        (String.ofList ((utf16Units c).flatMap unitEscape)).toUTF8 ++
        writeFragment fragment next next rest

/-- Writes the bytes of a fragment from its first character on; none if they are no text. -/
def writeWholeFragment? (fragment : ByteArray) : Option ByteArray :=
  fragment.utf8Decode?.map fun characters => writeFragment fragment 0 0 characters.toList

/-- Cuts bytes into fragments and escapes. The bytes read since the last escape are in `read`. -/
def writeFragments? (read : ByteArray) : List UInt8 → Option ByteArray
  | [] => writeWholeFragment? read
  | byte :: rest =>
    match byteEscape? byte with
    | some escape => do
      let fragment ← writeWholeFragment? read
      let others ← writeFragments? .empty rest
      return fragment ++ (String.ofList escape).toUTF8 ++ others
    | none => writeFragments? (read.push byte) rest

/-- The literal of a value, computed on its bytes. -/
def quoteInFragments? (value : String) : Option String := do
  let written ← writeFragments? .empty value.toUTF8.data.toList
  let literal ← ("\"".toUTF8 ++ written ++ "\"".toUTF8).utf8Decode?
  return String.ofList literal.toList

/-- What stands between the quotes of a literal. -/
def body (literal : String) : List Char :=
  literal.toList.tail.dropLast

/-- The offsets are bounds of characters: `kept` stand between the bytes `start` and `offset` of the
fragment, and `rest` behind them. -/
structure Bounds (fragment : ByteArray) (start offset : Nat) (kept rest : List Char) : Prop where
  cut : ∃ written : ByteArray, written.size = start ∧
    fragment = written ++ (kept.utf8Encode ++ rest.utf8Encode)
  offset_eq : offset = start + kept.utf8Encode.size

/-! ## Fragments -/

theorem toUTF8_ofList (characters : List Char) :
    (String.ofList characters).toUTF8 = characters.utf8Encode := by
  rw [String.toUTF8_eq_toByteArray, String.toByteArray_ofList]

theorem size_utf8Encode_singleton (c : Char) : [c].utf8Encode.size = c.utf8Size := by
  rw [List.utf8Encode_singleton, List.size_toByteArray, String.length_utf8EncodeChar]

/-- Among characters without an escape of the format, those that a fragment keeps are the printable
ones. -/
theorem keeps_iff_isPrintableAscii {c : Char} (h : formatEscape? c = none) :
    (c.toNat < 0x80 ∧ c ≠ '\x7f') ↔ isPrintableAscii c = true := by
  have notControl : ¬ c.toNat < 0x20 := by
    intro low
    unfold formatEscape? at h
    split at h <;> simp_all
  have isDel : c = '\x7f' ↔ c.toNat = 0x7F := by
    rw [Char.ext_iff, ← UInt32.toNat_inj]
    rfl
  simp only [isPrintableAscii, Bool.and_eq_true, decide_eq_true_eq, ne_eq, isDel]
  omega

theorem Bounds.whole (characters : List Char) : Bounds characters.utf8Encode 0 0 [] characters :=
  ⟨⟨.empty, rfl, by simp⟩, by simp⟩

theorem Bounds.extract_kept {fragment : ByteArray} {start offset : Nat} {kept rest : List Char}
    (h : Bounds fragment start offset kept rest) :
    fragment.extract start offset = kept.utf8Encode := by
  obtain ⟨⟨written, rfl, rfl⟩, rfl⟩ := h
  have behind := @ByteArray.extract_append_size_add written (kept.utf8Encode ++ rest.utf8Encode) 0
    kept.utf8Encode.size
  rw [Nat.add_zero] at behind
  rw [behind, ByteArray.extract_append_eq_left rfl]

theorem Bounds.extract_end {fragment : ByteArray} {start offset : Nat} {kept : List Char}
    (h : Bounds fragment start offset kept []) :
    fragment.extract start fragment.size = kept.utf8Encode := by
  obtain ⟨⟨written, rfl, rfl⟩, -⟩ := h
  rw [List.utf8Encode_nil, ByteArray.append_empty]
  exact ByteArray.extract_append_eq_right rfl ByteArray.size_append

/-- Reading a character moves the offset over its bytes. -/
theorem Bounds.keep {fragment : ByteArray} {start offset : Nat} {kept rest : List Char} {c : Char}
    (h : Bounds fragment start offset kept (c :: rest)) :
    Bounds fragment start (offset + c.utf8Size) (kept ++ [c]) rest := by
  obtain ⟨⟨written, size, rfl⟩, rfl⟩ := h
  refine ⟨⟨written, size, ?_⟩, ?_⟩
  · rw [List.utf8Encode_append, List.utf8Encode_cons, ByteArray.append_assoc]
  · rw [List.utf8Encode_append, ByteArray.size_append, size_utf8Encode_singleton, Nat.add_assoc]

/-- All that is read counts as written where `start` is moved up to the offset. -/
theorem Bounds.flush {fragment : ByteArray} {start offset : Nat} {kept rest : List Char}
    (h : Bounds fragment start offset kept rest) : Bounds fragment offset offset [] rest := by
  obtain ⟨⟨written, rfl, rfl⟩, rfl⟩ := h
  exact ⟨⟨written ++ kept.utf8Encode, ByteArray.size_append, by simp [ByteArray.append_assoc]⟩,
    by simp⟩

/-- A fragment is written from an offset on as `copyRun` copies its characters. -/
theorem writeFragment_eq {fragment : ByteArray} {start offset : Nat} {kept rest : List Char}
    (bounds : Bounds fragment start offset kept rest)
    (free : ∀ c ∈ rest, formatEscape? c = none) :
    writeFragment fragment start offset rest = (copyRun kept.reverse rest).utf8Encode := by
  induction rest generalizing start offset kept with
  | nil => rw [writeFragment, bounds.extract_end, copyRun, List.reverse_reverse]
  | cons c rest ih =>
    obtain ⟨here, later⟩ := List.forall_mem_cons.mp free
    by_cases printable : isPrintableAscii c = true
    · rw [writeFragment, if_pos ((keeps_iff_isPrintableAscii here).mpr printable),
        ih bounds.keep later, copyRun, if_pos printable, List.reverse_append]
      rfl
    · rw [writeFragment, if_neg (mt (keeps_iff_isPrintableAscii here).mp printable),
        bounds.extract_kept, toUTF8_ofList, ih bounds.keep.flush later, copyRun, if_neg printable,
        List.utf8Encode_append, List.utf8Encode_append, List.reverse_reverse]
      rfl

/-- A fragment is written as a run of its characters, and it is always a text. -/
theorem writeWholeFragment?_eq {characters : List Char}
    (free : ∀ c ∈ characters, formatEscape? c = none) :
    writeWholeFragment? characters.utf8Encode = some (copyRun [] characters).utf8Encode := by
  rw [writeWholeFragment?, List.utf8Decode?_utf8Encode, Option.map_some,
    writeFragment_eq (Bounds.whole characters) free]
  rfl

/-! ## Bytes -/

theorem utf8EncodeChar_of_lt {c : Char} (ascii : c.toNat < 0x80) :
    String.utf8EncodeChar c = [UInt8.ofNat c.toNat] := by
  have low : c.val.toNat ≤ 127 := Nat.le_of_lt_succ ascii
  rw [String.utf8EncodeChar.eq_1, if_pos low]
  rfl

/-- Every byte of a character beyond ASCII is beyond it too. -/
theorem le_of_mem_utf8EncodeChar {c : Char} {byte : UInt8} (beyond : 0x80 ≤ c.toNat)
    (mem : byte ∈ String.utf8EncodeChar c) : 0x80 ≤ byte.toNat := by
  have code : c.val.toNat = c.toNat := rfl
  have valid : c.toNat < 0xD800 ∨ 0xDFFF < c.toNat ∧ c.toNat < 0x110000 := c.valid
  rw [String.utf8EncodeChar.eq_1, code, if_neg (by omega)] at mem
  split at mem
  · simp only [List.mem_cons, List.not_mem_nil, or_false] at mem
    rcases mem with rfl | rfl <;> rw [UInt8.toNat_ofNat'] <;> omega
  · split at mem
    · simp only [List.mem_cons, List.not_mem_nil, or_false] at mem
      rcases mem with rfl | rfl | rfl <;> rw [UInt8.toNat_ofNat'] <;> omega
    · simp only [List.mem_cons, List.not_mem_nil, or_false] at mem
      rcases mem with rfl | rfl | rfl | rfl <;> rw [UInt8.toNat_ofNat'] <;> omega

theorem formatEscape?_of_le {c : Char} (beyond : 0x80 ≤ c.toNat) : formatEscape? c = none := by
  have noShort : shortEscape? c = none := by
    unfold shortEscape?
    split
    all_goals first | rfl | simp at beyond
  rw [formatEscape?, noShort]
  exact if_neg (by omega)

theorem byteEscape?_ofNat {c : Char} (ascii : c.toNat < 0x80) :
    byteEscape? (UInt8.ofNat c.toNat) = formatEscape? c := by
  rw [byteEscape?, UInt8.toNat_ofNat', Nat.mod_eq_of_lt (by omega), Char.ofNat_toNat]

theorem byteEscape?_of_le {byte : UInt8} (beyond : 0x80 ≤ byte.toNat) :
    byteEscape? byte = none := by
  have small := byte.toNat_lt
  exact formatEscape?_of_le (by rwa [Text.toNat_ofNat (.inl (by omega))])

/-- A character with an escape is one byte with the same escape. -/
theorem utf8EncodeChar_of_formatEscape {c : Char} {escape : List Char}
    (h : formatEscape? c = some escape) :
    ∃ byte, String.utf8EncodeChar c = [byte] ∧ byteEscape? byte = some escape := by
  have ascii : c.toNat < 0x80 := by
    refine Nat.lt_of_not_le fun beyond => ?_
    rw [formatEscape?_of_le beyond] at h
    cases h
  exact ⟨_, utf8EncodeChar_of_lt ascii, (byteEscape?_ofNat ascii).trans h⟩

/-- No byte of a character without an escape has one. -/
theorem byteEscape?_of_mem {c : Char} {byte : UInt8} (h : formatEscape? c = none)
    (mem : byte ∈ String.utf8EncodeChar c) : byteEscape? byte = none := by
  by_cases ascii : c.toNat < 0x80
  · rw [utf8EncodeChar_of_lt ascii, List.mem_singleton] at mem
    rw [mem, byteEscape?_ofNat ascii, h]
  · exact byteEscape?_of_le (le_of_mem_utf8EncodeChar (Nat.not_lt.mp ascii) mem)

/-- Bytes without an escape become part of the fragment that is read. -/
theorem writeFragments?_append {read : ByteArray} {bytes rest : List UInt8}
    (free : ∀ byte ∈ bytes, byteEscape? byte = none) :
    writeFragments? read (bytes ++ rest) = writeFragments? (read ++ bytes.toByteArray) rest := by
  induction bytes generalizing read with
  | nil => simp
  | cons byte bytes ih =>
    obtain ⟨here, later⟩ := List.forall_mem_cons.mp free
    rw [List.cons_append, writeFragments?, here]
    simp only
    rw [ih later, ← ByteArray.append_toByteArray_singleton, ByteArray.append_assoc,
      ← List.toByteArray_append]
    rfl

/-- The bytes of a text are written as `encodeFrom` encodes its characters. -/
theorem writeFragments?_eq {run rest : List Char} (free : ∀ c ∈ run, formatEscape? c = none) :
    writeFragments? run.reverse.utf8Encode (rest.flatMap String.utf8EncodeChar) =
      some (encodeFrom run rest).utf8Encode := by
  induction rest generalizing run with
  | nil =>
    rw [List.flatMap_nil, writeFragments?, encodeFrom,
      writeWholeFragment?_eq (fun c mem => free c (List.mem_reverse.mp mem))]
  | cons c rest ih =>
    rw [List.flatMap_cons]
    cases found : formatEscape? c with
    | some escape =>
      obtain ⟨byte, only, byteFound⟩ := utf8EncodeChar_of_formatEscape found
      have others := @ih [] (by simp)
      rw [only, List.singleton_append, writeFragments?, byteFound, encodeFrom, found]
      simp only
      rw [writeWholeFragment?_eq (fun c mem => free c (List.mem_reverse.mp mem)),
        ← List.utf8Encode_nil, ← List.reverse_nil, others, toUTF8_ofList]
      simp [List.utf8Encode_append, ByteArray.append_assoc]
    | none =>
      rw [writeFragments?_append (fun byte mem => byteEscape?_of_mem found mem), encodeFrom, found,
        ← List.utf8Encode_singleton, ← List.utf8Encode_append, ← List.reverse_cons,
        ih (List.forall_mem_cons.mpr ⟨found, free⟩)]

/-! ## Literals -/

theorem bytes_eq_flatMap (value : String) :
    value.toUTF8.data.toList = value.toList.flatMap String.utf8EncodeChar := by
  rw [String.toUTF8_eq_toByteArray, ← String.utf8Encode_toList, List.utf8Encode.eq_1,
    List.toList_data_toByteArray]

/-- The two cuts write the literal of a value, and every fragment between them is a text. -/
theorem quoteInFragments?_eq (value : String) : quoteInFragments? value = some (quote value) := by
  have written := @writeFragments?_eq [] value.toList (by simp)
  rw [List.reverse_nil, List.utf8Encode_nil] at written
  have literal : "\"".toUTF8 ++ (encode value.toList).utf8Encode ++ "\"".toUTF8 =
      ('"' :: encode value.toList ++ ['"']).utf8Encode := by
    have sign : "\"".toUTF8 = ['"'].utf8Encode := toUTF8_ofList ['"']
    rw [sign, List.utf8Encode_append, List.utf8Encode_cons (l := encode value.toList)]
  rw [quoteInFragments?, bytes_eq_flatMap, written, ← encode]
  simp only [Option.bind_eq_bind, Option.bind_some]
  rw [literal, List.utf8Decode?_utf8Encode]
  rfl

example : quoteInFragments? "a\x7f😀\"" = some "\"a\\u007f\\ud83d\\ude00\\\"\"" := by cbv

theorem body_quote (value : String) : body (quote value) = value.toList.flatMap encodeChar := by
  simp [body, quote, encode_eq_flatMap]

/-- For every value the two cuts write a quote, each character in its order as its escape or as
itself, and a quote. So the body of a concatenation is the body of both parts. -/
theorem quoteInFragments_perCharacter (value : String) :
    quoteInFragments? value =
      some (String.ofList ('"' :: value.toList.flatMap encodeChar ++ ['"'])) ∧
    quote value = String.ofList ('"' :: value.toList.flatMap encodeChar ++ ['"']) ∧
    ∀ other, body (quote (value ++ other)) = body (quote value) ++ body (quote other) := by
  have perCharacter : quote value =
      String.ofList ('"' :: value.toList.flatMap encodeChar ++ ['"']) := by
    rw [quote, encode_eq_flatMap]
  refine ⟨by rw [quoteInFragments?_eq, perCharacter], perCharacter, fun other => ?_⟩
  rw [body_quote, body_quote, body_quote, String.toList_append, List.flatMap_append]

end BuildHeader.Literal
