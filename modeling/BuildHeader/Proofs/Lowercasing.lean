import BuildHeader.Text.Lowercase

/-!
# Lowercase text and ASCII

The full lowercase mapping takes an ASCII character to one ASCII character, as the mapping of ASCII
alone does. Any other character is taken to characters outside of ASCII, but for two: the dotted
capital I, whose small form begins with `i`, and the Kelvin sign, whose small form is `k`.

Results:
1. `lowercaseChar_of_ascii`, `lowercaseChar_of_foreign`: the mapping of one character.
2. `lowercaseFrom_eq_iff`: a word of ASCII without `i` and `k` is the lowercase form of just the texts
   that differ from it in the case of ASCII letters.
-/

namespace BuildHeader.Text

/-! ## The table -/

/-- The one run of letters in ASCII. -/
def asciiRun : CaseRun := ⟨0x41, 0x5A, 1, 0x61⟩

/-- The Kelvin sign, whose small letter is in ASCII. -/
def kelvinRun : CaseRun := ⟨0x212A, 0x212A, 1, 0x6B⟩

theorem eq_asciiRun : ∀ run ∈ lowercaseRuns, run.first < 0x80 → run = asciiRun := by
  decide +kernel

theorem target_lowercaseRuns :
    ∀ run ∈ lowercaseRuns, run.target < 0x80 → run = asciiRun ∨ run = kelvinRun := by
  decide +kernel

/-- Every code point that a letter is mapped to is that of a character. -/
theorem isValidChar_lowercaseRuns : ∀ run ∈ lowercaseRuns,
    run.target + (run.last - run.first) < 0xD800 ∨
      (0xE000 ≤ run.target ∧ run.target + (run.last - run.first) < 0x110000) := by
  decide +kernel

theorem CaseRun.covers_iff {run : CaseRun} {code : Nat} :
    run.covers code = true ↔
      run.first ≤ code ∧ code ≤ run.last ∧ (code - run.first) % run.step = 0 := by
  simp [covers, and_assoc]

/-- The run that is found for a letter is one of the table, and covers it. -/
theorem covers_of_find? {code : Nat} {run : CaseRun}
    (found : lowercaseRuns.find? (·.covers code) = some run) :
    run ∈ lowercaseRuns ∧ run.covers code = true :=
  ⟨List.mem_of_find?_eq_some found, by simpa using List.find?_some found⟩

/-- A letter of the table is mapped to one character, with the code point that the table gives. -/
theorem toNat_map {run : CaseRun} {code : Nat} (member : run ∈ lowercaseRuns)
    (covers : run.covers code = true) : (Char.ofNat (run.map code)).toNat = run.map code := by
  obtain ⟨atLeast, atMost, -⟩ := CaseRun.covers_iff.mp covers
  have valid : (run.map code).isValidChar := by
    unfold Nat.isValidChar CaseRun.map
    rcases isValidChar_lowercaseRuns run member with low | ⟨high, below⟩
    · left
      omega
    · right
      omega
  exact toNat_ofNat valid

/-! ## One character -/

/-- The character is in ASCII. -/
def IsAscii (c : Char) : Prop :=
  c.toNat < 0x80

instance (c : Char) : Decidable (IsAscii c) :=
  inferInstanceAs (Decidable (_ < _))

theorem asciiLowercaseChar_eq (c : Char) :
    asciiLowercaseChar c =
      if 0x41 ≤ c.toNat ∧ c.toNat ≤ 0x5A then Char.ofNat (c.toNat + 32) else c := rfl

theorem asciiLowercaseChar_of_foreign {c : Char} (h : ¬ IsAscii c) : asciiLowercaseChar c = c := by
  unfold IsAscii at h
  rw [asciiLowercaseChar_eq, if_neg (by omega)]

/-- On ASCII the full mapping is the mapping of ASCII alone. -/
theorem lowercaseChar_of_ascii {c : Char} (h : IsAscii c) :
    lowercaseChar c = [asciiLowercaseChar c] := by
  unfold IsAscii at h
  have notDotted : c ≠ '\u0130' := by
    rintro rfl
    exact absurd h (by decide)
  rw [lowercaseChar, if_neg notDotted, asciiLowercaseChar_eq]
  split
  · next run found =>
    obtain ⟨member, covers⟩ := covers_of_find? found
    obtain ⟨atLeast, atMost, -⟩ := CaseRun.covers_iff.mp covers
    obtain rfl := eq_asciiRun run member (by omega)
    simp only [asciiRun] at atLeast atMost
    have same : asciiRun.map c.toNat = c.toNat + 32 := by
      simp only [asciiRun, CaseRun.map]
      omega
    rw [if_pos ⟨atLeast, atMost⟩, same]
  · next missing =>
    have uncovered : ¬ asciiRun.covers c.toNat = true :=
      List.find?_eq_none.mp missing asciiRun (by decide +kernel)
    simp only [CaseRun.covers_iff, asciiRun, Nat.mod_one, and_true] at uncovered
    rw [if_neg uncovered]

/-- Outside of ASCII nothing is mapped into ASCII but for the dotted capital I and the Kelvin sign. -/
theorem lowercaseChar_of_foreign {c : Char} (h : ¬ IsAscii c) :
    lowercaseChar c ≠ [] ∧ ∀ x ∈ lowercaseChar c, ¬ IsAscii x ∨ x = 'i' ∨ x = 'k' := by
  unfold lowercaseChar
  split
  · refine ⟨List.cons_ne_nil _ _, fun x member => ?_⟩
    simp only [List.mem_cons, List.not_mem_nil, or_false] at member
    rcases member with rfl | rfl
    · exact .inr (.inl rfl)
    · exact .inl (by decide)
  split
  · next run found =>
    obtain ⟨member, covers⟩ := covers_of_find? found
    obtain ⟨atLeast, atMost, -⟩ := CaseRun.covers_iff.mp covers
    refine ⟨List.cons_ne_nil _ _, fun x inResult => ?_⟩
    obtain rfl := List.mem_singleton.mp inResult
    by_cases low : run.target < 0x80
    · rcases target_lowercaseRuns run member low with rfl | rfl
      · simp only [asciiRun] at atMost
        unfold IsAscii at h
        omega
      · -- The Kelvin sign is the one code point of its run.
        simp only [kelvinRun] at atLeast atMost
        have kelvin : c.toNat = 0x212A := by omega
        rw [kelvin]
        exact .inr (.inr rfl)
    · left
      unfold IsAscii
      rw [toNat_map member covers, CaseRun.map]
      omega
  · refine ⟨List.cons_ne_nil _ _, fun x member => .inl ?_⟩
    rwa [List.mem_singleton.mp member]

/-! ## Whole texts -/

/-- What a character becomes in a text: it is mapped on its own unless it is a capital sigma. -/
theorem lowercaseFrom_cons (before : List Char) (c : Char) (rest : List Char) :
    ∃ small, lowercaseFrom before (c :: rest) = small ++ lowercaseFrom (c :: before) rest ∧
      (small = lowercaseChar c ∨ c = 'Σ' ∧ (small = ['ς'] ∨ small = ['σ'])) := by
  refine ⟨_, rfl, ?_⟩
  by_cases sigma : c = 'Σ'
  · rw [if_pos sigma]
    split <;> simp [sigma]
  · rw [if_neg sigma]
    exact .inl rfl

/-- In a text, too, a character of ASCII becomes the one character of ASCII. -/
theorem lowercaseFrom_cons_of_ascii {c : Char} (h : IsAscii c) (before rest : List Char) :
    lowercaseFrom before (c :: rest) = asciiLowercaseChar c :: lowercaseFrom (c :: before) rest := by
  obtain ⟨small, whole, rfl | ⟨rfl, -⟩⟩ := lowercaseFrom_cons before c rest
  · rw [whole, lowercaseChar_of_ascii h, List.singleton_append]
  · exact absurd h (by decide)

/-- In a text, too, any other character leaves no character of ASCII but `i` and `k`. -/
theorem lowercaseFrom_cons_of_foreign {c : Char} (h : ¬ IsAscii c) (before rest : List Char) :
    ∃ first ∈ lowercaseFrom before (c :: rest), ¬ IsAscii first ∨ first = 'i' ∨ first = 'k' := by
  obtain ⟨small, whole, single⟩ := lowercaseFrom_cons before c rest
  have foreign : small ≠ [] ∧ ∀ x ∈ small, ¬ IsAscii x ∨ x = 'i' ∨ x = 'k' := by
    rcases single with rfl | ⟨-, rfl | rfl⟩
    · exact lowercaseChar_of_foreign h
    · exact ⟨List.cons_ne_nil _ _, List.forall_mem_singleton.mpr (.inl (by decide))⟩
    · exact ⟨List.cons_ne_nil _ _, List.forall_mem_singleton.mpr (.inl (by decide))⟩
  obtain ⟨first, others, rfl⟩ := List.exists_cons_of_ne_nil foreign.1
  rw [whole]
  exact ⟨first, by simp, foreign.2 first List.mem_cons_self⟩

/-- A word of ASCII without the two letters that come from outside of ASCII as well. -/
def IsPlainWord (word : List Char) : Prop :=
  ∀ x ∈ word, IsAscii x ∧ x ≠ 'i' ∧ x ≠ 'k'

/-- A plain word is the lowercase form of just the texts that differ from it in the case of ASCII
letters. The induction is on the text: a character outside of ASCII cannot stand in it, since it
leaves a character that is none of the word. -/
theorem lowercaseFrom_eq_iff {word : List Char} (plain : IsPlainWord word)
    (before text : List Char) :
    lowercaseFrom before text = word ↔ text.map asciiLowercaseChar = word := by
  induction text generalizing before word with
  | nil => rfl
  | cons c rest ih =>
    by_cases ascii : IsAscii c
    · rw [lowercaseFrom_cons_of_ascii ascii, List.map_cons]
      cases word with
      | nil => simp
      | cons first others =>
        have later : IsPlainWord others := fun x member => plain x (List.mem_cons_of_mem _ member)
        rw [List.cons.injEq, List.cons.injEq, ih later]
    · refine iff_of_false ?_ ?_
      · rintro rfl
        obtain ⟨first, member, foreign⟩ := lowercaseFrom_cons_of_foreign ascii before rest
        obtain ⟨inAscii, notI, notK⟩ := plain first member
        rcases foreign with notAscii | isI | isK
        · exact notAscii inAscii
        · exact notI isI
        · exact notK isK
      · rintro rfl
        rw [List.map_cons, asciiLowercaseChar_of_foreign ascii] at plain
        exact ascii (plain c List.mem_cons_self).1

/-- In texts: the two ways to ignore case agree on a plain word in small letters. -/
theorem lowercase_eq_iff {word : String} (plain : IsPlainWord word.toList)
    (small : word.toList.map asciiLowercaseChar = word.toList) (text : String) :
    lowercase text = word ↔ equalIgnoringAsciiCase text word = true := by
  rw [equalIgnoringAsciiCase, beq_iff_eq, small, ← lowercaseFrom_eq_iff plain [], lowercase,
    ← String.toList_inj, String.toList_ofList]

/-- The Kelvin sign is a `k` to the full mapping alone. -/
example : lowercase "\u212A" = "k" ∧ equalIgnoringAsciiCase "\u212A" "k" = false := by
  decide +kernel

end BuildHeader.Text
