import BuildHeader.Proofs.HeaderLines

/-!
# Lowercase copies

Lowercasing is no mapping of single characters: one letter becomes two, and a capital sigma looks at
the word around it. Still a second lowercasing finds nothing to do, since no letter is both mapped
and a small form of another, and no capital sigma is left to decide on.

For a build this means that the lowercase copies of its values can take the place of the values.

Results:
1. `not_mem_capitals`: no letter that is mapped is the small form of a letter.
2. `lowercaseChar_of_mem`: what one character becomes is not mapped further.
3. `lowercase_lowercase`: lowercasing is idempotent.
4. `BuildInfo.copies_stable`: a build whose values are its lowercase copies has the same copies.
-/

namespace BuildHeader.Text

/-! ## Capital and small letters -/

/-- As many codes from `start` on as the run has letters, as far apart. -/
def CaseRun.codesFrom (run : CaseRun) (start : Nat) : List Nat :=
  (List.range ((run.last - run.first) / run.step + 1)).map (start + run.step * ·)

/-- The codes of the letters that are mapped. -/
def capitals : List Nat :=
  0x130 :: lowercaseRuns.flatMap fun run => run.codesFrom run.first

/-- The codes that they are mapped to. -/
def smalls : List Nat :=
  lowercaseRuns.flatMap fun run => run.codesFrom run.target

/-- A number with the bits of these codes. -/
def bitsOf (codes : List Nat) : Nat :=
  codes.foldr (fun code bits => bits ||| 1 <<< code) 0

theorem testBit_bitsOf {codes : List Nat} {code : Nat} (member : code ∈ codes) :
    (bitsOf codes).testBit code = true := by
  induction codes with
  | nil => cases member
  | cons first rest ih =>
    have unfolded : bitsOf (first :: rest) = bitsOf rest ||| 1 <<< first := rfl
    rw [unfolded, Nat.testBit_or, Bool.or_eq_true]
    rcases List.mem_cons.mp member with rfl | later
    · exact .inr (by simp [Nat.testBit_shiftLeft])
    · exact .inl (ih later)

/-- The two sets of codes as two numbers: comparing each code with each would take long. -/
theorem bitsOf_disjoint : bitsOf capitals &&& bitsOf smalls = 0 := by
  decide +kernel

theorem not_mem_capitals {code : Nat} (small : code ∈ smalls) : code ∉ capitals := by
  intro capital
  have both : (bitsOf capitals &&& bitsOf smalls).testBit code = true := by
    rw [Nat.testBit_and, testBit_bitsOf capital, testBit_bitsOf small, Bool.and_self]
  rw [bitsOf_disjoint, Nat.zero_testBit] at both
  cases both

theorem CaseRun.mem_codesFrom {run : CaseRun} {code : Nat} (covers : run.covers code = true)
    (start : Nat) : start + (code - run.first) ∈ run.codesFrom start := by
  obtain ⟨atLeast, atMost, inStep⟩ := CaseRun.covers_iff.mp covers
  refine List.mem_map.mpr ⟨(code - run.first) / run.step, ?_, ?_⟩
  · rw [List.mem_range, Nat.lt_succ_iff]
    exact Nat.div_le_div_right (by omega)
  · rw [Nat.mul_div_cancel' (Nat.dvd_of_mod_eq_zero inStep)]

theorem mem_capitals {run : CaseRun} {code : Nat} (member : run ∈ lowercaseRuns)
    (covers : run.covers code = true) : code ∈ capitals := by
  have there := CaseRun.mem_codesFrom covers run.first
  have atLeast := (CaseRun.covers_iff.mp covers).1
  rw [Nat.add_sub_cancel' atLeast] at there
  exact List.mem_cons_of_mem _ (List.mem_flatMap.mpr ⟨run, member, there⟩)

theorem map_mem_smalls {run : CaseRun} {code : Nat} (member : run ∈ lowercaseRuns)
    (covers : run.covers code = true) : run.map code ∈ smalls :=
  List.mem_flatMap.mpr ⟨run, member, CaseRun.mem_codesFrom covers run.target⟩

/-! ## A second lowercasing -/

/-- A character that is no capital letter stays as it is. -/
theorem lowercaseChar_of_not_mem {c : Char} (notCapital : c.toNat ∉ capitals) :
    lowercaseChar c = [c] := by
  have notDotted : c ≠ '\u0130' := by
    rintro rfl
    exact notCapital List.mem_cons_self
  rw [lowercaseChar, if_neg notDotted]
  split
  · next run found =>
    obtain ⟨member, covers⟩ := covers_of_find? found
    exact absurd (mem_capitals member covers) notCapital
  · rfl

/-- What a character becomes on its own is not mapped further. -/
theorem lowercaseChar_of_mem {c x : Char} (member : x ∈ lowercaseChar c) :
    lowercaseChar x = [x] := by
  unfold lowercaseChar at member
  split at member
  · simp only [List.mem_cons, List.not_mem_nil, or_false] at member
    rcases member with rfl | rfl
    · decide +kernel
    · decide +kernel
  · next notDotted =>
    split at member
    · next run found =>
      obtain ⟨inTable, covers⟩ := covers_of_find? found
      obtain rfl := List.mem_singleton.mp member
      refine lowercaseChar_of_not_mem ?_
      rw [toNat_map inTable covers]
      exact not_mem_capitals (map_mem_smalls inTable covers)
    · next missing =>
      obtain rfl := List.mem_singleton.mp member
      rw [lowercaseChar, if_neg notDotted, missing]

/-- In a text, too, what a character becomes is not mapped further: both forms of the sigma are
small. -/
theorem lowercaseChar_of_mem_lowercaseFrom {before text : List Char} {x : Char}
    (member : x ∈ lowercaseFrom before text) : lowercaseChar x = [x] := by
  induction text generalizing before with
  | nil => cases member
  | cons c rest ih =>
    obtain ⟨small, whole, single⟩ := lowercaseFrom_cons before c rest
    rw [whole] at member
    rcases List.mem_append.mp member with here | later
    · rcases single with rfl | ⟨-, rfl | rfl⟩
      · exact lowercaseChar_of_mem here
      · rw [List.mem_singleton.mp here]
        decide +kernel
      · rw [List.mem_singleton.mp here]
        decide +kernel
    · exact ih later

/-- A text that is not mapped character by character stays as it is, since no capital sigma stands
in it. -/
theorem lowercaseFrom_of_fixed {before text : List Char}
    (fixed : ∀ x ∈ text, lowercaseChar x = [x]) : lowercaseFrom before text = text := by
  have noSigma : 'Σ' ∉ text := fun member => absurd (fixed 'Σ' member) (by decide +kernel)
  rw [lowercaseFrom_eq_flatMap noSigma, List.flatMap_congr fixed]
  simp

/-- Lowercasing is idempotent. -/
theorem lowercase_lowercase (text : String) : lowercase (lowercase text) = lowercase text := by
  have fixed : ∀ x ∈ lowercaseFrom [] text.toList, lowercaseChar x = [x] :=
    fun x => lowercaseChar_of_mem_lowercaseFrom
  rw [lowercase, lowercase, String.toList_ofList, lowercaseFrom_of_fixed fixed]

/-- A text of ASCII is lowercased character by character, by the mapping of ASCII alone. -/
theorem lowercaseFrom_of_ascii {before text : List Char} (ascii : ∀ c ∈ text, IsAscii c) :
    lowercaseFrom before text = text.map asciiLowercaseChar := by
  induction text generalizing before with
  | nil => rfl
  | cons c rest ih =>
    obtain ⟨here, later⟩ := List.forall_mem_cons.mp ascii
    rw [lowercaseFrom_cons_of_ascii here, ih later, List.map_cons]

end BuildHeader.Text

namespace BuildHeader.Profile

open BuildHeader.Macro

/-! ## Definitions -/

/-- The macros of a build that have a lowercase copy, and what each is fed with. -/
def BuildInfo.copied : List (String × (BuildInfo → String)) :=
  [("ALUSUS_CMAKE_BUILD_TYPE", fun build => build.buildType),
    ("ALUSUS_CMAKE_SYSTEM_NAME", fun build => build.systemName),
    ("ALUSUS_CMAKE_SYSTEM_PROCESSOR", fun build => build.processor)]

/-- The build with these values in small letters. -/
def BuildInfo.lowered (build : BuildInfo) : BuildInfo :=
  { build with
    buildType := Text.lowercase build.buildType
    systemName := Text.lowercase build.systemName
    processor := Text.lowercase build.processor }

/-- The value that a set gives to a macro. -/
def valueIn (set : DefinitionSet) (name : String) : Option String :=
  (set.get? name).bind (·.value)

/-- The build `small` is `build` with three values replaced.

* `replaced`: each by the value that the set gives to its lowercase copy.
* `kept`: all others are those of `build`. -/
structure IsLowered (build small : BuildInfo) (set : DefinitionSet) : Prop where
  replaced : ∀ name feed, (name, feed) ∈ BuildInfo.copied →
    valueIn set (name ++ lowerEnding) = some (feed small)
  kept : small = { build with
    buildType := small.buildType, systemName := small.systemName, processor := small.processor }

/-- How the sets of two builds agree in what depends on lowercase copies.

* `copies`: the copies have the same values in both.
* `plain`: in the second, each macro has the value of its copy.
* `debug`, `logs`: both are debug builds, or none is; and so with the flag that enables logs.
* `ascii`: the copy of a value of ASCII is the value with `A` to `Z` replaced by `a` to `z`. -/
structure AgreesOnCopies (build small : BuildInfo) (set smallSet : DefinitionSet) : Prop where
  copies : ∀ name feed, (name, feed) ∈ BuildInfo.copied →
    valueIn smallSet (name ++ lowerEnding) = valueIn set (name ++ lowerEnding)
  plain : ∀ name feed, (name, feed) ∈ BuildInfo.copied →
    valueIn smallSet name = valueIn smallSet (name ++ lowerEnding)
  debug : small.isDebug = build.isDebug
  logs : (smallSet.get? "ALUSUS_USE_LOGS").isSome = (set.get? "ALUSUS_USE_LOGS").isSome
  ascii : ∀ name feed, (name, feed) ∈ BuildInfo.copied →
    (∀ c ∈ (feed build).toList, Text.IsAscii c) →
      valueIn set (name ++ lowerEnding) =
        some (String.ofList ((feed build).toList.map Text.asciiLowercaseChar))

/-! ## Values in a set -/

theorem valueIn_of_feed {build : BuildInfo} {set : DefinitionSet} (consistent : set.Consistent)
    (definitions : set.definitions = build.requests.map Request.definition) {name : String}
    {feed : BuildInfo → String} (member : (name, feed) ∈ BuildInfo.feeds) :
    valueIn set name = some (feed build) := by
  have inSet : ⟨name, some (feed build)⟩ ∈ set.definitions := by
    rw [definitions, build.definitions_feeds]
    exact List.mem_append_left _ (List.mem_map.mpr ⟨(name, feed), member, rfl⟩)
  rw [valueIn, consistent.get?_eq_some_iff.mpr ⟨inSet, rfl⟩, Option.bind_some]

theorem copied_feeds {name : String} {feed : BuildInfo → String}
    (member : (name, feed) ∈ BuildInfo.copied) :
    (name, feed) ∈ BuildInfo.feeds ∧
      (name ++ lowerEnding, fun build => Text.lowercase (feed build)) ∈ BuildInfo.feeds := by
  simp only [BuildInfo.copied, List.mem_cons, List.not_mem_nil, or_false, Prod.mk.injEq] at member
  rcases member with ⟨rfl, rfl⟩ | ⟨rfl, rfl⟩ | ⟨rfl, rfl⟩ <;> simp [BuildInfo.feeds, lowerEnding]

/-- The set holds the flag that enables logs just for debug builds. -/
theorem isSome_get?_useLogs {build : BuildInfo} {set : DefinitionSet} (consistent : set.Consistent)
    (definitions : set.definitions = build.requests.map Request.definition) :
    (set.get? "ALUSUS_USE_LOGS").isSome = build.isDebug := by
  rw [Bool.eq_iff_iff, Option.isSome_iff_exists]
  constructor
  · rintro ⟨d, found⟩
    obtain ⟨member, named⟩ := consistent.get?_eq_some_iff.mp found
    exact BuildInfo.isDebug_of_useLogs (definitions ▸ member) named
  · intro debug
    have member : useLogs ∈ set.definitions :=
      definitions ▸ List.mem_of_getLast? (build.getLast?_useLogs debug)
    exact ⟨useLogs, consistent.get?_eq_some_iff.mpr ⟨member, rfl⟩⟩

/-! ## The lowered build -/

theorem feed_lowered {name : String} {feed : BuildInfo → String}
    (member : (name, feed) ∈ BuildInfo.copied) (build : BuildInfo) :
    feed build.lowered = Text.lowercase (feed build) := by
  simp only [BuildInfo.copied, List.mem_cons, List.not_mem_nil, or_false, Prod.mk.injEq] at member
  rcases member with ⟨-, rfl⟩ | ⟨-, rfl⟩ | ⟨-, rfl⟩ <;> rfl

theorem isDebug_lowered (build : BuildInfo) : build.lowered.isDebug = build.isDebug := by
  have same : Text.lowercase build.lowered.buildType = Text.lowercase build.buildType :=
    Text.lowercase_lowercase build.buildType
  rw [Bool.eq_iff_iff, BuildInfo.isDebug_iff, BuildInfo.isDebug_iff, same]

/-- The lowercase copies of a build can take the place of the values that they are copies of: the
build that has them for its values has the same copies, and it is a debug build just if the first
one is. -/
theorem BuildInfo.copies_stable (build : BuildInfo) :
    ∃ set small smallSet, build.definitions = .ok set ∧ IsLowered build small set ∧
      small.definitions = .ok smallSet ∧ AgreesOnCopies build small set smallSet := by
  obtain ⟨set, defined, consistent, requested⟩ := (Subject.build build).exists_definitions
  obtain ⟨smallSet, smallDefined, smallConsistent, smallRequested⟩ :=
    (Subject.build build.lowered).exists_definitions
  have copy : ∀ name feed, (name, feed) ∈ BuildInfo.copied →
      valueIn set (name ++ lowerEnding) = some (Text.lowercase (feed build)) :=
    fun name feed member => valueIn_of_feed consistent requested (copied_feeds member).2
  have smallCopy : ∀ name feed, (name, feed) ∈ BuildInfo.copied →
      valueIn smallSet (name ++ lowerEnding) = some (Text.lowercase (feed build)) := by
    intro name feed member
    rw [valueIn_of_feed smallConsistent smallRequested (copied_feeds member).2,
      feed_lowered member, Text.lowercase_lowercase]
  have smallPlain : ∀ name feed, (name, feed) ∈ BuildInfo.copied →
      valueIn smallSet name = some (Text.lowercase (feed build)) := by
    intro name feed member
    rw [valueIn_of_feed smallConsistent smallRequested (copied_feeds member).1, feed_lowered member]
  refine ⟨set, build.lowered, smallSet, defined, ⟨?_, rfl⟩, smallDefined, ⟨?_, ?_, ?_, ?_, ?_⟩⟩
  · intro name feed member
    rw [copy name feed member, feed_lowered member]
  · intro name feed member
    rw [smallCopy name feed member, copy name feed member]
  · intro name feed member
    rw [smallPlain name feed member, smallCopy name feed member]
  · exact isDebug_lowered build
  · rw [isSome_get?_useLogs smallConsistent smallRequested,
      isSome_get?_useLogs consistent requested, isDebug_lowered]
  · intro name feed member ascii
    rw [copy name feed member, Text.lowercase, Text.lowercaseFrom_of_ascii ascii]

end BuildHeader.Profile
