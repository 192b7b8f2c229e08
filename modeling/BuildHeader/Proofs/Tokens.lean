import BuildHeader.Command.Parse

/-!
# Tokens of the command line

The words after a subcommand, told by what they ask for: values under the names of options, a dry
run, more output, and the output directory. What a list of tokens asks for, and whether it can be
asked, is said here by counting, without reading the list in order.

Results:
1. `ofChars_value`, `ofChars_directory`: how the word of a token is read.
2. `find?_named`: each name is that of an option, and of no other argument.
3. `acceptable_iff`: acceptable tokens stand together, and none is missing.
4. `Acceptable.perm`, `Fits.invocationOf_perm`: what is asked for does not depend on the order.
-/

namespace BuildHeader.Command

open BuildHeader.Profile

/-! ## Definitions -/

/-- What a word after the subcommand asks for.

* `value`: an option of that name is to have that value.
* `dryRun`: the header is to be printed only.
* `verbose`: more is to be logged.
* `directory`: that is the output directory. -/
inductive Token
  | value (name text : String)
  | dryRun
  | verbose
  | directory (text : String)
deriving DecidableEq, Repr

/-- The word that is written for a token. -/
def Token.word : Token → String
  | value name text => "--" ++ name ++ "=" ++ text
  | dryRun => "--dry-run"
  | verbose => "-v"
  | directory text => text

/-- The names of the options that must be given. -/
def requiredNames : Subcommand → List String
  | .dirs => []
  | .full =>
    ["version", "revision", "shlib-version", "release-date", "hijri-release-date", "compiler",
      "build-type", "system-name", "system-processor"]

/-- The names of the options that may be given. -/
def optionalNames : List String :=
  ["file-name", "bin-dir-name", "lib-dir-name", "include-dir-name"]

/-- A token names an option of the subcommand, and a directory does not look like an option. -/
def Token.BelongsTo (s : Subcommand) : Token → Prop
  | value name _ => name ∈ requiredNames s ++ optionalNames
  | dryRun | verbose => True
  | directory text => text.toList.head? ≠ some '-'

/-- The values that are given under a name. -/
def valuesOf (name : String) (tokens : List Token) : List String :=
  tokens.filterMap fun
    | .value other text => if other = name then some text else none
    | _ => none

/-- The output directories that are given. -/
def directoriesOf (tokens : List Token) : List String :=
  tokens.filterMap fun
    | .directory text => some text
    | _ => none

/-- What must be given is given once, nothing is given twice but a wish for more output, and the
output directory is not empty. -/
structure Acceptable (s : Subcommand) (tokens : List Token) : Prop where
  required : ∀ name ∈ requiredNames s, (valuesOf name tokens).length = 1
  optional : ∀ name ∈ optionalNames, (valuesOf name tokens).length ≤ 1
  dryRun : tokens.count .dryRun ≤ 1
  directory : ∃ text, directoriesOf tokens = [text] ∧ text ≠ ""

/-- Tokens that can stand together, though some may be missing. -/
structure Fits (s : Subcommand) (tokens : List Token) : Prop where
  values : ∀ name ∈ requiredNames s ++ optionalNames, (valuesOf name tokens).length ≤ 1
  dryRun : tokens.count .dryRun ≤ 1
  directories : (directoriesOf tokens).length ≤ 1
  notEmpty : "" ∉ directoriesOf tokens

/-- The value under a name, just as it is given. -/
def valueOr (standard name : String) (tokens : List Token) : String :=
  (valuesOf name tokens).headD standard

/-- The directory names that are given. -/
def directoryNamesOf (tokens : List Token) : DirectoryNames where
  binaries := valueOr "bin" "bin-dir-name" tokens
  libraries := valueOr "lib" "lib-dir-name" tokens
  headers := valueOr "include" "include-dir-name" tokens

/-- The subject that is given. -/
def subjectOf (tokens : List Token) : Subcommand → Subject
  | .dirs => .directories (directoryNamesOf tokens)
  | .full => .build
    { version := valueOr "" "version" tokens
      revision := valueOr "" "revision" tokens
      libraryVersion := valueOr "" "shlib-version" tokens
      releaseDate := valueOr "" "release-date" tokens
      hijriReleaseDate := valueOr "" "hijri-release-date" tokens
      compiler := valueOr "" "compiler" tokens
      buildType := valueOr "" "build-type" tokens
      systemName := valueOr "" "system-name" tokens
      processor := valueOr "" "system-processor" tokens
      directories := directoryNamesOf tokens }

/-- What the tokens after a subcommand ask for. -/
def invocationOf (s : Subcommand) (tokens : List Token) : Invocation where
  subject := subjectOf tokens s
  directory := (directoriesOf tokens).headD ""
  fileName := valueOr "AlususDefs.h" "file-name" tokens
  dryRun := decide (.dryRun ∈ tokens)
  verbosity := tokens.count .verbose

/-! ## Words -/

/-- The value of an option goes on to the end of the word, whatever stands in it. -/
theorem ofChars_value {name : String} (noEquals : '=' ∉ name.toList) (text : String) :
    Word.ofChars (Token.value name text).word.toList = .long name (some text) := by
  have chars : (Token.value name text).word.toList =
      '-' :: '-' :: (name.toList ++ '=' :: text.toList) := by
    simp [Token.word]
  have inName : ∀ c ∈ name.toList, (c != '=') = true := fun c isIn => by
    simpa using ne_of_mem_of_not_mem isIn noEquals
  rw [chars]
  simp [Word.ofChars, List.takeWhile_append_of_pos inName, List.dropWhile_append_of_pos inName]

/-- A word that does not begin with a dash is plain. -/
theorem ofChars_directory {text : String} (noDash : text.toList.head? ≠ some '-') :
    Word.ofChars text.toList = .plain := by
  cases chars : text.toList with
  | nil => rfl
  | cons first rest =>
    rw [chars] at noDash
    have other : first ≠ '-' := by simpa using noDash
    simp [Word.ofChars, other]

/-! ## Names -/

/-- The names of the tokens are the names of options. -/
theorem find?_named {s : Subcommand} {name : String}
    (named : name ∈ requiredNames s ++ optionalNames) :
    ∃ o : ValueOption, o.long = name ∧ s.arguments.find? (·.long == name) = some (.value o) := by
  have found : ∀ name ∈ requiredNames s ++ optionalNames,
      ∃ o ∈ .fileName :: s.subjectOptions, s.arguments.find? (·.long == name) = some (.value o) := by
    cases s <;> decide +kernel
  obtain ⟨o, -, chosen⟩ := found name named
  exact ⟨o, by simpa [Argument.long] using List.find?_some chosen, chosen⟩

/-- No equals sign stands in a name. -/
theorem noEquals_of_named {s : Subcommand} {name : String}
    (named : name ∈ requiredNames s ++ optionalNames) : '=' ∉ name.toList := by
  have free : ∀ name ∈ requiredNames s ++ optionalNames, '=' ∉ name.toList := by
    cases s <;> decide +kernel
  exact free name named

/-- An option is found again by its name. -/
theorem find?_long (o : ValueOption) :
    Subcommand.full.arguments.find? (·.long == o.long) = some (.value o) := by
  cases o <;> decide +kernel

theorem long_injective {o o' : ValueOption} (alike : o.long = o'.long) : o = o' := by
  have same : some (Argument.value o) = some (Argument.value o') := by
    rw [← find?_long o, ← find?_long o', alike]
  simpa using same

/-! ## Tokens one after another -/

theorem valuesOf_append (name : String) (front back : List Token) :
    valuesOf name (front ++ back) = valuesOf name front ++ valuesOf name back :=
  List.filterMap_append

theorem directoriesOf_append (front back : List Token) :
    directoriesOf (front ++ back) = directoriesOf front ++ directoriesOf back :=
  List.filterMap_append

section
variable {s : Subcommand} {tokens other : List Token}

/-- Of tokens that can stand together some can be left out. -/
theorem Fits.sublist (fits : Fits s tokens) (part : other.Sublist tokens) : Fits s other where
  values name named := Nat.le_trans (part.filterMap _).length_le (fits.values name named)
  dryRun := Nat.le_trans (part.count_le _) fits.dryRun
  directories := Nat.le_trans (part.filterMap _).length_le fits.directories
  notEmpty isThere := fits.notEmpty ((part.filterMap _).mem isThere)

/-- Acceptable tokens stand together, and none is missing. -/
theorem acceptable_iff : Acceptable s tokens ↔
    Fits s tokens ∧ (∀ name ∈ requiredNames s, (valuesOf name tokens).length = 1) ∧
      directoriesOf tokens ≠ [] := by
  constructor
  · intro acceptable
    obtain ⟨text, only, notEmpty⟩ := acceptable.directory
    refine ⟨⟨fun name named => ?_, acceptable.dryRun, ?_, ?_⟩, acceptable.required, ?_⟩
    · rcases List.mem_append.mp named with isRequired | isOptional
      · exact Nat.le_of_eq (acceptable.required name isRequired)
      · exact acceptable.optional name isOptional
    · simp [only]
    · simpa [only] using notEmpty.symm
    · simp [only]
  · rintro ⟨fits, required, isThere⟩
    refine ⟨required, fun name isOptional => ?_, fits.dryRun, ?_⟩
    · exact fits.values name (List.mem_append_right _ isOptional)
    · have one : (directoriesOf tokens).length = 1 :=
        Nat.le_antisymm fits.directories (List.length_pos_iff.mpr isThere)
      obtain ⟨text, only⟩ := List.length_eq_one_iff.mp one
      have notEmpty := fits.notEmpty
      rw [only, List.mem_singleton] at notEmpty
      exact ⟨text, only, Ne.symm notEmpty⟩

theorem Acceptable.fits (acceptable : Acceptable s tokens) : Fits s tokens :=
  (acceptable_iff.mp acceptable).1

/-! ## Tokens in another order -/

/-- At most one thing has no order. -/
theorem eq_of_perm_of_length_le_one {α : Type} {one other : List α} (perm : one.Perm other)
    (short : one.length ≤ 1) : one = other := by
  match one with
  | [] => exact perm.symm.eq_nil.symm
  | [_] => exact (List.perm_singleton.mp perm.symm).symm
  | _ :: _ :: _ => simp at short

/-- The values under a name do not depend on the order. -/
theorem Fits.valuesOf_perm (fits : Fits s tokens) (perm : tokens.Perm other) :
    ∀ name ∈ requiredNames s ++ optionalNames, valuesOf name tokens = valuesOf name other :=
  fun name named => eq_of_perm_of_length_le_one (perm.filterMap _) (fits.values name named)

theorem Fits.directoriesOf_perm (fits : Fits s tokens) (perm : tokens.Perm other) :
    directoriesOf tokens = directoriesOf other :=
  eq_of_perm_of_length_le_one (perm.filterMap _) fits.directories

/-- Whether tokens can be accepted does not depend on their order. -/
theorem Acceptable.perm (acceptable : Acceptable s tokens) (perm : tokens.Perm other) :
    Acceptable s other where
  required name isRequired := by
    rw [← acceptable.fits.valuesOf_perm perm name (List.mem_append_left _ isRequired)]
    exact acceptable.required name isRequired
  optional name isOptional := by
    rw [← acceptable.fits.valuesOf_perm perm name (List.mem_append_right _ isOptional)]
    exact acceptable.optional name isOptional
  dryRun := by
    rw [← perm.count_eq]
    exact acceptable.dryRun
  directory := by
    rw [← acceptable.fits.directoriesOf_perm perm]
    exact acceptable.directory

/-- Nor does what is asked for as a whole. -/
theorem Fits.invocationOf_perm (fits : Fits s tokens) (perm : tokens.Perm other) :
    invocationOf s tokens = invocationOf s other := by
  have values := fits.valuesOf_perm perm
  have subject : subjectOf tokens s = subjectOf other s := by
    cases s <;>
      simp only [requiredNames, optionalNames, List.cons_append, List.nil_append,
        List.forall_mem_cons] at values <;>
      simp only [subjectOf, directoryNamesOf, valueOr, values]
  have fileName := values "file-name" (by simp [optionalNames])
  simp only [invocationOf, valueOr, subject, fits.directoriesOf_perm perm, fileName, perm.count_eq,
    perm.mem_iff]

end

end BuildHeader.Command
