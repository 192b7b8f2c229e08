import BuildHeader.Proofs.HeaderRuns
import BuildHeader.Proofs.TokenReading

/-!
# Accepted and refused tokens

A list of tokens is accepted just if each thing in it is given as often as it may be. Then the header
is that of the values given, and since counting does not see an order, every order of the tokens
runs alike.

Results:
1. `Collects.missing_eq_nil_iff`: nothing is missing just if the tokens are acceptable.
2. `Collects.invocation`: what is given is asked for, word by word.
3. `parse_tokens`: a list is accepted as what it asks for, or refused.
4. `run_tokens`: so a run depends on what is given, and not on its order.
-/

namespace BuildHeader.Command

open BuildHeader.Files

/-! ## What is missing -/

section
variable {s : Subcommand} {tokens : List Token} {g : Given}

theorem map_required (s : Subcommand) : s.required.map ValueOption.long = requiredNames s := by
  cases s <;> decide +kernel

theorem Collects.lookup_isSome_iff (collects : Collects tokens g) (o : ValueOption) :
    (g.values.lookup o).isSome = true ↔ (valuesOf o.long tokens).length = 1 := by
  rw [collects.values]
  cases g.values.lookup o <;> simp

/-- What is collected stands together. -/
theorem Collects.fits (collects : Collects tokens g) : Fits s tokens where
  values name named := by
    obtain ⟨o, rfl, -⟩ := find?_named named
    rw [collects.values]
    cases g.values.lookup o <;> simp
  dryRun := by
    rw [collects.dryRun]
    exact Bool.toNat_le _
  directories := by
    rw [collects.directory]
    cases g.directory <;> simp
  notEmpty := by
    rw [collects.directory, Option.mem_toList]
    exact collects.notEmpty

/-- Nothing is missing just if the tokens are acceptable. -/
theorem Collects.missing_eq_nil_iff (collects : Collects tokens g) :
    g.missing s = [] ↔ Acceptable s tokens := by
  have missing : g.missing s = [] ↔
      (∀ o ∈ s.required, (g.values.lookup o).isSome = true) ∧ g.directory.isSome = true := by
    unfold Given.missing
    cases g.directory <;> simp [Option.isSome_iff_ne_none]
  have required : (∀ o ∈ s.required, (g.values.lookup o).isSome = true) ↔
      ∀ name ∈ requiredNames s, (valuesOf name tokens).length = 1 := by
    simp only [collects.lookup_isSome_iff, ← map_required, List.forall_mem_map]
  have directory : g.directory.isSome = true ↔ directoriesOf tokens ≠ [] := by
    rw [collects.directory]
    cases g.directory <;> simp
  rw [missing, required, directory, acceptable_iff, and_iff_right collects.fits]

/-! ## What is asked for -/

/-- An option has the value given, or else its own. -/
theorem Collects.value (collects : Collects tokens g) (o : ValueOption) :
    g.value o = valueOr (o.standard?.getD "") o.long tokens := by
  rw [Given.value, valueOr, collects.values]
  cases g.values.lookup o <;> rfl

/-- What is given is asked for, word by word. -/
theorem Collects.invocation (collects : Collects tokens g) (s : Subcommand) :
    g.invocation s 0 = invocationOf s tokens := by
  have subject : g.subject s = subjectOf tokens s := by
    cases s <;>
      simp only [Given.subject, Given.directoryNames, collects.value] <;> rfl
  have directory : g.directory.getD "" = (directoriesOf tokens).headD "" := by
    rw [collects.directory]
    cases g.directory <;> rfl
  have dryRun : g.dryRun = decide (.dryRun ∈ tokens) := by
    simp only [← List.count_pos_iff, collects.dryRun]
    cases g.dryRun <;> rfl
  have verbosity : (if g.verbosity = 0 then 0 else g.verbosity) = tokens.count .verbose := by
    rw [collects.verbosity]
    split <;> simp_all
  unfold Given.invocation invocationOf
  rw [subject, directory, dryRun, verbosity, collects.value]
  rfl

end

/-! ## Accepting and refusing -/

/-- The words of a command line with these tokens. -/
def commandLine (s : Subcommand) (tokens : List Token) : List String :=
  s.word :: tokens.map Token.word

section
variable {s : Subcommand} {tokens : List Token}

/-- What is missing is looked for when all words are taken in. -/
theorem readArguments_eq (s : Subcommand) (words : List String) :
    readArguments s words = (words.foldlM (Reader.read s) {} >>= Reader.settle) >>= fun given =>
      if given.missing s = [] then .ok given
      else .error (.usage (.missingArguments (given.missing s))) := by
  rw [bind_assoc]
  unfold readArguments
  refine congrArg _ (funext fun r => congrArg _ (funext fun given => ?_))
  cases given.missing s <;> rfl

theorem readArguments_tokens (belong : ∀ t ∈ tokens, t.BelongsTo s) :
    (Acceptable s tokens ∧
        ∃ g, readArguments s (tokens.map Token.word) = .ok g ∧ Collects tokens g) ∨
      (¬ Acceptable s tokens ∧
        ∃ e, readArguments s (tokens.map Token.word) = .error (.usage e)) := by
  have collected := collects_tokens belong
  rw [readArguments_eq]
  generalize (tokens.map Token.word).foldlM (Reader.read s) {} >>= Reader.settle = reading
    at collected ⊢
  cases collected with
  | refused unfit => exact .inr ⟨fun acceptable => unfit acceptable.fits, _, rfl⟩
  | @reached g collects =>
    by_cases complete : g.missing s = []
    · exact .inl ⟨collects.missing_eq_nil_iff.mp complete, g, if_pos complete, collects⟩
    · exact .inr ⟨fun acceptable => complete (collects.missing_eq_nil_iff.mpr acceptable), _,
        if_neg complete⟩

/-- A list is accepted as what it asks for, or refused. -/
theorem parse_tokens (belong : ∀ t ∈ tokens, t.BelongsTo s) :
    (Acceptable s tokens ∧ parse (commandLine s tokens) = .ok (invocationOf s tokens)) ∨
      (¬ Acceptable s tokens ∧ ∃ e, parse (commandLine s tokens) = .error (.usage e)) := by
  rw [commandLine, parse_word]
  rcases readArguments_tokens belong with
    ⟨acceptable, g, given, collects⟩ | ⟨unacceptable, e, refused⟩
  · rw [given]
    exact .inl ⟨acceptable, congrArg Except.ok (collects.invocation s)⟩
  · rw [refused]
    exact .inr ⟨unacceptable, e, rfl⟩

/-! ## Runs -/

/-- A run is refused, prints nothing and changes nothing, or it carries out what its tokens ask for,
and then it is the same in whatever order they stand. -/
theorem run_tokens (belong : ∀ t ∈ tokens, t.BelongsTo s) (fs : FileSystem)
    (environment : Option String) :
    ((run fs (commandLine s tokens) environment).status ≠ 2 ↔ Acceptable s tokens) ∧
      (¬ Acceptable s tokens →
        (run fs (commandLine s tokens) environment).status = 2 ∧
          (run fs (commandLine s tokens) environment).output = "" ∧
          (run fs (commandLine s tokens) environment).after = fs) ∧
      (Acceptable s tokens →
        CarriesOut fs environment (invocationOf s tokens)
            (run fs (commandLine s tokens) environment) ∧
          ∀ other, tokens.Perm other →
            run fs (commandLine s other) environment =
              run fs (commandLine s tokens) environment) := by
  rcases parse_tokens belong with ⟨acceptable, parsed⟩ | ⟨unacceptable, e, parsed⟩
  · have carriesOut := run_carriesOut parsed fs environment
    refine ⟨iff_of_true carriesOut.status_ne acceptable, absurd acceptable,
      fun _ => ⟨carriesOut, fun other perm => ?_⟩⟩
    have alsoBelong : ∀ t ∈ other, t.BelongsTo s := fun t isIn => belong t (perm.mem_iff.mpr isIn)
    rcases parse_tokens alsoBelong with ⟨-, alsoParsed⟩ | ⟨unacceptable, -⟩
    · rw [acceptable.fits.invocationOf_perm perm] at parsed
      rw [run, run, parsed, alsoParsed]
    · exact absurd (acceptable.perm perm) unacceptable
  · have refused := run_usage parsed fs environment
    rw [refused]
    exact ⟨iff_of_false (fun notRefused => notRefused rfl) unacceptable, fun _ => ⟨rfl, rfl, rfl⟩,
      fun acceptable => absurd acceptable unacceptable⟩

end

/-- A value may begin with an equals sign and a dash, and the output directory may stand anywhere. -/
theorem run_tokens_reversed :
    (∀ t ∈ [.value "lib-dir-name" "=-x", .dryRun, .directory "o"], Token.BelongsTo .dirs t) ∧
      Acceptable .dirs [.value "lib-dir-name" "=-x", .dryRun, .directory "o"] ∧
      (run FileSystem.empty ["dirs", "--lib-dir-name==-x", "--dry-run", "o"] none).status ≠ 2 ∧
      run FileSystem.empty ["dirs", "o", "--dry-run", "--lib-dir-name==-x"] none =
        run FileSystem.empty ["dirs", "--lib-dir-name==-x", "--dry-run", "o"] none := by
  have belong : ∀ t ∈ [.value "lib-dir-name" "=-x", .dryRun, .directory "o"],
      Token.BelongsTo .dirs t := by
    simp [Token.BelongsTo, requiredNames, optionalNames]
  have acceptable : Acceptable .dirs [.value "lib-dir-name" "=-x", .dryRun, .directory "o"] :=
    ⟨by decide, by decide, by decide, "o", rfl, by decide⟩
  have runs := run_tokens belong FileSystem.empty none
  have written : commandLine .dirs [.value "lib-dir-name" "=-x", .dryRun, .directory "o"] =
      ["dirs", "--lib-dir-name==-x", "--dry-run", "o"] := by
    decide +kernel
  have reversed : commandLine .dirs [.directory "o", .dryRun, .value "lib-dir-name" "=-x"] =
      ["dirs", "o", "--dry-run", "--lib-dir-name==-x"] := by
    decide +kernel
  have alike := (runs.2.2 acceptable).2 [.directory "o", .dryRun, .value "lib-dir-name" "=-x"]
    (List.reverse_perm _).symm
  rw [written] at runs alike
  rw [reversed] at alike
  exact ⟨belong, acceptable, runs.1.mpr acceptable, alike⟩

end BuildHeader.Command
