import BuildHeader.Command.Parse

/-!
# Switches that are added in front

What is asked for right behind the subcommand's word, a dry run or more output, changes nothing else:
the words after it are read as they are without it, and fail as they do without it. Only another
`--dry-run` can tell whether one was asked for before.

Results:
1. `Reader.read_adjust`: a word is read alike, whatever its reader was asked for before.
2. `readRest_adjust`: so are all words of a list.
3. `readArguments_dryRun`: the arguments behind a `--dry-run` are those without it, and a dry run.
4. `dryRun_of_readArguments`: without one no dry run is asked for.
-/

namespace BuildHeader.Command

/-- The words that can be options: those before the escape. -/
def optionWords (words : List String) : List String :=
  words.takeWhile (· != "--")

/-- What is given, when it is asked otherwise for a dry run, and for so much more output. -/
def Given.adjust (dry : Bool → Bool) (more : Nat) (g : Given) : Given :=
  { g with dryRun := dry g.dryRun, verbosity := g.verbosity + more }

/-- A reader of what is given then. -/
def Reader.adjust (dry : Bool → Bool) (more : Nat) (r : Reader) : Reader :=
  { r with given := r.given.adjust dry more }

/-- Reads the rest of the words after the subcommand. -/
def readRest (s : Subcommand) (r : Reader) (words : List String) : Except Stop Given := do
  let r ← words.foldlM (Reader.read s) r
  let given ← r.settle
  match given.missing s with
  | [] => return given
  | labels => .error (.usage (.missingArguments labels))

section
variable {dry : Bool → Bool} {more : Nat}

/-! ## Taking in -/

theorem Given.addValue_adjust (g : Given) (o : ValueOption) (text : String) :
    (g.adjust dry more).addValue o text = Given.adjust dry more <$> g.addValue o text := by
  unfold Given.addValue
  show (if (g.values.lookup o).isSome then _ else _) = _
  split <;> rfl

theorem Given.addDirectory_adjust (g : Given) (text : String) :
    (g.adjust dry more).addDirectory text = Given.adjust dry more <$> g.addDirectory text := by
  unfold Given.addDirectory
  split <;> rfl

namespace Reader

theorem settle_adjust (r : Reader) :
    (r.adjust dry more).settle = Given.adjust dry more <$> r.settle := by
  obtain ⟨given, pending, verbatim⟩ := r
  cases pending with
  | nothing => rfl
  | awaited o => rfl
  | value o text => exact given.addValue_adjust o text
  | directory text => exact given.addDirectory_adjust text

theorem advance_adjust (r : Reader) {next : Given → Except Stop Given}
    (alike : ∀ g : Given, next (g.adjust dry more) = Given.adjust dry more <$> next g) :
    (r.adjust dry more).advance next = Reader.adjust dry more <$> r.advance next := by
  unfold advance
  rw [settle_adjust, bind_map_left, map_bind]
  refine congrArg _ (funext fun g => ?_)
  rw [alike, bind_map_left, map_bind]
  rfl

/-! ## Reading a word -/

theorem readSwitch_adjust (s : Subcommand) (r : Reader) (a : Argument)
    (tells : a = .dryRun → dry = id) :
    (r.adjust dry more).readSwitch s a = Reader.adjust dry more <$> r.readSwitch s a := by
  cases a with
  | value o =>
    simp only [readSwitch]
    rw [r.advance_adjust fun g => rfl, bind_map_left, map_bind]
    rfl
  | verbose =>
    exact r.advance_adjust fun g => congrArg Except.ok (by simp [Given.adjust, Nat.add_right_comm])
  | dryRun =>
    obtain rfl := tells rfl
    refine r.advance_adjust fun g => ?_
    obtain ⟨values, directory, asked, verbosity⟩ := g
    cases asked <;> rfl
  | help => exact r.advance_adjust fun g => rfl

theorem readLong_adjust (s : Subcommand) (r : Reader) (name : String) (attached : Option String)
    (tells : name = "dry-run" → attached = none → dry = id) :
    (r.adjust dry more).readLong s name attached =
      Reader.adjust dry more <$> r.readLong s name attached := by
  unfold readLong
  split
  · rfl
  · next o text _ => exact r.advance_adjust fun g => g.addValue_adjust o text
  · rfl
  · next a chosen =>
    refine readSwitch_adjust s r a fun isDryRun => tells ?_ rfl
    have named : a.long = name := by simpa using List.find?_some chosen
    rw [← named, isDryRun, Argument.long]

/-- No letter asks for a dry run. -/
theorem readLetters_adjust (s : Subcommand) (r : Reader) (letters : List Char) :
    (r.adjust dry more).readLetters s letters =
      Reader.adjust dry more <$> r.readLetters s letters := by
  induction letters generalizing r with
  | nil => rfl
  | cons c rest ih =>
    unfold readLetters
    split
    · rfl
    · next a chosen =>
      have lettered : a.short? = some c := by simpa using List.find?_some chosen
      have switched : (r.adjust dry more).readSwitch s a =
          Reader.adjust dry more <$> r.readSwitch s a :=
        readSwitch_adjust s r a fun isDryRun => by
          rw [isDryRun] at lettered
          cases lettered
      rw [switched, bind_map_left, map_bind]
      exact congrArg _ (funext fun next => ih next)

theorem readDirectory_adjust (r : Reader) (text : String) :
    (r.adjust dry more).readDirectory text = Reader.adjust dry more <$> r.readDirectory text := by
  unfold readDirectory
  show (if r.hasDirectory then _ else _) = _
  split
  · rfl
  · rw [r.advance_adjust fun g => rfl, bind_map_left, map_bind]
    rfl

theorem readPlain_adjust (r : Reader) (text : String) :
    (r.adjust dry more).readPlain text = Reader.adjust dry more <$> r.readPlain text := by
  obtain ⟨given, pending, verbatim⟩ := r
  cases pending with
  | awaited o => rfl
  | nothing | value | directory => exact readDirectory_adjust _ text

/-- The characters of a word that is a name after two dashes and nothing else. -/
theorem chars_of_long {chars : List Char} {name : String}
    (isLong : Word.ofChars chars = .long name none) : chars = '-' :: '-' :: name.toList := by
  unfold Word.ofChars at isLong
  split at isLong
  · cases isLong
  · next rest _ =>
    simp only [Word.long.injEq] at isLong
    obtain ⟨rfl, noValue⟩ := isLong
    have whole : rest.takeWhile (· != '=') ++ rest.dropWhile (· != '=') = rest :=
      List.takeWhile_append_dropWhile
    split at noValue
    · cases noValue
    · next nothing =>
      rw [nothing, List.append_nil] at whole
      rw [String.toList_ofList, whole]
  · cases isLong
  · cases isLong

theorem read_adjust (s : Subcommand) (r : Reader) (text : String)
    (tells : r.verbatim = false → text = "--dry-run" → dry = id) :
    (r.adjust dry more).read s text = Reader.adjust dry more <$> r.read s text := by
  unfold read
  show (if r.verbatim = true then _ else _) = _
  split
  · exact r.readDirectory_adjust text
  next notVerbatim =>
  split
  · rfl
  · next name attached isLong =>
    refine readLong_adjust s r name attached fun named nothing =>
      tells (by simpa using notVerbatim) ?_
    subst named nothing
    exact String.toList_injective (chars_of_long isLong)
  · exact readLetters_adjust s r _
  · exact r.readPlain_adjust text

theorem verbatim_of_readDirectory {r next : Reader} {text : String}
    (done : r.readDirectory text = .ok next) : next.verbatim = r.verbatim := by
  unfold readDirectory advance at done
  split at done
  · cases done
  · cases settled : r.settle with
    | error stop =>
      rw [settled] at done
      cases done
    | ok given =>
      rw [settled] at done
      cases done
      rfl

/-- Behind the escape every word is read as it is. -/
theorem verbatim_of_read {s : Subcommand} {r next : Reader} {text : String}
    (done : r.read s text = .ok next) (behind : r.verbatim = true ∨ text = "--") :
    next.verbatim = true := by
  unfold read at done
  split at done
  · next verbatim => rw [verbatim_of_readDirectory done, verbatim]
  · next notVerbatim =>
    obtain rfl := behind.resolve_left notVerbatim
    cases done
    rfl

end Reader

/-! ## Reading all words -/

/-- The induction is on the words: after the escape no word is an option any more. -/
theorem foldlM_read_adjust (s : Subcommand) (words : List String) (r : Reader)
    (tells : r.verbatim = false → "--dry-run" ∈ optionWords words → dry = id) :
    words.foldlM (Reader.read s) (r.adjust dry more) =
      Reader.adjust dry more <$> words.foldlM (Reader.read s) r := by
  induction words generalizing r with
  | nil => rfl
  | cons text rest ih =>
    have first : (r.adjust dry more).read s text = Reader.adjust dry more <$> r.read s text := by
      refine r.read_adjust s text fun options isDryRun => tells options ?_
      subst isDryRun
      simp [optionWords]
    rw [List.foldlM_cons, List.foldlM_cons, first]
    cases done : r.read s text with
    | error stop => rfl
    | ok next =>
      refine ih next fun options inRest => ?_
      have before : ¬ (r.verbatim = true ∨ text = "--") := fun behind =>
        Bool.false_ne_true (options.symm.trans (Reader.verbatim_of_read done behind))
      obtain ⟨notVerbatim, notEscape⟩ := not_or.mp before
      refine tells (by simpa using notVerbatim) ?_
      rw [optionWords, List.takeWhile_cons_of_pos (by simpa using notEscape)]
      exact List.mem_cons_of_mem text inRest

theorem readRest_adjust (s : Subcommand) (r : Reader) (words : List String)
    (tells : r.verbatim = false → "--dry-run" ∈ optionWords words → dry = id) :
    readRest s (r.adjust dry more) words = Given.adjust dry more <$> readRest s r words := by
  unfold readRest
  rw [foldlM_read_adjust s words r tells, bind_map_left, map_bind]
  refine congrArg _ (funext fun last => ?_)
  rw [Reader.settle_adjust, bind_map_left, map_bind]
  refine congrArg _ (funext fun given => ?_)
  have sameMissing : (given.adjust dry more).missing s = given.missing s := rfl
  rw [sameMissing]
  cases given.missing s <;> rfl

end

/-! ## Dry runs -/

/-- The arguments behind a `--dry-run` are those without it, and a dry run. -/
theorem readArguments_dryRun (s : Subcommand) {words : List String}
    (noDryRun : "--dry-run" ∉ optionWords words) :
    readArguments s ("--dry-run" :: words) =
      Given.adjust (fun _ => true) 0 <$> readArguments s words := by
  have switched : readArguments s ("--dry-run" :: words) =
      readRest s (Reader.adjust (fun _ => true) 0 {}) words := by
    cases s <;> rfl
  rw [switched]
  exact readRest_adjust s {} words fun _ isThere => absurd isThere noDryRun

/-- Without `--dry-run` no dry run is asked for: a reader that forgets it reads the same. -/
theorem dryRun_of_readArguments {s : Subcommand} {words : List String} {g : Given}
    (given : readArguments s words = .ok g) (noDryRun : "--dry-run" ∉ optionWords words) :
    g.dryRun = false := by
  have forgets : readArguments s words =
      Given.adjust (fun _ => false) 0 <$> readArguments s words := by
    show readRest s (Reader.adjust (fun _ => false) 0 {}) words = _
    exact readRest_adjust s {} words fun _ isThere => absurd isThere noDryRun
  rw [given] at forgets
  exact congrArg Given.dryRun (Except.ok.inj forgets)

end BuildHeader.Command
