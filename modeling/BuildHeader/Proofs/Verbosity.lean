import BuildHeader.Proofs.AddedSwitches
import BuildHeader.Proofs.HeaderRuns

/-!
# Asking for more output

More output can be asked for on both sides of the subcommand's word. What stands before the word is
counted apart from what stands behind it, and neither changes how the other words are read.

Results:
1. `counts_or_stops`: words before the subcommand's word only ask for more output, or end the
   reading.
2. `Counts.replicate_verbose`: each `-v` there asks for more output once.
3. `Counts.parse_eq`: behind such words a command line is read as without them.
4. `readArguments_replicate_verbose`: so it is behind each `-v` that follows the subcommand's word.
-/

namespace BuildHeader.Command

/-! ## Definitions -/

/-- The words ask for so much more output and for nothing else, whatever stands before and behind
them. -/
def Counts (front : List String) (more : Nat) : Prop :=
  ∀ before words, readWords before (front ++ words) = readWords (before + more) words

/-- The reading ends among the words, whatever stands before and behind them. -/
def Stops (front : List String) : Prop :=
  ∀ before words, ∃ stop, readWords before (front ++ words) = .error stop

/-- A command line that asks for more output so often before the subcommand's word, and so often
directly behind it. -/
def askingLine (s : Subcommand) (before behind : Nat) (words : List String) : List String :=
  List.replicate before "-v" ++ s.word :: (List.replicate behind "-v" ++ words)

/-! ## Before the subcommand's word -/

theorem readProgramLetters_cases (letters : List Char) :
    (∀ before, readProgramLetters before letters = .ok (before + letters.length)) ∨
      ∃ stop, ∀ before, readProgramLetters before letters = .error stop := by
  induction letters with
  | nil => exact .inl fun _ => rfl
  | cons c rest ih =>
    simp only [readProgramLetters]
    split
    · exact .inr ⟨_, fun _ => rfl⟩
    · exact .inr ⟨_, fun _ => rfl⟩
    · rcases ih with reads | ⟨stop, stops⟩
      · refine .inl fun before => ?_
        rw [reads, List.length_cons, Nat.add_right_comm, Nat.add_assoc]
      · exact .inr ⟨stop, fun before => stops (before + 1)⟩

theorem readProgramLong_cases (name : String) (attached : Option String) :
    (∀ before, readProgramLong before name attached = .ok (before + 1)) ∨
      ∃ stop, ∀ before, readProgramLong before name attached = .error stop := by
  unfold readProgramLong
  split
  · exact .inr ⟨_, fun _ => rfl⟩
  · exact .inr ⟨_, fun _ => rfl⟩
  · exact .inr ⟨_, fun _ => rfl⟩
  · exact .inl fun _ => rfl

theorem Counts.nil : Counts [] 0 :=
  fun _ _ => rfl

theorem Counts.append {front others : List String} {more further : Nat} (h : Counts front more)
    (h' : Counts others further) : Counts (front ++ others) (more + further) := by
  intro before words
  rw [List.append_assoc, h, h', Nat.add_assoc]

theorem Counts.stops {front others : List String} {more : Nat} (h : Counts front more)
    (h' : Stops others) : Stops (front ++ others) := by
  intro before words
  rw [List.append_assoc, h]
  exact h' (before + more) words

/-- One option before the subcommand's word: what it comes to does not depend on the others. -/
theorem counts_or_stops_singleton {text : String} {read : Nat → Except Stop Nat} {more : Nat}
    (reads : ∀ before words,
      readWords before (text :: words) = (do readWords (← read before) words))
    (alike : (∀ before, read before = .ok (before + more)) ∨
      ∃ stop, ∀ before, read before = .error stop) :
    (∃ more, Counts [text] more) ∨ ∀ others, Stops (text :: others) := by
  rcases alike with counted | ⟨stop, stopped⟩
  · refine .inl ⟨more, fun before words => ?_⟩
    rw [List.singleton_append, reads, counted]
    rfl
  · refine .inr fun others before words => ⟨stop, ?_⟩
    rw [List.cons_append, reads, stopped]
    rfl

/-- Any word but a subcommand's asks for more output, or ends the reading there. -/
theorem counts_or_stops_cons {text : String} (notChosen : Subcommand.ofWord? text = none) :
    (∃ more, Counts [text] more) ∨ ∀ others, Stops (text :: others) := by
  have reads : ∀ before words, readWords before (text :: words) = _ := fun before words =>
    readWords.eq_def before (text :: words)
  simp only [notChosen] at reads
  by_cases help : text = "help"
  · refine .inr fun others before words => ⟨readHelp (others ++ words), ?_⟩
    rw [List.cons_append, reads, if_pos help]
  simp only [if_neg help] at reads
  cases read : Word.ofChars text.toList with
  | escape =>
    simp only [read] at reads
    refine .inr fun others before words => ?_
    rw [List.cons_append, reads]
    cases others ++ words with
    | nil => exact ⟨_, readWords.eq_def before []⟩
    | cons next _ =>
      dsimp only
      split <;> exact ⟨_, rfl⟩
  | long name attached =>
    simp only [read] at reads
    exact counts_or_stops_singleton reads (readProgramLong_cases name attached)
  | letters letters =>
    simp only [read] at reads
    exact counts_or_stops_singleton reads (readProgramLetters_cases letters)
  | plain =>
    simp only [read] at reads
    exact .inr fun others before words => ⟨_, reads before (others ++ words)⟩

/-- Words before the subcommand's word only ask for more output, or end the reading. -/
theorem counts_or_stops {front : List String}
    (notChosen : ∀ word ∈ front, Subcommand.ofWord? word = none) :
    (∃ more, Counts front more) ∨ Stops front := by
  induction front with
  | nil => exact .inl ⟨0, .nil⟩
  | cons text others ih =>
    obtain ⟨first, rest⟩ := List.forall_mem_cons.mp notChosen
    rcases counts_or_stops_cons first with ⟨more, counts⟩ | stops
    · rcases ih rest with ⟨further, countsOthers⟩ | stopsOthers
      · exact .inl ⟨more + further, counts.append countsOthers⟩
      · exact .inr (counts.stops stopsOthers)
    · exact .inr (stops others)

theorem Counts.verbose : Counts ["-v"] 1 := by
  intro before words
  rw [List.singleton_append, readWords.eq_def]
  rfl

/-- Each `-v` asks for more output once. -/
theorem Counts.replicate_verbose (times : Nat) : Counts (List.replicate times "-v") times := by
  induction times with
  | zero => exact .nil
  | succ times ih =>
    rw [List.replicate_succ']
    exact ih.append .verbose

/-- Behind such words a command line is read as without them. -/
theorem Counts.parse_eq {front : List String} {more : Nat} (h : Counts front more) (s : Subcommand)
    (words : List String) :
    parse (front ++ s.word :: words) = (Given.invocation · s more) <$> readArguments s words := by
  have chosen : Subcommand.ofWord? s.word = some s := by cases s <;> rfl
  rw [parse, h, Nat.zero_add, readWords.eq_def]
  simp only [chosen]
  rfl

theorem Counts.parse_ok {front words : List String} {more : Nat} {s : Subcommand} {g : Given}
    (h : Counts front more) (given : readArguments s words = .ok g) :
    parse (front ++ s.word :: words) = .ok (g.invocation s more) := by
  rw [h.parse_eq, given]
  rfl

theorem Counts.parse_error {front words : List String} {more : Nat} {s : Subcommand} {stop : Stop}
    (h : Counts front more) (stopped : readArguments s words = .error stop) :
    parse (front ++ s.word :: words) = .error stop := by
  rw [h.parse_eq, stopped]
  rfl

/-! ## Behind the subcommand's word -/

/-- The arguments behind a `-v` are those without it, with more output asked for. -/
theorem readArguments_verbose (s : Subcommand) (words : List String) :
    readArguments s ("-v" :: words) = Given.adjust id 1 <$> readArguments s words := by
  have switched : readArguments s ("-v" :: words) = readRest s (Reader.adjust id 1 {}) words := by
    cases s <;> rfl
  rw [switched]
  exact readRest_adjust s {} words fun _ _ => rfl

theorem readArguments_replicate_verbose (s : Subcommand) (words : List String) (times : Nat) :
    readArguments s (List.replicate times "-v" ++ words) =
      Given.adjust id times <$> readArguments s words := by
  induction times with
  | zero =>
    show readArguments s words = _
    cases readArguments s words <;> rfl
  | succ times ih =>
    rw [List.replicate_succ, List.cons_append, readArguments_verbose, ih, ← comp_map]
    rfl

/-- More output that is asked for changes the verbosity of what is asked for, and nothing else. -/
theorem invocation_adjust (g : Given) (s : Subcommand) (before more : Nat) :
    (g.adjust id more).invocation s before =
      { g.invocation s 0 with
        verbosity := if g.verbosity + more = 0 then before else g.verbosity + more } := by
  cases s <;> rfl

theorem parse_askingLine_ok {s : Subcommand} {words : List String} {g : Given}
    (given : readArguments s words = .ok g) (before behind : Nat) :
    parse (askingLine s before behind words) =
      .ok ((g.adjust id behind).invocation s before) := by
  refine (Counts.replicate_verbose before).parse_ok ?_
  rw [readArguments_replicate_verbose, given]
  rfl

theorem parse_askingLine_error {s : Subcommand} {words : List String} {stop : Stop}
    (stopped : readArguments s words = .error stop) (before behind : Nat) :
    parse (askingLine s before behind words) = .error stop := by
  refine (Counts.replicate_verbose before).parse_error ?_
  rw [readArguments_replicate_verbose, stopped]
  rfl

end BuildHeader.Command
