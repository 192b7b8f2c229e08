import BuildHeader.Proofs.Tokens

/-!
# Reading tokens

Reading goes from left to right and stops at the first token that cannot stand, while the output
directory is taken in one token late. What is compared here is the outcome: while reading goes on,
what has been taken in is what the tokens so far ask for, and where it stops, they cannot stand
together.

Results:
1. `Collects.addValue`, `Collects.addDirectory`: one token that is taken in.
2. `Reader.Reads.read`: one token keeps the reader in step with the tokens that it has read.
3. `reads_foldlM`, `collects_tokens`: so do all tokens of a list.
-/

namespace BuildHeader.Command

/-! ## Definitions -/

/-- What is given says what the tokens ask for, each thing once at most. -/
structure Collects (tokens : List Token) (g : Given) : Prop where
  values : ∀ o : ValueOption, valuesOf o.long tokens = (g.values.lookup o).toList
  dryRun : tokens.count .dryRun = g.dryRun.toNat
  verbosity : tokens.count .verbose = g.verbosity
  directory : directoriesOf tokens = g.directory.toList
  notEmpty : g.directory ≠ some ""

/-- `Stands s tokens P reading`: these tokens are read as they should be.

* `reached`: reading goes on, with a result of that kind.
* `refused`: it stops with a usage error, and the tokens cannot stand together. -/
inductive Stands {α : Type} (s : Subcommand) (tokens : List Token) (P : α → Prop) :
    Except Stop α → Prop
  | reached {result : α} : P result → Stands s tokens P (.ok result)
  | refused {e : UsageError} : ¬ Fits s tokens → Stands s tokens P (.error (.usage e))

/-- A reader that has read these tokens. No value is awaited, and no escape is read. -/
structure Reader.Reads (s : Subcommand) (tokens : List Token) (r : Reader) : Prop where
  options : r.verbatim = false
  complete : r.pending = .nothing ∨ ∃ text, r.pending = .directory text
  settled : Stands s tokens (Collects tokens) r.settle

section
variable {s : Subcommand} {before after : List Token}

/-- What is refused stays refused. -/
theorem Stands.bind {α β : Type} {P : α → Prop} {Q : β → Prop} {reading : Except Stop α}
    {next : α → Except Stop β} (stands : Stands s before P reading) (further : before <+: after)
    (goesOn : ∀ result, P result → Stands s after Q (next result)) :
    Stands s after Q (reading >>= next) := by
  cases stands with
  | reached reached => exact goesOn _ reached
  | refused unfit => exact .refused fun fits => unfit (fits.sublist further.sublist)

theorem Stands.exists_of_fits {α : Type} {P : α → Prop} {reading : Except Stop α}
    (stands : Stands s before P reading) (fits : Fits s before) :
    ∃ result, reading = .ok result ∧ P result := by
  cases stands with
  | reached reached => exact ⟨_, rfl, reached⟩
  | refused unfit => exact absurd fits unfit

/-! ## Taking in one token -/

theorem Collects.nil : Collects [] {} where
  values _ := rfl
  dryRun := rfl
  verbosity := rfl
  directory := rfl
  notEmpty := by simp

variable {g : Given}

theorem Collects.addValue (collects : Collects before g) {o : ValueOption}
    (named : o.long ∈ requiredNames s ++ optionalNames) (text : String) :
    Stands s (before ++ [.value o.long text]) (Collects (before ++ [.value o.long text]))
      (g.addValue o text) := by
  unfold Given.addValue
  split
  · next repeated =>
    obtain ⟨first, isThere⟩ := Option.isSome_iff_exists.mp repeated
    refine .refused fun fits => absurd (fits.values _ named) ?_
    rw [valuesOf_append, collects.values, isThere]
    simp [valuesOf]
  · next new =>
    refine .reached ⟨fun o' => ?_, ?_, ?_, ?_, collects.notEmpty⟩
    · rw [valuesOf_append, collects.values]
      by_cases same : o' = o
      · subst same
        rw [Option.not_isSome_iff_eq_none.mp new]
        simp [valuesOf]
      · have otherName : ¬ o.long = o'.long := fun alike => same (long_injective alike).symm
        simp [valuesOf, otherName, List.lookup_cons, beq_eq_false_iff_ne.mpr same]
    · simpa using collects.dryRun
    · simpa using collects.verbosity
    · simpa [directoriesOf] using collects.directory

theorem Collects.addVerbose (collects : Collects before g) :
    Collects (before ++ [.verbose]) { g with verbosity := g.verbosity + 1 } where
  values o := by simpa [valuesOf] using collects.values o
  dryRun := by simpa using collects.dryRun
  verbosity := by simpa using collects.verbosity
  directory := by simpa [directoriesOf] using collects.directory
  notEmpty := collects.notEmpty

theorem Collects.addDryRun (collects : Collects before g) (new : g.dryRun = false) :
    Collects (before ++ [.dryRun]) { g with dryRun := true } where
  values o := by simpa [valuesOf] using collects.values o
  dryRun := by simpa [new] using collects.dryRun
  verbosity := by simpa using collects.verbosity
  directory := by simpa [directoriesOf] using collects.directory
  notEmpty := collects.notEmpty

theorem Collects.addDirectory (collects : Collects before g) (new : g.directory = none)
    (text : String) :
    Stands s (before ++ [.directory text]) (Collects (before ++ [.directory text]))
      (g.addDirectory text) := by
  have only : directoriesOf (before ++ [.directory text]) = [text] := by
    rw [directoriesOf_append, collects.directory, new]
    rfl
  unfold Given.addDirectory
  split
  · next empty =>
    refine .refused fun fits => fits.notEmpty ?_
    rw [only, empty]
    exact List.mem_singleton_self ""
  · next notEmpty =>
    refine .reached ⟨fun o => ?_, ?_, ?_, only, by simpa using notEmpty⟩
    · simpa [valuesOf] using collects.values o
    · simpa using collects.dryRun
    · simpa using collects.verbosity

/-! ## Reading one token -/

namespace Reader

variable {r : Reader} {t : Token}

theorem Reads.nil : Reads s [] {} where
  options := rfl
  complete := .inl rfl
  settled := .reached .nil

/-- A token that is taken in at once. -/
theorem Reads.advance (reads : r.Reads s before) {next : Given → Except Stop Given}
    (taken : ∀ g, Collects before g →
      Stands s (before ++ [t]) (Collects (before ++ [t])) (next g)) :
    Stands s (before ++ [t]) (Reads s (before ++ [t])) (r.advance next) := by
  refine reads.settled.bind (List.prefix_append ..) fun g collects => ?_
  refine (taken g collects).bind (List.prefix_refl _) fun given collected => ?_
  exact .reached ⟨reads.options, .inl rfl, .reached collected⟩

theorem Reads.readSwitch_dryRun (reads : r.Reads s before) :
    Stands s (before ++ [.dryRun]) (Reads s (before ++ [.dryRun])) (r.readSwitch s .dryRun) := by
  refine reads.advance fun g collects => ?_
  split
  · next repeated =>
    refine .refused fun fits => absurd fits.dryRun ?_
    rw [List.count_append, collects.dryRun, repeated]
    decide
  · next new => exact .reached (collects.addDryRun (by simpa using new))

theorem Reads.readSwitch_verbose (reads : r.Reads s before) :
    Stands s (before ++ [.verbose]) (Reads s (before ++ [.verbose])) (r.readSwitch s .verbose) :=
  reads.advance fun _ collects => .reached collects.addVerbose

/-- What is pending tells of the directory that is to be taken in with it. -/
theorem Reads.settles (reads : r.Reads s before) :
    Stands s before (fun g => Collects before g ∧ g.directory.isSome = r.hasDirectory) r.settle := by
  have settled := reads.settled
  rcases reads.complete with nothing | ⟨text, pending⟩
  · simp only [settle, hasDirectory, nothing] at settled ⊢
    cases settled with
    | reached collects => exact .reached ⟨collects, rfl⟩
  · simp only [settle, hasDirectory, pending, Given.addDirectory] at settled ⊢
    by_cases empty : text = ""
    · rw [if_pos empty] at settled ⊢
      cases settled with
      | refused unfit => exact .refused unfit
    · rw [if_neg empty] at settled ⊢
      cases settled with
      | reached collects => exact .reached ⟨collects, rfl⟩

theorem Reads.readDirectory (reads : r.Reads s before) (text : String) :
    Stands s (before ++ [.directory text]) (Reads s (before ++ [.directory text]))
      (r.readDirectory text) := by
  unfold Reader.readDirectory
  split
  · next repeated =>
    refine .refused fun fits => absurd fits.directories ?_
    obtain ⟨g, -, collects, same⟩ :=
      reads.settles.exists_of_fits (fits.sublist (List.sublist_append_left ..))
    obtain ⟨first, isThere⟩ := Option.isSome_iff_exists.mp (same.trans repeated)
    rw [directoriesOf_append, collects.directory, isThere]
    simp [directoriesOf]
  · next new =>
    have pended : (do return { (← r.advance .ok) with pending := .directory text }) =
        r.settle >>= fun given => .ok { r with given, pending := .directory text } := by
      unfold Reader.advance
      cases r.settle <;> rfl
    rw [pended]
    refine reads.settles.bind (List.prefix_append ..) fun g ⟨collects, same⟩ => ?_
    have free : g.directory = none := by
      rw [← Option.not_isSome_iff_eq_none, same]
      exact new
    -- The directory is tested when it is settled, so the reader goes on even if it is empty.
    exact .reached ⟨reads.options, .inr ⟨text, rfl⟩, collects.addDirectory free text⟩

/-- One token keeps the reader in step with the tokens that it has read. -/
theorem Reads.read (reads : r.Reads s before) (belongs : t.BelongsTo s) :
    Stands s (before ++ [t]) (Reads s (before ++ [t])) (r.read s t.word) := by
  unfold Reader.read
  simp only [reads.options, Bool.false_eq_true, if_false]
  cases t with
  | value name text =>
    obtain ⟨o, rfl, chosen⟩ := find?_named belongs
    simp only [ofChars_value (noEquals_of_named belongs), readLong, chosen]
    exact reads.advance fun g collects => collects.addValue belongs text
  | dryRun =>
    have word : r.readLong s "dry-run" none = r.readSwitch s .dryRun := by cases s <;> rfl
    show Stands s _ _ (r.readLong s "dry-run" none)
    rw [word]
    exact reads.readSwitch_dryRun
  | verbose =>
    have word : r.readLetters s ['v'] = r.readSwitch s .verbose := by
      cases s <;> exact bind_pure _
    show Stands s _ _ (r.readLetters s ['v'])
    rw [word]
    exact reads.readSwitch_verbose
  | directory text =>
    have word : Word.ofChars (Token.directory text).word.toList = .plain := ofChars_directory belongs
    have notAwaited : r.readPlain text = r.readDirectory text := by
      rcases reads.complete with nothing | ⟨other, pending⟩
      · simp only [readPlain, nothing]
      · simp only [readPlain, pending]
    simp only [word]
    show Stands s _ _ (r.readPlain text)
    rw [notAwaited]
    exact reads.readDirectory text

end Reader

/-! ## Reading all tokens -/

/-- The induction is on the tokens that are still to be read. -/
theorem reads_foldlM (tokens : List Token) {r : Reader} (reads : r.Reads s before)
    (belong : ∀ t ∈ tokens, t.BelongsTo s) :
    Stands s (before ++ tokens) (Reader.Reads s (before ++ tokens))
      ((tokens.map Token.word).foldlM (Reader.read s) r) := by
  induction tokens generalizing before r with
  | nil =>
    rw [List.append_nil]
    exact .reached reads
  | cons t rest ih =>
    rw [List.forall_mem_cons] at belong
    rw [List.map_cons, List.foldlM_cons, List.append_cons]
    exact (reads.read belong.1).bind (List.prefix_append ..) fun next inStep => ih inStep belong.2

/-- What is taken in at the end is what the tokens ask for. -/
theorem collects_tokens {tokens : List Token} (belong : ∀ t ∈ tokens, t.BelongsTo s) :
    Stands s tokens (Collects tokens)
      ((tokens.map Token.word).foldlM (Reader.read s) {} >>= Reader.settle) :=
  (reads_foldlM tokens .nil belong).bind (List.prefix_refl _) fun _ reads => reads.settled

end

end BuildHeader.Command
