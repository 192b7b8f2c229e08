import Mathlib.Data.List.Chain
import BuildHeader.Proofs.PublishingLog

/-!
# Editions of a header

Texts are published one after another to one path. The invariant is `Holds`: once a text is
published, the path leads to a file that holds it, and keeps leading there. Each later text is then
compared with the one before it alone.

Results:
1. `follows_step`: publishing where the path leads to the text before, and what it leads to then.
2. `follows_editions`: so each of any number of editions follows the one before.
3. `editions_follow`: after a first success nothing fails, each text is written just if it is not
   the one before, and the digests in the log join up.
-/

namespace BuildHeader.Publish

open BuildHeader.Files BuildHeader.Log FileSystem

/-! ## Definitions -/

/-- A text that was published, and the report of it. -/
structure Edition where
  text : String
  report : Report

/-- The editions of texts that are published to one path, each to the files that the one before
left. -/
def editions (path : String) (fs : FileSystem) : List String → List Edition
  | [] => []
  | text :: rest =>
    ⟨text, publish fs path text⟩ :: editions path (publish fs path text).after rest

/-- How often a text of the list is not the one before it. -/
def changes (texts : List String) : Nat :=
  (texts.zip texts.tail).countP fun (last, next) => last != next

/-- The path leads to the place, where a file holds the text and has that stamp. -/
structure Holds (fs : FileSystem) (path : String) (place : Place) (text : String) (stamp : Nat) :
    Prop where
  leads : fs.locate .look path = .ok place
  stands : fs.node? place = some (.file text.toUTF8 stamp)

/-- What is expected of an edition that follows another.

* `unchanged_iff`: the file is left alone, and the log says so and speaks of no writing, just if the
  text is the same.
* `updated`: another text is an update, and the digest that is logged of the old bytes is the one
  that was logged of the text before.
* `rewritten_iff`: a file is written just for another text. -/
structure Follows (path : String) (last next : Edition) : Prop where
  unchanged_iff : next.report.result = .ok .unchanged ∧ .unchanged path ∈ next.report.log ∧
    (∀ outcome, .written path outcome ∉ next.report.log) ↔ next.text = last.text
  updated : next.text ≠ last.text → next.report.result = .ok .updated ∧
    ∃ digest, (∀ d, .generated path d ∈ last.report.log ↔ d = digest) ∧
      ∀ d, .differs path d ∈ next.report.log ↔ d = digest
  rewritten_iff : (∃ place, next.report.after.isWrittenSince last.report.after place = true) ↔
    next.text ≠ last.text

/-! ## One edition after another -/

section
variable {fs : FileSystem} {path : String} {place : Place} {stamp : Nat} {last : Edition}

theorem bytes_eq_iff {text other : String} : text.toUTF8 = other.toUTF8 ↔ text = other := by
  rw [String.toUTF8_eq_toByteArray, String.toUTF8_eq_toByteArray, String.toByteArray_inj]

theorem Holds.find {text : String} (holds : Holds fs path place text stamp) :
    fs.find path = .ok (.file text.toUTF8 stamp) :=
  find_eq_ok_iff.mpr ⟨place, holds.leads, holds.stands⟩

/-- The same text again leaves everything as it is. -/
theorem follows_of_unchanged {text : String} (same : text = last.text)
    (ok : (publish last.report.after path text).result = .ok .unchanged)
    (untouched : (publish last.report.after path text).after = last.report.after) :
    Follows path last ⟨text, publish last.report.after path text⟩ where
  unchanged_iff := by
    refine iff_of_true ⟨ok, ?_⟩ same
    rw [log_of_unchanged ok]
    simp
  updated differs := absurd same differs
  rewritten_iff := by
    refine iff_of_false ?_ (not_not_intro same)
    rintro ⟨other, written⟩
    rw [untouched, not_isWrittenSince rfl] at written
    cases written

/-- Another text is written, and the old bytes are those of the text before. -/
theorem follows_of_updated {text : String}
    (holds : Holds last.report.after path place last.text stamp)
    (logged : ∀ digest, .generated path digest ∈ last.report.log ↔
      digest = Digest.ofText last.text) (differs : text ≠ last.text)
    (ok : (publish last.report.after path text).result = .ok .updated)
    (stands : (publish last.report.after path text).after.node? place =
      some (.file text.toUTF8 (stamp + 1))) :
    Follows path last ⟨text, publish last.report.after path text⟩ where
  unchanged_iff := by
    refine iff_of_false ?_ differs
    rintro ⟨unchanged, -⟩
    rw [ok] at unchanged
    cases unchanged
  updated _ := by
    refine ⟨ok, Digest.ofText last.text, logged, fun digest => ?_⟩
    rw [log_of_updated holds.find ok]
    simp [Digest.ofText]
  rewritten_iff := by
    refine iff_of_true ⟨place, ?_⟩ differs
    exact (isWrittenSince_iff holds.stands stands).mpr (Nat.ne_of_lt (Nat.lt_succ_self stamp))

/-- Where the path leads to the text before, the next edition follows it, and the path leads to the
next text, in the same place. -/
theorem follows_step (holds : Holds last.report.after path place last.text stamp)
    (logged : ∀ digest, .generated path digest ∈ last.report.log ↔
      digest = Digest.ofText last.text) (text : String) :
    Follows path last ⟨text, publish last.report.after path text⟩ ∧
      Holds (publish last.report.after path text).after path place text
        (stamp + if last.text != text then 1 else 0) := by
  rcases publish_of_file holds.leads holds.stands text with
    ⟨same, ok, untouched⟩ | ⟨differs, ok, leads, stands⟩
  · have sameText := bytes_eq_iff.mp same
    refine ⟨follows_of_unchanged sameText.symm ok untouched, ?_⟩
    rw [untouched, ← sameText]
    simpa using holds
  · have differ : last.text ≠ text := fun same => differs (bytes_eq_iff.mpr same)
    refine ⟨follows_of_updated holds logged differ.symm ok stands, ⟨leads, ?_⟩⟩
    rw [if_pos (bne_iff_ne.mpr differ)]
    exact stands

/-! ## Any number of editions -/

theorem changes_cons (last next : String) (rest : List String) :
    changes (last :: next :: rest) =
      (if last != next then 1 else 0) + changes (next :: rest) := by
  rw [changes, List.tail_cons, List.zip_cons_cons, List.countP_cons, Nat.add_comm]
  rfl

theorem Follows.succeeds {next : Edition} (follows : Follows path last next) :
    ∃ outcome, next.report.result = .ok outcome := by
  by_cases same : next.text = last.text
  · exact ⟨.unchanged, (follows.unchanged_iff.mpr same).1⟩
  · exact ⟨.updated, (follows.updated same).1⟩

/-- Each edition succeeds and follows the one before, and the last one is held where the first was.
The induction is on the texts still to be published. -/
theorem follows_editions (last : Edition)
    (holds : Holds last.report.after path place last.text stamp)
    (logged : ∀ digest, .generated path digest ∈ last.report.log ↔
      digest = Digest.ofText last.text) (rest : List String) :
    (∀ edition ∈ editions path last.report.after rest,
        ∃ outcome, edition.report.result = .ok outcome) ∧
      (last :: editions path last.report.after rest).IsChain (Follows path) ∧
      ∃ final, (last :: editions path last.report.after rest).getLast? = some final ∧
        Holds final.report.after path place final.text (stamp + changes (last.text :: rest)) := by
  induction rest generalizing last stamp with
  | nil => exact ⟨List.forall_mem_nil _, .singleton last, last, rfl, holds⟩
  | cons text rest ih =>
    obtain ⟨follows, holdsNext⟩ := follows_step holds logged text
    obtain ⟨succeed, chain, final, isLast, holdsFinal⟩ :=
      ih ⟨text, publish last.report.after path text⟩ holdsNext
        fun digest => generated_mem_log_iff
    refine ⟨List.forall_mem_cons.mpr ⟨follows.succeeds, succeed⟩, .cons_cons follows chain, final,
      ?_, ?_⟩
    · rw [editions, List.getLast?_cons_cons, isLast]
    · rw [changes_cons, ← Nat.add_assoc]
      exact holdsFinal

theorem map_text_editions (path : String) (fs : FileSystem) (texts : List String) :
    (editions path fs texts).map Edition.text = texts := by
  induction texts generalizing fs with
  | nil => rfl
  | cons text rest ih => rw [editions, List.map_cons, ih]

end

/-- If the first text is published all are, and each edition follows the one before. The path leads
to one and the same file after the first text and after the last. It holds these texts, and its
stamp, which every rewriting raises, has grown as often as the text has changed. -/
theorem editions_follow {fs : FileSystem} (plain : fs.IsPlain) {path first : String}
    {outcome : Outcome} (ok : (publish fs path first).result = .ok outcome) (rest : List String) :
    (∀ edition ∈ editions path fs (first :: rest),
        ∃ outcome, edition.report.result = .ok outcome) ∧
      (editions path fs (first :: rest)).IsChain (Follows path) ∧
      ∃ place stamp final, Holds (publish fs path first).after path place first stamp ∧
        (editions path fs (first :: rest)).getLast? = some final ∧
        (first :: rest).getLast? = some final.text ∧
        Holds final.report.after path place final.text (stamp + changes (first :: rest)) := by
  obtain ⟨stamp, found⟩ := publish_ok_find plain ok
  obtain ⟨place, leads, stands⟩ := find_eq_ok_iff.mp found
  have holds : Holds (publish fs path first).after path place first stamp := ⟨leads, stands⟩
  obtain ⟨succeed, chain, final, isLast, holdsFinal⟩ :=
    follows_editions ⟨first, publish fs path first⟩ holds
      (fun digest => generated_mem_log_iff) rest
  have lastText : (first :: rest).getLast? = some final.text := by
    rw [← map_text_editions path fs (first :: rest), List.getLast?_map]
    exact congrArg (Option.map Edition.text) isLast
  exact ⟨List.forall_mem_cons.mpr ⟨⟨outcome, ok⟩, succeed⟩, chain, place, stamp, final, holds,
    isLast, lastText, holdsFinal⟩

/-- A file is created in a new directory, kept once and then updated. -/
theorem editions_follow_in_new_directory : FileSystem.empty.IsPlain ∧
    (publish FileSystem.empty "a/f" "x").result = .ok .created ∧
    (editions "a/f" FileSystem.empty ["x", "x", "y"]).IsChain (Follows "a/f") ∧
    changes ["x", "x", "y"] = 1 := by
  have created : (publish FileSystem.empty "a/f" "x").result = .ok .created := by decide +kernel
  obtain ⟨-, chain, -⟩ := editions_follow isPlain_empty created ["x", "y"]
  exact ⟨isPlain_empty, created, chain, by decide⟩

end BuildHeader.Publish
