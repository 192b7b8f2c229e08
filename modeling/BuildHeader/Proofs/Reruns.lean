import BuildHeader.Proofs.HeaderRuns
import BuildHeader.Proofs.Publishing

/-!
# Running the program again

The program is run any number of times for the same path, each time with values of its own. The
invariant is `Shows`: once a run has succeeded, the path names a file with the header of the last
subject, and a run that keeps it rewrites the file just for another subject.

Results:
1. `Update.run_readable`, `Update.run_unreadable`: what one run is, by its log rules.
2. `shows_of_success`: a run that succeeds makes the invariant hold.
3. `keepsUp_step`: a run that reads its log rules keeps it.
4. `neverStale_iff`: no header goes stale, and none is rewritten without need, just if no run after
   a success is stopped by its log rules.
-/

namespace BuildHeader.Command

open BuildHeader.Files BuildHeader.Log BuildHeader.Macro BuildHeader.Profile BuildHeader.Publish
open FileSystem

/-! ## Runs for one path -/

/-- A command line that is to publish a header at the path, and the text of its log rules.

* `parsed`: it is no usage error, and asks for no help.
* `publishes`: the header is not to be printed.
* `leads`: the directory and the file name make up the path. -/
structure Update (path : String) where
  words : List String
  environment : Option String
  invocation : Invocation
  parsed : parse words = .ok invocation
  publishes : invocation.dryRun = false
  leads : joinPath invocation.directory invocation.fileName = path

namespace Update

variable {path : String}

/-- What the header is about. -/
def subject (u : Update path) : Subject :=
  u.invocation.subject

/-- The log rules do not stop the program. -/
def isReadable (u : Update path) : Bool :=
  Command.isReadable u.environment

/-- Runs the command line. -/
def run (fs : FileSystem) (u : Update path) : Result :=
  Command.run fs u.words u.environment

end Update

section
variable {path : String}

/-- The file system after runs, one by one. -/
def afterUpdates (fs : FileSystem) (updates : List (Update path)) : FileSystem :=
  updates.foldl (fun fs u => (u.run fs).after) fs

/-! ## What is expected of runs -/

/-- The path names a file that holds the header of the subject. -/
def Shows (fs : FileSystem) (path : String) (s : Subject) : Prop :=
  ∃ set stamp, s.definitions = .ok set ∧ fs.find path = .ok (.file set.render.toUTF8 stamp)

/-- The file that the path names was rewritten. -/
def Rewritten (before after : FileSystem) (path : String) : Prop :=
  ∃ place, after.locate .look path = .ok place ∧ after.isWrittenSince before place = true

/-- Runs after a success, the last one for that subject: each of them succeeds, shows its header,
and rewrites the file just if its subject is not the one before. -/
def KeepsUp (fs : FileSystem) (last : Subject) : List (Update path) → Prop
  | [] => True
  | u :: rest =>
    (u.run fs).status = 0 ∧ Shows (u.run fs).after path u.subject ∧
      (Rewritten fs (u.run fs).after path ↔ u.subject ≠ last) ∧
      KeepsUp (u.run fs).after u.subject rest

/-- After any success the path shows the header, and the later runs keep up. -/
def NeverStale (fs : FileSystem) : List (Update path) → Prop
  | [] => True
  | u :: rest =>
    ((u.run fs).status = 0 →
      Shows (u.run fs).after path u.subject ∧ KeepsUp (u.run fs).after u.subject rest) ∧
    NeverStale (u.run fs).after rest

/-- No run after a success is stopped by its log rules. -/
def ReadableOnceShown (fs : FileSystem) : List (Update path) → Prop
  | [] => True
  | u :: rest =>
    ((u.run fs).status = 0 → ∀ later ∈ rest, later.isReadable = true) ∧
      ReadableOnceShown (u.run fs).after rest

/-! ## One run -/

/-- A run that cannot read its log rules does nothing. -/
theorem Update.run_unreadable {u : Update path} (h : u.isReadable = false) (fs : FileSystem) :
    u.run fs = { status := 101, after := fs } :=
  Command.run_unreadable u.parsed h fs

/-- Any other run publishes the header of its subject, and succeeds just if that does. -/
theorem Update.run_readable {u : Update path} (h : u.isReadable = true) {set : DefinitionSet}
    (defined : u.subject.definitions = .ok set) (fs : FileSystem) :
    (u.run fs).after = (publish fs path set.render).after ∧
      ((u.run fs).status = 0 ↔ ∃ outcome, (publish fs path set.render).result = .ok outcome) := by
  obtain ⟨own, ownDefined, produced⟩ := run_produces u.parsed h fs
  cases ownDefined.symm.trans defined
  rw [u.publishes, u.leads] at produced
  rw [Update.run]
  cases produced with
  | published ok done _ left => simp [ok, done, left]
  | failed failed notDone _ left => simp [failed, notDone, left]

theorem isReadable_of_success {u : Update path} {fs : FileSystem}
    (ok : (u.run fs).status = 0) : u.isReadable = true := by
  cases h : u.isReadable with
  | true => rfl
  | false =>
    rw [Update.run_unreadable h] at ok
    cases ok

/-- A run that succeeds shows its header. -/
theorem shows_of_success {u : Update path} {fs : FileSystem} (plain : fs.IsPlain)
    (ok : (u.run fs).status = 0) : Shows (u.run fs).after path u.subject := by
  obtain ⟨set, defined, -, -⟩ := u.subject.exists_definitions
  obtain ⟨after, succeeds⟩ := Update.run_readable (isReadable_of_success ok) defined fs
  obtain ⟨outcome, published⟩ := succeeds.mp ok
  obtain ⟨stamp, found⟩ := publish_ok_find plain published
  exact ⟨set, stamp, defined, after ▸ found⟩

theorem run_isPlain {fs : FileSystem} (plain : fs.IsPlain) (u : Update path) :
    (u.run fs).after.IsPlain := by
  cases h : u.isReadable with
  | false =>
    rw [Update.run_unreadable h]
    exact plain
  | true =>
    obtain ⟨set, defined, -, -⟩ := u.subject.exists_definitions
    rw [(Update.run_readable h defined fs).1]
    exact publish_isPlain plain path set.render

/-- Where a header is shown, a run that reads its log rules succeeds, shows its own header, and
rewrites the file just for another subject. -/
theorem keepsUp_step {u : Update path} {fs : FileSystem} {last : Subject}
    (shows : Shows fs path last) (h : u.isReadable = true) :
    (u.run fs).status = 0 ∧ Shows (u.run fs).after path u.subject ∧
      (Rewritten fs (u.run fs).after path ↔ u.subject ≠ last) := by
  obtain ⟨old, stamp, was, found⟩ := shows
  obtain ⟨set, defined, -, -⟩ := u.subject.exists_definitions
  obtain ⟨place, located, stands⟩ := find_eq_ok_iff.mp found
  obtain ⟨after, succeeds⟩ := Update.run_readable h defined fs
  have sameBytes := Subject.header_eq_iff was defined
  rw [after, succeeds]
  -- The bytes are the same just for the same subject.
  rcases publish_of_file located stands set.render with
    ⟨same, published, untouched⟩ | ⟨differs, published, leads, holds⟩
  · rw [same] at found
    rw [untouched]
    refine ⟨⟨_, published⟩, ⟨set, stamp, defined, found⟩, ?_⟩
    constructor
    · rintro ⟨other, -, written⟩
      rw [not_isWrittenSince rfl] at written
      cases written
    · intro another
      exact absurd (sameBytes.mp same).symm another
  · refine ⟨⟨_, published⟩, ⟨set, _, defined, find_eq_ok_iff.mpr ⟨place, leads, holds⟩⟩, ?_⟩
    constructor
    · rintro - again
      exact differs (sameBytes.mpr again.symm)
    · intro _
      exact ⟨place, leads, (isWrittenSince_iff stands holds).mpr (by omega)⟩

/-! ## Whole sequences of runs -/

/-- From where a header is shown, the runs keep up just if none is stopped by its log rules. -/
theorem keepsUp_iff {fs : FileSystem} {last : Subject} (updates : List (Update path))
    (shows : Shows fs path last) :
    KeepsUp fs last updates ↔ ∀ u ∈ updates, u.isReadable = true := by
  induction updates generalizing fs last with
  | nil => simp [KeepsUp]
  | cons u rest ih =>
    rw [KeepsUp, List.forall_mem_cons]
    constructor
    · rintro ⟨ok, shown, -, keeps⟩
      exact ⟨isReadable_of_success ok, (ih shown).mp keeps⟩
    · rintro ⟨readable, others⟩
      obtain ⟨ok, shown, rewrites⟩ := keepsUp_step shows readable
      exact ⟨ok, shown, rewrites, (ih shown).mpr others⟩

theorem neverStale_iff_readable {fs : FileSystem} (plain : fs.IsPlain)
    (updates : List (Update path)) : NeverStale fs updates ↔ ReadableOnceShown fs updates := by
  induction updates generalizing fs with
  | nil => rfl
  | cons u rest ih =>
    rw [NeverStale, ReadableOnceShown, ih (run_isPlain plain u)]
    refine and_congr_left fun _ => forall_congr' fun ok => ?_
    have shows := shows_of_success plain ok
    rw [keepsUp_iff rest shows]
    exact and_iff_right shows

/-- Runs that cannot read their log rules can be left out. -/
theorem afterUpdates_filter (fs : FileSystem) (updates : List (Update path)) :
    afterUpdates fs (updates.filter Update.isReadable) = afterUpdates fs updates := by
  induction updates generalizing fs with
  | nil => rfl
  | cons u rest ih =>
    cases h : u.isReadable with
    | true =>
      rw [List.filter_cons_of_pos h]
      exact ih (u.run fs).after
    | false =>
      rw [List.filter_cons_of_neg (by simp [h]), ih]
      show afterUpdates fs rest = afterUpdates (u.run fs).after rest
      rw [Update.run_unreadable h]

theorem readableOnceShown_filter (fs : FileSystem) (updates : List (Update path)) :
    ReadableOnceShown fs (updates.filter Update.isReadable) := by
  have all : ∀ readable : List (Update path), (∀ u ∈ readable, u.isReadable = true) →
      ∀ fs, ReadableOnceShown fs readable := by
    intro readable
    induction readable with
    | nil => exact fun _ _ => trivial
    | cons u rest ih =>
      intro h fs
      have later : ∀ v ∈ rest, v.isReadable = true := fun v member => h v (by simp [member])
      exact ⟨fun _ => later, ih later _⟩
  exact all _ (fun u member => (List.mem_filter.mp member).2) fs

/-- No header goes stale, and none is rewritten without need, just if no run after a success is
stopped by its log rules. The runs that are stopped leave everything as it was, and no header goes
stale in the others. -/
theorem neverStale_iff {fs : FileSystem} (plain : fs.IsPlain) (updates : List (Update path)) :
    (NeverStale fs updates ↔ ReadableOnceShown fs updates) ∧
      afterUpdates fs updates = afterUpdates fs (updates.filter Update.isReadable) ∧
      NeverStale fs (updates.filter Update.isReadable) := by
  refine ⟨neverStale_iff_readable plain updates, (afterUpdates_filter fs updates).symm, ?_⟩
  exact (neverStale_iff_readable plain _).mpr (readableOnceShown_filter fs updates)

theorem parse_standardNames :
    parse ["dirs", "o"] = .ok ⟨.directories {}, "o", "AlususDefs.h", false, 0⟩ := by
  have subcommand : Subcommand.ofWord? "dirs" = some .dirs := rfl
  have arguments : readArguments .dirs ["o"] = .ok { directory := some "o" } := rfl
  rw [parse, readWords]
  simp only [subcommand, arguments]
  rfl

theorem joinPath_standardNames : joinPath "o" "AlususDefs.h" = "o/AlususDefs.h" := by
  decide +kernel

/-- The directory names that are standard, published below `o`. -/
def standardNames (environment : Option String) : Update "o/AlususDefs.h" where
  words := ["dirs", "o"]
  environment := environment
  invocation := ⟨.directories {}, "o", "AlususDefs.h", false, 0⟩
  parsed := parse_standardNames
  publishes := rfl
  leads := joinPath_standardNames

/-- The same header twice, from the empty file system. -/
theorem neverStale_standardNames : FileSystem.empty.IsPlain ∧
    NeverStale FileSystem.empty [standardNames none, standardNames (some "debug")] := by
  refine ⟨isPlain_empty, (neverStale_iff isPlain_empty _).1.mpr ⟨fun _ => ?_, ?_, trivial⟩⟩
  · decide +kernel
  · exact fun _ => List.forall_mem_nil _

/-- A blank before a letter outside of ASCII stops the second run. -/
theorem not_neverStale_after_blank :
    ¬ NeverStale FileSystem.empty [standardNames none, standardNames (some " é=info")] := by
  rintro ⟨first, -⟩
  obtain ⟨set, defined, -, -⟩ := (standardNames none).subject.exists_definitions
  have created : ((standardNames none).run FileSystem.empty).status = 0 := by
    rw [(Update.run_readable (by decide +kernel) defined _).2]
    exact ⟨.created, by rfl⟩
  obtain ⟨-, second, -⟩ := first created
  have stopped : (standardNames (some " é=info")).isReadable = false := by decide +kernel
  rw [Update.run_unreadable stopped] at second
  cases second

end

end BuildHeader.Command
