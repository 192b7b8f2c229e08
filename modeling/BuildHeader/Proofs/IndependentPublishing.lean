import BuildHeader.Proofs.TreePublishing

/-!
# Publishing to two paths in either order

Without links a publishing that succeeds puts one file at the place of its path and directories
above it, and one that fails does nothing. A file has one name only, so that no other place shows
what is written to it. So of two paths, neither of which is a beginning of the other, one is
published as if the other were not: what stands at its own place is untouched, and nothing but
directories appears in its way. Directories that are missing above both are made by whichever comes
first.

Results:
1. `publish_puts`, `publish_error_keeps`: the tree afterwards, place by place.
2. `Puts.undisturbed`, `publish_of_undisturbed`: one publishing leaves the other's result as it is.
3. `publish_comm`: the results and the tree are the same in either order.
-/

namespace BuildHeader.Publish

open BuildHeader.Files FileSystem

/-! ## Definitions -/

/-- The same nodes stand in the same places, and relative paths start at the same one. -/
structure SameTree (one other : FileSystem) : Prop where
  home : one.home = other.home
  nodes : ∀ place, one.node? place = other.node? place

/-- `Puts fs after place node`: the node stands at the place afterwards, with directories above it
as far as they were missing, and nothing else is done. -/
structure Puts (fs after : FileSystem) (place : Place) (node : Node) : Prop where
  home : after.home = fs.home
  stands : after.node? place = some node
  kept : ∀ other old, other ≠ place → fs.node? other = some old → after.node? other = some old
  elsewhere : ∀ other, ¬ other <:+ place → after.node? other = fs.node? other

/-- The file that stands where a text was published, by what stood there before. -/
def fileAfter (bytes : ByteArray) : Option Node → Node
  | some (.file old stamp) => if old = bytes then .file old stamp else .file bytes (stamp + 1)
  | _ => .file bytes 0

/-- Neither place is above the other, and they are not the same. -/
structure Apart (one other : Place) : Prop where
  notAbove : ¬ one <:+ other
  notBelow : ¬ other <:+ one

/-- `Undisturbed fs after path`: what a publishing to the path looks at is the same in both. -/
structure Undisturbed (fs after : FileSystem) (path : String) : Prop where
  home : after.home = fs.home
  stands : after.node? (fs.placeOf path) = fs.node? (fs.placeOf path)
  blocked : IsBlocked after path ↔ IsBlocked fs path

/-- Two texts are published to two paths with the same results and the same tree in either order. -/
structure Commutes (fs : FileSystem) (one text other text' : String) : Prop where
  one_result : (publish (publish fs other text').after one text).result =
    (publish fs one text).result
  other_result : (publish (publish fs one text).after other text').result =
    (publish fs other text').result
  tree : SameTree (publish (publish fs one text).after other text').after
    (publish (publish fs other text').after one text).after

section
variable {fs after : FileSystem} {path contents : String}

/-! ## The place of a path -/

theorem find_eq_ok_iff_placeOf (noLinks : fs.HasNoLinks) (ordinary : IsOrdinary path)
    {node : Node} : fs.find path = .ok node ↔ fs.node? (fs.placeOf path) = some node := by
  refine ⟨fun found => ?_, find_of_present noLinks ordinary⟩
  rcases tree_cases fs path with ⟨other, stands⟩ | blocked | free
  · rw [find_of_present noLinks ordinary stands] at found
    cases found
    exact stands
  · rw [blocked.find noLinks ordinary] at found
    cases found
  · rw [free.find noLinks ordinary] at found
    cases found

/-- A path leads nowhere but to the place of its names. -/
theorem eq_placeOf_of_locate (noLinks : fs.HasNoLinks) (ordinary : IsOrdinary path) {place : Place}
    {node : Node} (located : fs.locate .look path = .ok place)
    (stands : fs.node? place = some node) : place = fs.placeOf path := by
  have found := find_eq_ok_iff.mpr ⟨place, located, stands⟩
  have present := (find_eq_ok_iff_placeOf noLinks ordinary).mp found
  rw [locate_of_present noLinks ordinary (by simp [present])] at located
  exact (Except.ok.inj located).symm

/-! ## The tree afterwards -/

/-- Directories are made above the place of a path and nowhere else. -/
theorem node?_of_made (noLinks : fs.HasNoLinks) (ordinary : IsOrdinary path) {grown : FileSystem}
    {result : Except Fault Unit}
    (made : fs.ensureDirectories (directoriesAbove path) = (result, grown)) {other : Place}
    (notAbove : ¬ other <:+ fs.placeOf path) : grown.node? other = fs.node? other := by
  have along := directoriesAbove_growsAlong made
  cases missing : fs.node? other with
  | some node => exact along.grows.kept other node missing
  | none =>
    cases stands : grown.node? other with
    | none => rfl
    | some node =>
      obtain ⟨directory, member, leads⟩ := along.named other missing (by simp [stands])
      have above := above_of_mem member
      have place := eq_placeOf_of_locate (noLinks.grows along.grows) (ordinary.above above) leads
        stands
      rw [placeOf, along.grows.home, ← placeOf] at place
      exact absurd (place ▸ placeOf_suffix above fs) notAbove

/-- A text is stored at the place of its path's names. -/
theorem eq_placeOf_of_writes (noLinks : fs.HasNoLinks) (ordinary : IsOrdinary path)
    {bytes : ByteArray} {place : Place} (located : fs.locate .write path = .ok place)
    (writes : fs.Writes bytes place after) : place = fs.placeOf path := by
  have leads := writes.locate located
  have present : ∃ node, after.node? place = some node := by
    rcases writes.node? located with ⟨stamp, stands, -⟩ | ⟨same, node, stands, -⟩
    · exact ⟨_, stands⟩
    · exact ⟨node, same.trans stands⟩
  obtain ⟨node, stands⟩ := present
  have place := eq_placeOf_of_locate (noLinks.writes writes) ordinary leads stands
  rwa [placeOf, writes.preserves.home, ← placeOf] at place

/-- What is written where nothing stood, or a file with other bytes. -/
theorem node?_of_writes {bytes : ByteArray} {place : Place}
    (located : fs.locate .write path = .ok place) (writes : fs.Writes bytes place after)
    (before : fs.node? place = none ∨
      ∃ old stamp, fs.node? place = some (.file old stamp) ∧ old ≠ bytes) :
    after.node? place = some (fileAfter bytes (fs.node? place)) := by
  obtain ⟨name, holder, rfl, accepts⟩ := accepts_of_locate located writes.not_directory
  cases writes with
  | new missing =>
    rw [missing]
    exact node?_set accepts
  | @rewritten old stamp stands =>
    have differs : old ≠ bytes := by
      rcases before with missing | ⟨old', stamp', stands', differs⟩
      · simp [missing] at stands
      · rw [stands] at stands'
        cases stands'
        exact differs
    rw [stands, fileAfter, if_neg differs]
    exact node?_set accepts
  | lost stands _ notFile =>
    rcases before with missing | ⟨old, stamp, isFile, -⟩
    · simp [missing] at stands
    · rw [stands] at isFile
      exact absurd (Option.some.inj isFile) (notFile old stamp)

/-- A text that is stored where nothing stood, or a file with other bytes, is put there. -/
theorem Stores.puts (noLinks : fs.HasNoLinks) (ordinary : IsOrdinary path)
    (stores : Stores fs path contents after)
    (before : fs.node? (fs.placeOf path) = none ∨
      ∃ old stamp, fs.node? (fs.placeOf path) = some (.file old stamp) ∧ old ≠ contents.toUTF8) :
    Puts fs after (fs.placeOf path)
      (fileAfter contents.toUTF8 (fs.node? (fs.placeOf path))) := by
  obtain ⟨grown, place, made, located, writes⟩ := stores
  have grows := grows_of_ensureDirectories made
  have isPlace := eq_placeOf_of_writes (noLinks.grows grows) ordinary located writes
  rw [placeOf, grows.home, ← placeOf] at isPlace
  subst isPlace
  -- Making directories leaves the place as it was, for a directory there could not be written.
  have same : grown.node? (fs.placeOf path) = fs.node? (fs.placeOf path) := by
    rcases before with missing | ⟨old, stamp, stands, -⟩
    · rw [missing]
      exact (grows.added _ missing).resolve_right writes.not_directory
    · rw [stands]
      exact grows.kept _ _ stands
  refine ⟨writes.preserves.home.trans grows.home, ?_, fun other old ne stands => ?_,
    fun other notAbove => ?_⟩
  · rw [← same] at before ⊢
    exact node?_of_writes located writes before
  · rw [writes.node?_of_ne ne]
    exact grows.kept other old stands
  · have ne : other ≠ fs.placeOf path := fun isPlace => notAbove (isPlace ▸ List.suffix_rfl)
    rw [writes.node?_of_ne ne, node?_of_made noLinks ordinary made notAbove]

/-- A text that is published stands in a file at the place of the path's names, and nothing but
directories above it is new. -/
theorem publish_puts (noLinks : fs.HasNoLinks) (ordinary : IsOrdinary path) {outcome : Outcome}
    (ok : (publish fs path contents).result = .ok outcome) :
    Puts fs (publish fs path contents).after (fs.placeOf path)
      (fileAfter contents.toUTF8 (fs.node? (fs.placeOf path))) := by
  have publishes := publish_publishes fs path contents
  rw [ok] at publishes
  generalize (publish fs path contents).after = after at publishes
  cases publishes with
  | unchanged found =>
    have stands := (find_eq_ok_iff_placeOf noLinks ordinary).mp found
    refine ⟨rfl, ?_, fun _ _ _ same => same, fun _ _ => rfl⟩
    rw [stands, fileAfter, if_pos rfl]
  | updated found differs stores =>
    have stands := (find_eq_ok_iff_placeOf noLinks ordinary).mp found
    exact stores.puts noLinks ordinary (.inr ⟨_, _, stands, differs⟩)
  | created missing stores =>
    refine stores.puts noLinks ordinary (.inl ?_)
    cases stands : fs.node? (fs.placeOf path) with
    | none => rfl
    | some node =>
      rw [find_of_present noLinks ordinary stands] at missing
      cases missing

/-- A publishing that fails changes nothing. -/
theorem publish_error_keeps (noLinks : fs.HasNoLinks) (ordinary : IsOrdinary path)
    {error : PublishError} (failed : (publish fs path contents).result = .error error) :
    (publish fs path contents).after = fs := by
  have spares := publish_spares failed
  cases error with
  | notAFile | readExisting => exact spares
  | createDirectory directory cause =>
    exact absurd failed ((publish_inTree noLinks ordinary contents).noOther directory cause).1
  | write path cause =>
    exact absurd failed ((publish_inTree noLinks ordinary contents).noOther path cause).2

theorem publish_hasNoLinks (noLinks : fs.HasNoLinks) (path contents : String) :
    (publish fs path contents).after.HasNoLinks := by
  have publishes := publish_publishes fs path contents
  generalize (publish fs path contents).result = result,
    (publish fs path contents).after = after at publishes ⊢
  cases publishes with
  | unchanged => exact noLinks
  | updated _ _ stores | created _ stores =>
    obtain ⟨grown, place, made, -, writes⟩ := stores
    exact (noLinks.grows (grows_of_ensureDirectories made)).writes writes
  | failed _ grows => exact noLinks.grows grows

/-! ## The other path -/

theorem Puts.directory_above {place other : Place} {node : Node} (puts : Puts fs after place node)
    (isAbove : other <:+ place) (ne : other ≠ place) : after.node? other = some .directory := by
  obtain ⟨more, rfl⟩ := isAbove
  have below : more ≠ [] := by
    rintro rfl
    exact ne rfl
  exact directory_of_below below (by simp [puts.stands])

/-- In the way of the other path nothing appears but directories, and nothing is lost. -/
theorem Puts.undisturbed {place : Place} {node : Node} (puts : Puts fs after place node)
    (apart : Apart place (fs.placeOf path)) : Undisturbed fs after path where
  home := puts.home
  stands := puts.elsewhere _ apart.notBelow
  blocked := by
    have onTheWay : ∀ front more, names path = front ++ more →
        front.reverse ++ start path fs.home ≠ place := by
      rintro front more whole rfl
      refine apart.notAbove ⟨more.reverse, ?_⟩
      rw [placeOf, whole, List.reverse_append, List.append_assoc]
    unfold IsBlocked
    rw [puts.home]
    constructor
    · rintro ⟨front, more, there, whole, goesOn, stands, notDirectory⟩
      refine ⟨front, more, there, whole, goesOn, ?_, notDirectory⟩
      rw [← puts.elsewhere, stands]
      intro isAbove
      rw [puts.directory_above isAbove (onTheWay front more whole)] at stands
      exact notDirectory (Option.some.inj stands).symm
    · rintro ⟨front, more, there, whole, goesOn, stands, notDirectory⟩
      exact ⟨front, more, there, whole, goesOn,
        puts.kept _ there (onTheWay front more whole) stands, notDirectory⟩

theorem publish_undisturbed {one other : String} (noLinks : fs.HasNoLinks)
    (ordinary : IsOrdinary one) (apart : Apart (fs.placeOf one) (fs.placeOf other))
    (text : String) : Undisturbed fs (publish fs one text).after other := by
  cases result : (publish fs one text).result with
  | ok outcome => exact (publish_puts noLinks ordinary result).undisturbed apart
  | error error =>
    rw [publish_error_keeps noLinks ordinary result]
    exact ⟨rfl, rfl, Iff.rfl⟩

/-- A publishing comes to the same where what it looks at is the same. -/
theorem publish_of_undisturbed (noLinks : fs.HasNoLinks) (noLinksAfter : after.HasNoLinks)
    (ordinary : IsOrdinary path) (undisturbed : Undisturbed fs after path) (contents : String) :
    (publish after path contents).result = (publish fs path contents).result := by
  have samePlace : after.placeOf path = fs.placeOf path := by
    rw [placeOf, placeOf, undisturbed.home]
  have stands := undisturbed.stands
  rw [← samePlace] at stands
  rcases tree_cases fs path with ⟨node, there⟩ | blocked | free
  · rw [publish_of_node noLinks ordinary there,
      publish_of_node noLinksAfter ordinary (by rw [stands, samePlace, there])]
    cases node <;> rfl
  · rw [publish_of_blocked noLinks ordinary blocked,
      publish_of_blocked noLinksAfter ordinary (undisturbed.blocked.mpr blocked)]
  · have freeAfter : IsFree after path := by
      refine ⟨by rw [stands, samePlace, free.1], fun blocked => ?_⟩
      exact free.2 (undisturbed.blocked.mp blocked)
    rw [(publish_of_free noLinks ordinary free contents).1,
      (publish_of_free noLinksAfter ordinary freeAfter contents).1]

/-! ## Either order -/

/-- Two nodes that are put in places apart make the same tree in either order. -/
theorem Puts.sameTree {middle middle' after' : FileSystem} {place place' : Place}
    {node node' : Node} (apart : Apart place place') (first : Puts fs middle place node)
    (second : Puts middle after place' node') (first' : Puts fs middle' place' node')
    (second' : Puts middle' after' place node) : SameTree after after' where
  home := by rw [second.home, first.home, second'.home, first'.home]
  nodes other := by
    have ne : place ≠ place' := fun same => apart.notAbove (same ▸ List.suffix_rfl)
    by_cases atPlace : other = place
    · subst atPlace
      rw [second'.stands]
      exact second.kept other node ne first.stands
    by_cases atPlace' : other = place'
    · subst atPlace'
      rw [second.stands]
      exact (second'.kept other node' ne.symm first'.stands).symm
    by_cases above : other <:+ place
    · rw [second'.directory_above above atPlace]
      exact second.kept other _ atPlace' (first.directory_above above atPlace)
    by_cases above' : other <:+ place'
    · rw [second.directory_above above' atPlace']
      exact (second'.kept other _ atPlace (first'.directory_above above' atPlace')).symm
    · rw [second.elsewhere other above', first.elsewhere other above,
        second'.elsewhere other above, first'.elsewhere other above']

theorem Apart.symm {place place' : Place} (apart : Apart place place') : Apart place' place :=
  ⟨apart.notBelow, apart.notAbove⟩

/-- Where one of the two publishings fails the other one alone makes the tree. -/
theorem sameTree_of_failed {one other text text' : String} (noLinks : fs.HasNoLinks)
    (ordinary : IsOrdinary one)
    {error : PublishError} (failed : (publish fs one text).result = .error error)
    (failedAfter : (publish (publish fs other text').after one text).result = .error error) :
    (publish (publish fs one text).after other text').after =
      (publish (publish fs other text').after one text).after := by
  rw [publish_error_keeps noLinks ordinary failed,
    publish_error_keeps (publish_hasNoLinks noLinks other text') ordinary failedAfter]

/-- Texts are published to two places apart with the same results and the same tree in either
order. -/
theorem commutes_of_apart {one other : String} (noLinks : fs.HasNoLinks)
    (ordinary : IsOrdinary one) (ordinary' : IsOrdinary other)
    (apart : Apart (fs.placeOf one) (fs.placeOf other)) (text text' : String) :
    Commutes fs one text other text' := by
  have undisturbed := publish_undisturbed noLinks ordinary apart text
  have undisturbed' := publish_undisturbed noLinks ordinary' apart.symm text'
  have result := publish_of_undisturbed noLinks (publish_hasNoLinks noLinks other text') ordinary
    undisturbed' text
  have result' := publish_of_undisturbed noLinks (publish_hasNoLinks noLinks one text) ordinary'
    undisturbed text'
  refine ⟨result, result', ?_⟩
  cases ends : (publish fs one text).result with
  | error error =>
    rw [sameTree_of_failed noLinks ordinary ends (result.trans ends)]
    exact ⟨rfl, fun _ => rfl⟩
  | ok outcome =>
    cases ends' : (publish fs other text').result with
    | error error =>
      rw [sameTree_of_failed noLinks ordinary' ends' (result'.trans ends')]
      exact ⟨rfl, fun _ => rfl⟩
    | ok outcome' =>
      have first := publish_puts noLinks ordinary ends
      have first' := publish_puts noLinks ordinary' ends'
      have second := publish_puts (publish_hasNoLinks noLinks one text) ordinary'
        (result'.trans ends')
      have second' := publish_puts (publish_hasNoLinks noLinks other text') ordinary
        (result.trans ends)
      -- The second one finds at its own place what it would have found before the first.
      rw [placeOf, undisturbed.home, ← placeOf, undisturbed.stands] at second
      rw [placeOf, undisturbed'.home, ← placeOf, undisturbed'.stands] at second'
      exact first.sameTree apart second first' second'

end

theorem apart_of_names {one other : String} (fs : FileSystem) (relative : isAbsolute one = false)
    (relative' : isAbsolute other = false) (notAbove : ¬ names one <+: names other)
    (notBelow : ¬ names other <+: names one) : Apart (fs.placeOf one) (fs.placeOf other) := by
  have below : ∀ a b : String, isAbsolute a = false → isAbsolute b = false →
      fs.placeOf a <:+ fs.placeOf b → names a <+: names b := by
    rintro a b relA relB ⟨more, whole⟩
    simp only [placeOf, start, relA, relB, Bool.false_eq_true, if_false] at whole
    rw [← List.append_assoc] at whole
    have same := List.append_cancel_right whole
    refine ⟨more.reverse, ?_⟩
    rw [← List.reverse_reverse (names b), ← same]
    simp
  exact ⟨fun above => notAbove (below one other relative relative' above),
    fun above => notBelow (below other one relative' relative above)⟩

/-- Without links, texts that are published to two relative paths of names, neither of which is a
beginning of the other, end in the same results and leave the same tree in either order. -/
theorem publish_comm {fs : FileSystem} (noLinks : fs.HasNoLinks) {one other : String}
    (ordinary : IsOrdinary one) (ordinary' : IsOrdinary other) (relative : isAbsolute one = false)
    (relative' : isAbsolute other = false) (notAbove : ¬ names one <+: names other)
    (notBelow : ¬ names other <+: names one) (text text' : String) :
    Commutes fs one text other text' :=
  commutes_of_apart noLinks ordinary ordinary'
    (apart_of_names fs relative relative' notAbove notBelow) text text'

/-- The directory `a` is missing above both paths, and the first of them also needs `a/b`. -/
theorem publish_comm_below_missing : oneFile.HasNoLinks ∧ IsOrdinary "a/b/f" ∧ IsOrdinary "a/g" ∧
    isAbsolute "a/b/f" = false ∧ isAbsolute "a/g" = false ∧
    ¬ names "a/b/f" <+: names "a/g" ∧ ¬ names "a/g" <+: names "a/b/f" ∧
    Commutes oneFile "a/b/f" "x" "a/g" "y" ∧
    (publish oneFile "a/b/f" "x").result = .ok .created ∧
    (publish oneFile "a/g" "y").result = .ok .created := by
  have noLinks : oneFile.HasNoLinks := hasNoLinks_empty.set ["f"] (by simp)
  have ordinary : IsOrdinary "a/b/f" := by constructor <;> decide
  have ordinary' : IsOrdinary "a/g" := by constructor <;> decide
  have relative : isAbsolute "a/b/f" = false := by decide
  have relative' : isAbsolute "a/g" = false := by decide
  have notAbove : ¬ names "a/b/f" <+: names "a/g" := by decide
  have notBelow : ¬ names "a/g" <+: names "a/b/f" := by decide
  exact ⟨noLinks, ordinary, ordinary', relative, relative', notAbove, notBelow,
    publish_comm noLinks ordinary ordinary' relative relative' notAbove notBelow "x" "y",
    by decide +kernel, by decide +kernel⟩

end BuildHeader.Publish
