import BuildHeader.Proofs.DebugBuilds

/-!
# The lines of a profile's header

Each line of a header is made from one value of its profile, and from nothing else. Two profiles of
one kind therefore have the same line in a place just if the values that feed it are the same,
whatever is written in the values of the other lines.

Results:
1. `BuildInfo.definitions_feeds`, `DirectoryNames.definitions_feeds`: which value goes to which line.
2. `tellsApart_of_feeds`: the lines of two profiles of one kind tell their values apart.
3. `headers_tellApart`: so it is for builds and for directory names, and no header of one kind is
   one of the other.
-/

namespace BuildHeader.Profile

open BuildHeader.Macro

/-! ## Definitions -/

/-- The macros that a build gives a value, in the order of their lines, and what each is fed with. -/
def BuildInfo.feeds : List (String × (BuildInfo → String)) :=
  [("ALUSUS_VERSION", fun build => build.version),
    ("ALUSUS_REVISION", fun build => build.revision),
    ("ALUSUS_SHLIB_VERSION", fun build => build.libraryVersion),
    ("ALUSUS_RELEASE_DATE", fun build => build.releaseDate),
    ("ALUSUS_HIJRI_RELEASE_DATE", fun build => build.hijriReleaseDate),
    ("ALUSUS_CXX_COMPILER_ID", fun build => build.compiler),
    ("ALUSUS_CMAKE_BUILD_TYPE", fun build => build.buildType),
    ("ALUSUS_CMAKE_BUILD_TYPE_LOWER", fun build => Text.lowercase build.buildType),
    ("ALUSUS_CMAKE_SYSTEM_NAME", fun build => build.systemName),
    ("ALUSUS_CMAKE_SYSTEM_NAME_LOWER", fun build => Text.lowercase build.systemName),
    ("ALUSUS_CMAKE_SYSTEM_PROCESSOR", fun build => build.processor),
    ("ALUSUS_CMAKE_SYSTEM_PROCESSOR_LOWER", fun build => Text.lowercase build.processor),
    ("ALUSUS_BIN_DIR_NAME", fun build => build.directories.binaries),
    ("ALUSUS_LIB_DIR_NAME", fun build => build.directories.libraries),
    ("ALUSUS_INCLUDE_DIR_NAME", fun build => build.directories.headers)]

/-- The macros of directory names, in the order of their lines, and what each is fed with. -/
def DirectoryNames.feeds : List (String × (DirectoryNames → String)) :=
  [("ALUSUS_BIN_DIR_NAME", fun names => names.binaries),
    ("ALUSUS_LIB_DIR_NAME", fun names => names.libraries),
    ("ALUSUS_INCLUDE_DIR_NAME", fun names => names.headers)]

section
variable {α : Type}

/-- The definitions that a profile feeds. -/
def fed (feeds : List (String × (α → String))) (profile : α) : List Definition :=
  feeds.map fun feed => ⟨feed.1, some (feed.2 profile)⟩

/-- How two headers tell two profiles of one kind apart.

* `own`, `others`: in the place of each feed stands the directive of its value.
* `line`: the two lines in that place are the same just if the feed has the same value in both
  profiles.
* `whole`: the headers are the same text just for the same profile. -/
structure TellsApart (feeds : List (String × (α → String))) (profile other : α)
    (header otherHeader : String) : Prop where
  own : ∀ (k : Nat) name feed, feeds[k]? = some (name, feed) →
    (linesOf header)[k]? = some (Definition.render ⟨name, some (feed profile)⟩)
  others : ∀ (k : Nat) name feed, feeds[k]? = some (name, feed) →
    (linesOf otherHeader)[k]? = some (Definition.render ⟨name, some (feed other)⟩)
  line : ∀ (k : Nat) name feed, feeds[k]? = some (name, feed) →
    ((linesOf header)[k]? = (linesOf otherHeader)[k]? ↔ feed profile = feed other)
  whole : header = otherHeader ↔ profile = other

/-! ## Which value goes to which line -/

theorem BuildInfo.definitions_feeds (build : BuildInfo) :
    build.requests.map Request.definition =
      fed BuildInfo.feeds build ++ if build.isDebug then [useLogs] else [] := by
  cases debug : build.isDebug <;>
    simp [BuildInfo.requests, DirectoryNames.requests, Request.definition, lowerEnding, debug, fed,
      BuildInfo.feeds, useLogs]

theorem DirectoryNames.definitions_feeds (names : DirectoryNames) :
    names.requests.map Request.definition = fed DirectoryNames.feeds names := rfl

/-- The line in the place of a feed. -/
theorem getElem?_linesOf_render {feeds : List (String × (α → String))} {profile : α}
    {set : DefinitionSet} {more : List Definition} (consistent : set.Consistent)
    (definitions : set.definitions = fed feeds profile ++ more) {k : Nat} {name : String}
    {feed : α → String} (place : feeds[k]? = some (name, feed)) :
    isIdentifier name = true ∧
      (linesOf set.render)[k]? = some (Definition.render ⟨name, some (feed profile)⟩) := by
  have fedThere : (fed feeds profile)[k]? = some ⟨name, some (feed profile)⟩ := by
    simp [fed, place]
  have inSet : set.definitions[k]? = some ⟨name, some (feed profile)⟩ := by
    rw [definitions, List.getElem?_append_left (List.getElem?_eq_some_iff.mp fedThere).1, fedThere]
  refine ⟨consistent.identifiers _ (List.mem_of_getElem? inSet), ?_⟩
  rw [linesOf_render consistent, List.getElem?_map, inSet, Option.map_some]

/-- Values are told apart line by line: a name stands before each, and a quoted value determines
the value. -/
theorem tellsApart_of_feeds {feeds : List (String × (α → String))} {profile other : α}
    {set otherSet : DefinitionSet} {more otherMore : List Definition}
    (consistent : set.Consistent) (otherConsistent : otherSet.Consistent)
    (definitions : set.definitions = fed feeds profile ++ more)
    (otherDefinitions : otherSet.definitions = fed feeds other ++ otherMore)
    (whole : set.render = otherSet.render ↔ profile = other) :
    TellsApart feeds profile other set.render otherSet.render where
  own k name feed place := (getElem?_linesOf_render consistent definitions place).2
  others k name feed place := (getElem?_linesOf_render otherConsistent otherDefinitions place).2
  line := by
    intro k name feed place
    obtain ⟨identifier, own⟩ := getElem?_linesOf_render consistent definitions place
    obtain ⟨-, others⟩ := getElem?_linesOf_render otherConsistent otherDefinitions place
    rw [own, others, Option.some.injEq, Definition.render_inj identifier identifier]
    simp
  whole := whole

end

/-! ## Whole headers -/

/-- Two subjects have the same header just if they are the same subject. -/
theorem Subject.render_eq_iff {s t : Subject} {set other : DefinitionSet}
    (first : s.definitions = .ok set) (second : t.definitions = .ok other) :
    set.render = other.render ↔ s = t := by
  rw [← Subject.header_eq_iff first second, String.toUTF8_eq_toByteArray,
    String.toUTF8_eq_toByteArray, String.toByteArray_inj]

theorem BuildInfo.length_linesOf_render {build : BuildInfo} {set : DefinitionSet}
    (consistent : set.Consistent)
    (definitions : set.definitions = build.requests.map Request.definition) :
    (linesOf set.render).length = if build.isDebug then 16 else 15 := by
  rw [linesOf_render consistent, List.length_map, definitions, build.definitions_feeds]
  cases build.isDebug <;> rfl

/-- Headers tell their profiles apart, line by line and as a whole. A build has fifteen lines, and
a sixteenth just if it is a debug build; directory names have three, and never the header of a
build. -/
theorem headers_tellApart (build otherBuild : BuildInfo) (names otherNames : DirectoryNames) :
    ∃ b b' n n', build.definitions = .ok b ∧ otherBuild.definitions = .ok b' ∧
      names.definitions = .ok n ∧ otherNames.definitions = .ok n' ∧
      TellsApart BuildInfo.feeds build otherBuild b.render b'.render ∧
      (linesOf b.render).length = (if build.isDebug then 16 else 15) ∧
      TellsApart DirectoryNames.feeds names otherNames n.render n'.render ∧
      (linesOf n.render).length = 3 ∧
      n.render ≠ b.render := by
  obtain ⟨b, defined, consistent, requested⟩ := (Subject.build build).exists_definitions
  obtain ⟨b', defined', consistent', requested'⟩ := (Subject.build otherBuild).exists_definitions
  obtain ⟨n, named, ordered, asked⟩ := (Subject.directories names).exists_definitions
  obtain ⟨n', named', ordered', asked'⟩ := (Subject.directories otherNames).exists_definitions
  have builds : b.render = b'.render ↔ build = otherBuild := by
    rw [Subject.render_eq_iff defined defined', Subject.build.injEq]
  have directories : n.render = n'.render ↔ names = otherNames := by
    rw [Subject.render_eq_iff named named', Subject.directories.injEq]
  refine ⟨b, b', n, n', defined, defined', named, named', ?_, ?_, ?_, ?_, ?_⟩
  · exact tellsApart_of_feeds consistent consistent' (requested.trans build.definitions_feeds)
      (requested'.trans otherBuild.definitions_feeds) builds
  · exact BuildInfo.length_linesOf_render consistent requested
  · have own := asked.trans names.definitions_feeds
    have others := asked'.trans otherNames.definitions_feeds
    rw [← List.append_nil (fed _ _)] at own others
    exact tellsApart_of_feeds ordered ordered' own others directories
  · rw [linesOf_render ordered, List.length_map, asked]
    rfl
  · intro same
    cases (Subject.render_eq_iff named defined).mp same

end BuildHeader.Profile
