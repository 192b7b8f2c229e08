import BuildHeader.Proofs.HeaderReading

/-!
# The headers of subjects

Every subject has a header, since the names of its macros are distinct identifiers, and no two
subjects have the same one: the names tell a build from directory names alone, and each value
stands in a macro of its own.

Results:
1. `Subject.exists_definitions`: the requests of a subject all succeed.
2. `Subject.requests_injective`: the definitions asked for tell subjects apart.
3. `Subject.header_eq_iff`: so do the bytes of the headers.
-/

namespace BuildHeader.Profile

open BuildHeader.Macro

/-! ## Requests -/

/-- The requests of a subject, in their order. -/
def Subject.requests : Subject → List Request
  | .directories names => names.requests
  | .build info => info.requests

theorem Subject.definitions_eq (s : Subject) : s.definitions = definitionsOf s.requests := by
  cases s <;> rfl

/-- The names of a subject's macros, which depend on no value but whether a build is for
debugging. -/
def Subject.names : Subject → List String
  | .directories _ =>
    ["ALUSUS_BIN_DIR_NAME", "ALUSUS_LIB_DIR_NAME", "ALUSUS_INCLUDE_DIR_NAME"]
  | .build info =>
    ["ALUSUS_VERSION", "ALUSUS_REVISION", "ALUSUS_SHLIB_VERSION", "ALUSUS_RELEASE_DATE",
      "ALUSUS_HIJRI_RELEASE_DATE", "ALUSUS_CXX_COMPILER_ID", "ALUSUS_CMAKE_BUILD_TYPE",
      "ALUSUS_CMAKE_BUILD_TYPE_LOWER", "ALUSUS_CMAKE_SYSTEM_NAME",
      "ALUSUS_CMAKE_SYSTEM_NAME_LOWER", "ALUSUS_CMAKE_SYSTEM_PROCESSOR",
      "ALUSUS_CMAKE_SYSTEM_PROCESSOR_LOWER", "ALUSUS_BIN_DIR_NAME", "ALUSUS_LIB_DIR_NAME",
      "ALUSUS_INCLUDE_DIR_NAME"] ++ if info.isDebug then ["ALUSUS_USE_LOGS"] else []

theorem Subject.names_eq (s : Subject) : s.requests.map (·.definition.name) = s.names := by
  cases s with
  | directories names => rfl
  | build info =>
    cases debug : info.isDebug <;>
      simp [Subject.requests, Subject.names, BuildInfo.requests, DirectoryNames.requests,
        Request.definition, lowerEnding, debug]

theorem Subject.names_identifiers (s : Subject) : ∀ name ∈ s.names, isIdentifier name = true := by
  cases s with
  | directories names => simp only [Subject.names]; decide
  | build info => cases debug : info.isDebug <;> simp only [Subject.names, debug] <;> decide

theorem Subject.names_nodup (s : Subject) : s.names.Nodup := by
  cases s with
  | directories names => simp only [Subject.names]; decide
  | build info => cases debug : info.isDebug <;> simp only [Subject.names, debug] <;> decide

/-! ## Definitions -/

/-- The requests of a subject all succeed, so that it always has a header. -/
theorem Subject.exists_definitions (s : Subject) :
    ∃ set, s.definitions = .ok set ∧ set.Consistent ∧
      set.definitions = s.requests.map Request.definition := by
  have identifiers : ∀ r ∈ s.requests, isIdentifier r.definition.name = true := by
    intro r member
    refine s.names_identifiers _ ?_
    rw [← s.names_eq]
    exact List.mem_map_of_mem member
  have distinct : (DefinitionSet.empty.definitions.map (·.name) ++
      s.requests.map (·.definition.name)).Nodup := by
    rw [s.names_eq]
    exact s.names_nodup
  obtain ⟨noError, inserted⟩ :=
    DefinitionSet.submitAll_eq DefinitionSet.consistent_empty identifiers distinct
  refine ⟨(DefinitionSet.empty.submitAll s.requests).1, ?_,
    DefinitionSet.consistent_submitAll DefinitionSet.consistent_empty, inserted⟩
  rw [s.definitions_eq, definitionsOf]
  split
  · next set submitted => rw [submitted]
  · next failed =>
    rw [failed] at noError
    cases noError

attribute [ext] DirectoryNames BuildInfo

/-- Every value of a subject stands in a definition of its own, and the first names differ. -/
theorem Subject.requests_injective {s t : Subject}
    (same : s.requests.map Request.definition = t.requests.map Request.definition) : s = t := by
  cases s with
  | directories names =>
    cases t with
    | directories others =>
      simp only [Subject.requests, DirectoryNames.requests, List.map_cons, Request.definition,
        List.cons.injEq, Definition.mk.injEq, true_and, Option.some.injEq] at same
      obtain ⟨binaries, libraries, headers, -⟩ := same
      rw [DirectoryNames.ext binaries libraries headers]
    | build info =>
      simp [Subject.requests, DirectoryNames.requests, BuildInfo.requests,
        Request.definition] at same
  | build info =>
    cases t with
    | directories names =>
      simp [Subject.requests, DirectoryNames.requests, BuildInfo.requests,
        Request.definition] at same
    | build other =>
      simp only [Subject.requests, BuildInfo.requests, DirectoryNames.requests, List.cons_append,
        List.nil_append, List.map_cons, Request.definition, List.cons.injEq, Definition.mk.injEq,
        true_and, Option.some.injEq] at same
      -- The lowercase copies and the flag say nothing new.
      obtain ⟨version, revision, libraryVersion, releaseDate, hijriReleaseDate, compiler,
        buildType, -, systemName, -, processor, -, binaries, libraries, headers, -⟩ := same
      rw [BuildInfo.ext version revision libraryVersion releaseDate hijriReleaseDate compiler
        buildType systemName processor (DirectoryNames.ext binaries libraries headers)]

/-! ## Headers -/

/-- No two subjects have headers of the same bytes. -/
theorem Subject.header_eq_iff {s t : Subject} {set other : DefinitionSet}
    (first : s.definitions = .ok set) (second : t.definitions = .ok other) :
    set.render.toUTF8 = other.render.toUTF8 ↔ s = t := by
  obtain ⟨set', defined, consistent, requested⟩ := s.exists_definitions
  obtain ⟨other', defined', consistent', requested'⟩ := t.exists_definitions
  rw [first] at defined
  cases defined
  rw [second] at defined'
  cases defined'
  constructor
  · intro same
    rw [String.toUTF8_eq_toByteArray, String.toUTF8_eq_toByteArray, String.toByteArray_inj,
      render_injective consistent consistent', requested, requested'] at same
    exact Subject.requests_injective same
  · rintro rfl
    rw [first] at second
    cases second
    rfl

end BuildHeader.Profile
