import Mathlib.Data.List.TFAE
import Mathlib.Tactic.TFAE
import BuildHeader.Proofs.Lowercasing
import BuildHeader.Proofs.SetSessions
import BuildHeader.Proofs.SubjectHeaders

/-!
# Debug builds

Whether a build is for debugging is asked in two ways: the flag that enables logs ignores the case
of ASCII letters, and the lowercase copy of the build type ignores case in all of Unicode. The two
agree on the word `debug`, and the header tells the answer.

Results:
1. `BuildInfo.mem_lowercaseType_iff`: what the lowercase copy of the build type says.
2. `BuildInfo.isDebug_of_useLogs`, `BuildInfo.getLast?_useLogs`: where the flag stands.
3. `BuildInfo.isDebug_tfae`: five ways to tell a debug build.
-/

namespace BuildHeader.Profile

open BuildHeader.Macro

/-! ## The build type in small letters -/

theorem BuildInfo.isDebug_iff (build : BuildInfo) :
    build.isDebug = true ↔ Text.lowercase build.buildType = "debug" := by
  have plain : Text.IsPlainWord "debug".toList := by
    simp [Text.IsPlainWord, Text.IsAscii]
  exact (Text.lowercase_eq_iff plain (by decide) build.buildType).symm

theorem BuildInfo.mem_lowercaseType_iff (build : BuildInfo) (value : String) :
    ⟨"ALUSUS_CMAKE_BUILD_TYPE_LOWER", some value⟩ ∈ build.requests.map Request.definition ↔
      Text.lowercase build.buildType = value := by
  cases debug : build.isDebug <;>
    simp [BuildInfo.requests, DirectoryNames.requests, Request.definition, lowerEnding, debug,
      eq_comm]

/-! ## The flag -/

/-- The definition that enables logs. -/
def useLogs : Definition := ⟨"ALUSUS_USE_LOGS", none⟩

theorem BuildInfo.isDebug_of_useLogs {build : BuildInfo} {d : Definition}
    (member : d ∈ build.requests.map Request.definition) (named : d.name = useLogs.name) :
    build.isDebug = true := by
  have isName : useLogs.name ∈ (Subject.build build).names := by
    obtain ⟨r, requested, rfl⟩ := List.mem_map.mp member
    rw [← Subject.names_eq, ← named]
    exact List.mem_map.mpr ⟨r, requested, rfl⟩
  cases debug : build.isDebug with
  | true => rfl
  | false =>
    simp only [Subject.names, debug] at isName
    exact absurd isName (by decide)

theorem BuildInfo.getLast?_useLogs {build : BuildInfo} (debug : build.isDebug = true) :
    (build.requests.map Request.definition).getLast? = some useLogs := by
  rw [BuildInfo.requests, debug, if_pos rfl, List.map_append, List.getLast?_append]
  rfl

/-! ## Headers -/

/-- Five ways to tell a debug build: the build type itself, its lowercase copy, the flag in the set,
the last line of the header, and any of its lines. -/
theorem BuildInfo.isDebug_tfae (build : BuildInfo) :
    ∃ set, build.definitions = .ok set ∧ List.TFAE
      [build.isDebug = true,
        set.get? "ALUSUS_CMAKE_BUILD_TYPE_LOWER" =
          some ⟨"ALUSUS_CMAKE_BUILD_TYPE_LOWER", some "debug"⟩,
        ∃ d, set.get? "ALUSUS_USE_LOGS" = some d,
        (linesOf set.render).getLast? = some "#define ALUSUS_USE_LOGS",
        "#define ALUSUS_USE_LOGS" ∈ linesOf set.render] := by
  obtain ⟨set, defined, consistent, requested⟩ := (Subject.build build).exists_definitions
  refine ⟨set, defined, ?_⟩
  have definitions : set.definitions = build.requests.map Request.definition := requested
  have line : useLogs.render = "#define ALUSUS_USE_LOGS" := by decide +kernel
  rw [linesOf_render consistent, ← line, definitions]
  tfae_have 1 ↔ 2 := by
    rw [consistent.get?_eq_some_iff, definitions, build.mem_lowercaseType_iff, build.isDebug_iff]
    simp
  tfae_have 1 → 4 := by
    intro debug
    rw [List.getLast?_map, build.getLast?_useLogs debug, Option.map_some]
  tfae_have 4 → 5 := List.mem_of_getLast?
  tfae_have 5 → 3 := by
    intro member
    obtain ⟨d, inSet, same⟩ := List.mem_map.mp member
    have identifier : isIdentifier d.name = true :=
      consistent.identifiers d (definitions ▸ inSet)
    obtain rfl := (Definition.render_inj identifier (by decide)).mp same
    exact ⟨useLogs, consistent.get?_eq_some_iff.mpr ⟨definitions ▸ inSet, rfl⟩⟩
  tfae_have 3 → 1 := by
    rintro ⟨d, found⟩
    obtain ⟨member, named⟩ := consistent.get?_eq_some_iff.mp found
    exact BuildInfo.isDebug_of_useLogs (definitions ▸ member) named
  tfae_finish

end BuildHeader.Profile
