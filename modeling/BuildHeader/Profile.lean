import BuildHeader.Macro.Request

/-!
# Profiles

The two descriptions that a header is made from: the names of the installation directories, and
a whole build, which includes them. Every value is an opaque text.
-/

namespace BuildHeader.Profile

open BuildHeader.Macro

/-! ## Directory names -/

/-- The installation directories, relative to where the software is installed. -/
structure DirectoryNames where
  binaries : String := "bin"
  libraries : String := "lib"
  headers : String := "include"
deriving DecidableEq, Repr

/-- The macros of the directory names, in their order. -/
def DirectoryNames.requests (names : DirectoryNames) : List Request :=
  [.define "ALUSUS_BIN_DIR_NAME" names.binaries,
    .define "ALUSUS_LIB_DIR_NAME" names.libraries,
    .define "ALUSUS_INCLUDE_DIR_NAME" names.headers]

/-- Adds the directory macros to a set. The macros added before a failure stay. -/
def DirectoryNames.addTo (names : DirectoryNames) (set : DefinitionSet) :
    DefinitionSet × Option DefinitionError :=
  set.submitAll names.requests

/-! ## Builds -/

/-- A build: its release, its toolchain and platform, and its directories. -/
structure BuildInfo where
  version : String
  revision : String
  libraryVersion : String
  releaseDate : String
  hijriReleaseDate : String
  compiler : String
  buildType : String
  systemName : String
  processor : String
  directories : DirectoryNames
deriving DecidableEq, Repr

/-- A debug build is one whose build type is `debug`, in any mixture of ASCII cases. -/
def BuildInfo.isDebug (build : BuildInfo) : Bool :=
  Text.equalIgnoringAsciiCase build.buildType "debug"

/-- The macros of a build, in their order. The flag that enables logs comes last, and only in
debug builds. -/
def BuildInfo.requests (build : BuildInfo) : List Request :=
  [.define "ALUSUS_VERSION" build.version,
    .define "ALUSUS_REVISION" build.revision,
    .define "ALUSUS_SHLIB_VERSION" build.libraryVersion,
    .define "ALUSUS_RELEASE_DATE" build.releaseDate,
    .define "ALUSUS_HIJRI_RELEASE_DATE" build.hijriReleaseDate,
    .define "ALUSUS_CXX_COMPILER_ID" build.compiler,
    .define "ALUSUS_CMAKE_BUILD_TYPE" build.buildType,
    .defineLower "ALUSUS_CMAKE_BUILD_TYPE" build.buildType,
    .define "ALUSUS_CMAKE_SYSTEM_NAME" build.systemName,
    .defineLower "ALUSUS_CMAKE_SYSTEM_NAME" build.systemName,
    .define "ALUSUS_CMAKE_SYSTEM_PROCESSOR" build.processor,
    .defineLower "ALUSUS_CMAKE_SYSTEM_PROCESSOR" build.processor] ++
  build.directories.requests ++
  if build.isDebug then [.flag "ALUSUS_USE_LOGS"] else []

/-! ## Sets -/

/-- The set of a list of requests, all of which must succeed. -/
def definitionsOf (requests : List Request) : Except DefinitionError DefinitionSet :=
  match DefinitionSet.empty.submitAll requests with
  | (set, none) => .ok set
  | (_, some e) => .error e

/-- The definitions of the directory names alone. -/
def DirectoryNames.definitions (names : DirectoryNames) : Except DefinitionError DefinitionSet :=
  definitionsOf names.requests

/-- The definitions of a build. -/
def BuildInfo.definitions (build : BuildInfo) : Except DefinitionError DefinitionSet :=
  definitionsOf build.requests

/-! ## Subjects -/

/-- What a header is about: the directory names alone, or a whole build. -/
inductive Subject
  | directories (names : DirectoryNames)
  | build (info : BuildInfo)
deriving DecidableEq, Repr

/-- The definitions of a subject. -/
def Subject.definitions : Subject → Except DefinitionError DefinitionSet
  | .directories names => names.definitions
  | .build info => info.definitions

end BuildHeader.Profile
