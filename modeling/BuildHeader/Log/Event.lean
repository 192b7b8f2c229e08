import BuildHeader.Publish.Outcome

/-!
# Log events

What the program says about its work: each event has a level, a message, named fields, and the
part of the program that it comes from.
-/

namespace BuildHeader.Log

open BuildHeader.Publish

/-- How much an event matters, the most important first. -/
inductive Level
  | error
  | warn
  | info
  | debug
  | trace
deriving DecidableEq, Repr

/-- The place of a level in the order, from 1. -/
def Level.rank : Level → Nat
  | .error => 1
  | .warn => 2
  | .info => 3
  | .debug => 4
  | .trace => 5

/-- The word for a level in the log. -/
def Level.word : Level → String
  | .error => "ERROR"
  | .warn => "WARN"
  | .info => "INFO"
  | .debug => "DEBUG"
  | .trace => "TRACE"

/-- What is logged.

* `building`: a full header is about to be made, for a debug build or not.
* `generated`: a text is to be published; its digest.
* `unchanged`: the file already holds the text.
* `differs`: the file holds something else; the digest of that.
* `written`: the file is written, with its outcome. -/
inductive Event
  | building (debugBuild : Bool)
  | generated (path digest : String)
  | unchanged (path : String)
  | differs (path oldDigest : String)
  | written (path : String) (outcome : Outcome)
deriving DecidableEq, Repr

namespace Event

/-- The level of an event. -/
def level : Event → Level
  | .building _ | .generated .. | .differs .. => .debug
  | .unchanged _ | .written .. => .info

/-- The message of an event. -/
def message : Event → String
  | .building _ => "building full header"
  | .generated .. => "generated header"
  | .unchanged _ => "header unchanged, skipping write"
  | .differs .. => "header contents differ"
  | .written .. => "header written"

/-- The fields of an event with their names, in order. -/
def fields : Event → List (String × String)
  | .building debugBuild => [("debug_build", toString debugBuild)]
  | .generated path digest => [("path", path), ("digest", digest)]
  | .unchanged path => [("path", path)]
  | .differs path oldDigest => [("path", path), ("old_digest", oldDigest)]
  | .written path outcome => [("path", path), ("outcome", outcome.word)]

/-- The names of what an event carries: its message and its fields. -/
def fieldNames (event : Event) : List String :=
  "message" :: event.fields.map (·.1)

/-- The part of the program that logs an event: the command line or the writer of headers. -/
def source : Event → String
  | .building _ => "alusus_defs_gen"
  | _ => "alusus_defs_gen::writer"

/-- The line of an event in the log. -/
def line (event : Event) : String :=
  " ".intercalate (event.level.word :: event.message ::
    event.fields.map fun (name, value) => name ++ "=" ++ value)

end Event

end BuildHeader.Log
