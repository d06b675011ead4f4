import SessionKeeper.Config.Settings
import SessionKeeper.Text.Digits

/-!
Log entries, and which of them are shown. A filter is a list of directives: each names a severity,
or a part of the program together with the severity for it. The directive for the longest name that
an entry's part starts with decides; an entry for which there is none is not shown.
-/

namespace SessionKeeper

/-- How much an entry matters. -/
inductive Severity where
  /-- Something has failed. -/
  | error
  /-- Something deserves attention. -/
  | warn
  /-- Something has happened. -/
  | info
  /-- Something of interest to developers. -/
  | debug
  /-- Anything else. -/
  | trace
deriving DecidableEq, Repr

namespace Severity

/-- The label of a severity. -/
def label : Severity → String
  | .error => "ERROR"
  | .warn => "WARN"
  | .info => "INFO"
  | .debug => "DEBUG"
  | .trace => "TRACE"

/-- How many severities are shown if this is the least one that is. -/
def rank : Severity → Nat
  | .error => 1
  | .warn => 2
  | .info => 3
  | .debug => 4
  | .trace => 5

end Severity

/-- An entry of the log. -/
structure LogEntry where
  /-- How much it matters. -/
  severity : Severity
  /-- The part of the program that it comes from. -/
  source : String
  /-- What it says. -/
  message : String
  /-- What goes with it. -/
  fields : List (String × Json) := []

namespace LogEntry

/-- What an entry says, with what goes with it. -/
def content (e : LogEntry) : Json := .obj (("message", .str e.message) :: e.fields)

/-- An entry as JSON. -/
def toJson (e : LogEntry) : Json :=
  .obj [("level", .str e.severity.label), ("fields", e.content), ("target", .str e.source)]

end LogEntry

/-- A directive of a filter. -/
structure LogDirective where
  /-- What the names of the parts start with for which it is meant; all of them if it is empty. -/
  source : String
  /-- How many severities are shown, from errors on. -/
  rank : Nat
deriving DecidableEq, Repr

namespace LogDirective

/-- The number of severities that a word stands for. Nothing stands for errors alone. -/
def rankOf? (word : String) : Option Nat :=
  match Text.readUnsigned? word.toList with
  | some n => if n ≤ 5 then some n else none
  | none =>
    [("", 1), ("error", 1), ("warn", 2), ("info", 3), ("debug", 4), ("trace", 5), ("off", 0)].lookup
      (Text.lowerAscii word)

/-- A character with which a directive can start. -/
def canStart (c : Char) : Bool :=
  c == '-' || c == ':' || c == '_' || c.isAlphanum || 0x80 ≤ c.toNat

/-- Read a directive: a severity, the name of a part, for which everything is shown, or both. -/
def read? (text : String) : Option LogDirective :=
  let text := Text.trim text
  if !(text.toList.head?).any canStart || text.contains '[' then none
  else
    match text.splitOn "=" with
    | [word] =>
      match rankOf? word with
      | some rank => some ⟨"", rank⟩
      | none => some ⟨word, 5⟩
    | source :: rest =>
      if rest = [""] then some ⟨source, 5⟩
      else (rankOf? ("=".intercalate rest)).map fun rank => ⟨source, rank⟩
    | [] => none

/-- Whether a directive is meant for a part of the program. -/
def concerns (d : LogDirective) (source : String) : Bool :=
  d.source.toList.isPrefixOf source.toList

/-- The better of two directives for one part: the one for the longer name, and the later one of
two for the same name. -/
def better (a b : LogDirective) : LogDirective :=
  if b.source.utf8ByteSize < a.source.utf8ByteSize then a else b

/-- The directive that decides about a part. -/
def deciding? (directives : List LogDirective) (source : String) : Option LogDirective :=
  (directives.filter fun d => d.concerns source).foldl
    (fun best d => some (match best with
      | some b => better b d
      | none => d)) none

end LogDirective

namespace LogSettings

/-- The directives of the settings. Where there is none that can be read, errors are shown. -/
def directives (s : LogSettings) : List LogDirective :=
  match ((s.level.splitOn ",").filter fun part => !part.isEmpty).filterMap LogDirective.read? with
  | [] => [⟨"", 1⟩]
  | ds => ds

/-- Whether an entry is shown. -/
def shows (s : LogSettings) (e : LogEntry) : Bool :=
  (LogDirective.deciding? s.directives e.source).any fun d => e.severity.rank ≤ d.rank

end LogSettings

end SessionKeeper
