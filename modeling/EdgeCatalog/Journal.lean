import EdgeCatalog.Instant.Text
import EdgeCatalog.Json.Writer
import EdgeCatalog.LogFilter

/-! The log as it is written: the lines that a filter admits, each after the time, as text or as an
object. -/
namespace EdgeCatalog

structure Journal where
  filter : LogFilter := {}
  /-- Lines are JSON objects. -/
  asJson : Bool := false

namespace Journal

/-- What the log shows of events. -/
def lines (j : Journal) (events : List Event) : List LogLine :=
  (events.map Event.line).filter j.filter.admits

/-- A line with the time in front; the level takes five places. -/
def stampedText (now : Instant) (l : LogLine) : String :=
  now.text ++ String.ofList (List.replicate (6 - l.level.name.length) ' ') ++ l.text

/-- A line as an object with the time in it. -/
def stampedJson (now : Instant) (l : LogLine) : Json :=
  match l.toJson with
  | .object fields => .object (("timestamp", .string now.text) :: fields)
  | other => other

/-- What is written when events happen. -/
def write (j : Journal) (now : Instant) (events : List Event) : List String :=
  (j.lines events).map fun l =>
    if j.asJson then (stampedJson now l).write else stampedText now l

end Journal

end EdgeCatalog
