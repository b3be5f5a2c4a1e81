import Fusebox.Crash
import Fusebox.Journal.Directive

/-! Which events are written to the log. A filter is a list of directives; the most
specific one that is about an event decides, and what no directive is about stays
hidden. -/
namespace Fusebox

/-- A list of directives. -/
structure LogFilter where
  directives : List Directive

namespace LogFilter

/-- The parts of a filter between its commas, empty ones left out. -/
def parts (text : String) : List (List Char) :=
  ((text.splitOn ",").filter fun part => !part.isEmpty).map String.toList

/-- A filter without directives shows errors only. -/
def ofDirectives (directives : List Directive) : LogFilter :=
  ⟨if directives.isEmpty then [{ verbosity := .upTo .error }] else directives⟩

/-- Those directives among the parts of a filter that are not malformed. -/
def valid : List (List Char) → Except Crash (List Directive)
  | [] => .ok []
  | part :: rest =>
    match Directive.parse part with
    | .ok directive => (valid rest).map (directive :: ·)
    | .error .malformed => valid rest
    | .error .torn => .error .tornText

/-- The filter for a configured level of the service (`default_filter`). It is written as a
directive, and commas in it begin more of them. -/
def ofLevel (level : String) : Except Crash LogFilter :=
  (valid (parts ("weather_breaker=" ++ level))).map ofDirectives

/-- The filter to use (`logging::init`): the requested one if there is one and nothing in it
is malformed, otherwise the one for the configured level. -/
def choose (requested : Option String) (level : String) : Except Crash LogFilter :=
  match requested with
  | none => ofLevel level
  | some text =>
    match (parts text).mapM Directive.parse with
    | .ok directives => .ok (ofDirectives directives)
    | .error .malformed => ofLevel level
    | .error .torn => .error .tornText

/-- The directive that decides about an event. -/
def decisive? (filter : LogFilter) (event : Event) : Option Directive :=
  (filter.directives.filter (·.concerns event)).foldl
    (fun best directive =>
      match best with
      | none => some directive
      | some known => if known.yields directive then some directive else some known)
    none

/-- Whether an event is written. -/
def shows (filter : LogFilter) (event : Event) : Bool :=
  match filter.decisive? event with
  | none => false
  | some directive => directive.verbosity.shows event.level

/-- A line without a carriage return at its end. -/
def withoutReturn (line : String) : String :=
  if line.endsWith "\r" then (line.dropEnd 1).toString else line

/-- The lines that are written for a sequence of events. A line break inside an event
is a line break like any other, with or without a carriage return. -/
def lines (filter : LogFilter) (events : List Event) : List String :=
  (events.filter filter.shows).flatMap fun event =>
    (event.line.splitOn "\n").map withoutReturn

end LogFilter
end Fusebox
