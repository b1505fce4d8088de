import LocaleSite.Text.Alphanumeric
import LocaleSite.Text.Blank

/-!
# Logging

Steps of a run are logged as events with a level, the part of the program they come from, a
message and values. A filter says for each part up to which level events are written; a filter's
text is a list of directives, each a level for all parts or a level for the parts whose names begin
with some text.
-/

namespace LocaleSite

/-- How important an event is. -/
inductive LogLevel where
  | error
  | warn
  | info
  | debug
  | trace
deriving DecidableEq, Repr

namespace LogLevel

/-- The name of a level in a log line. -/
def name : LogLevel → String
  | .error => "ERROR"
  | .warn => "WARN"
  | .info => "INFO"
  | .debug => "DEBUG"
  | .trace => "TRACE"

/-- The levels from the most important down, from one on. -/
def rank : LogLevel → Nat
  | .error => 1
  | .warn => 2
  | .info => 3
  | .debug => 4
  | .trace => 5

end LogLevel

/-- An event. -/
structure LogEvent where
  level : LogLevel
  /-- The part of the program the event comes from. -/
  target : String
  message : String
  values : List (String × String)
deriving DecidableEq, Repr

/-- The line of an event, without the time. -/
def LogEvent.line (event : LogEvent) : String :=
  event.level.name ++ " " ++ event.target ++ ": " ++ event.message ++
    String.join (event.values.map fun value => " " ++ value.1 ++ "=" ++ value.2)

/-- Up to which rank the events of some parts are written. -/
structure LogDirective where
  /-- What the names of the parts begin with. -/
  target : String
  rank : Nat
deriving DecidableEq, Repr

/-- Which events are written. -/
structure LogFilter where
  directives : List LogDirective
  /-- What is wrong with parts of the filter's text. -/
  complaints : List String
deriving Repr

namespace LogFilter

/-- The filter that lets events up to a level pass. -/
def upTo (level : LogLevel) : LogFilter := ⟨[⟨"", level.rank⟩], []⟩

/-- The rank that a name or a digit stands for; no level at all has rank zero. -/
def rank? (text : String) : Option Nat :=
  let name := text.toLower
  if name = "" || name = "error" || name = "1" then some 1
  else if name = "off" || name = "0" then some 0
  else if name = "warn" || name = "2" then some 2
  else if name = "info" || name = "3" then some 3
  else if name = "debug" || name = "4" then some 4
  else if name = "trace" || name = "5" then some 5
  else none

/-- What is said about a directive that is none. -/
def complaint (text reason : String) : String := "ignoring `" ++ text ++ "`: " ++ reason

/-- What is said about a level that is none. -/
def levelReason : String :=
  "error parsing level filter: expected one of \"off\", \"error\", \"warn\", \"info\", " ++
    "\"debug\", \"trace\", or a number 0-5"

def isStartChar (c : Char) : Bool :=
  Text.isAlphanumeric c || c == '-' || c == ':' || c == '_'

/-- Characters without the blanks at either end. -/
def trimmed (chars : List Char) : List Char :=
  ((chars.dropWhile Text.isBlank).reverse.dropWhile Text.isBlank).reverse

/-- A directive, or what is wrong with it. A part without a level has all its events written. -/
def directive (text : String) : Except String LogDirective :=
  let chars := trimmed text.toList
  if !chars.head?.any isStartChar then
    .error (complaint text "invalid filter directive")
  else
    match chars.span (· != '=') with
    | (name, []) =>
        match rank? (String.ofList name) with
        | some rank => .ok ⟨"", rank⟩
        | none => .ok ⟨String.ofList name, 5⟩
    | (name, _ :: level) =>
        if level.isEmpty then .ok ⟨String.ofList name, 5⟩
        else
          match rank? (String.ofList level) with
          | some rank => .ok ⟨String.ofList name, rank⟩
          | none => .error (complaint text levelReason)

/-- The filter that a text writes; without a directive only errors are written. -/
def ofText (text : String) : LogFilter :=
  let results := ((text.splitOn ",").filter fun part => !part.isEmpty).map directive
  let directives := results.filterMap fun result =>
    match result with
    | .ok directive => some directive
    | .error _ => none
  let complaints := results.filterMap fun result =>
    match result with
    | .ok _ => none
    | .error complaint => some complaint
  if directives.isEmpty then { upTo .error with complaints } else ⟨directives, complaints⟩

/-- Of two directives the one that counts: that for longer names, else the later. -/
def nearer (earlier : Option LogDirective) (later : LogDirective) : Option LogDirective :=
  match earlier with
  | none => some later
  | some earlier =>
      some (if later.target.utf8ByteSize < earlier.target.utf8ByteSize then earlier else later)

/-- Whether an event is written: the directive with the longest name that fits decides. -/
def admits (filter : LogFilter) (event : LogEvent) : Bool :=
  let fitting := filter.directives.filter fun directive =>
    directive.target.toList.isPrefixOf event.target.toList
  match fitting.foldl nearer none with
  | some directive => event.level.rank ≤ directive.rank
  | none => false

end LogFilter

end LocaleSite
