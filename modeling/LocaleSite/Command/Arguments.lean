import LocaleSite.Date.Reader
import LocaleSite.Definition

/-!
# Command lines

There are two commands, `compose` and `check`, with the same options, to which `compose` adds one.
An option is given at most once. The value of an option follows it, in the same word after `=`, or
right after the letter of a short option, or as the next word, which must not begin with `-`.
-/

namespace LocaleSite

/-- What options say about the site. -/
structure SiteOptions where
  /-- The file of the site definition. -/
  config : Option String
  /-- The date shown in navigation bars. -/
  date : Option Date
  overrides : Overrides
  /-- Whether the steps are logged. -/
  verbose : Bool

/-- What a command line asks for. -/
inductive Command where
  | compose (options : SiteOptions) (compact : Bool)
  | check (options : SiteOptions)
  | version

namespace Command

/-- A command line that cannot be understood. -/
inductive UsageError where
  | refused
deriving DecidableEq, Repr

/-- The options of the commands. -/
inductive OptionName where
  | config
  | date
  | base
  | title
  | verbose
  | compact
deriving DecidableEq, Repr

namespace OptionName

def takesValue : OptionName → Bool
  | .config | .date | .base | .title => true
  | .verbose | .compact => false

/-- The option with a long name; `compact` is an option of one command. -/
def ofLong (withCompact : Bool) (name : String) : Option OptionName :=
  if name = "config" then some .config
  else if name = "date" then some .date
  else if name = "base" then some .base
  else if name = "title" then some .title
  else if name = "verbose" then some .verbose
  else if name = "compact" && withCompact then some .compact
  else none

def ofLetter (letter : Char) : Option OptionName :=
  if letter = 'c' then some .config else if letter = 'v' then some .verbose else none

end OptionName

/-- Options as they were given, each with its value. -/
abbrev Given := List (OptionName × String)

/-- Add an option that was not given before. -/
def give (given : Given) (name : OptionName) (value : String) : Except UsageError Given :=
  if (given.lookup name).isSome then .error .refused else .ok (given ++ [(name, value)])

/-- An option that needs a value of its own, or the options given. -/
inductive WordResult where
  | done (given : Given)
  | awaits (given : Given) (name : OptionName)

def readLetters (given : Given) : List Char → Except UsageError WordResult
  | [] => .ok (.done given)
  | letter :: rest =>
      match OptionName.ofLetter letter with
      | none => .error .refused
      | some name =>
          if name.takesValue then
            match rest with
            | [] => .ok (.awaits given name)
            | '=' :: value => (give given name (String.ofList value)).map .done
            | value => (give given name (String.ofList value)).map .done
          else do
            let given ← give given name ""
            readLetters given rest

/-- A word that begins with two hyphens, without them. -/
def readLong (withCompact : Bool) (given : Given) (chars : List Char) :
    Except UsageError WordResult :=
  let (name, value) := chars.span (· != '=')
  match OptionName.ofLong withCompact (String.ofList name), value with
  | none, _ => .error .refused
  | some name, [] =>
      if name.takesValue then .ok (.awaits given name) else (give given name "").map .done
  | some name, _ :: value =>
      if name.takesValue then (give given name (String.ofList value)).map .done
      else .error .refused

def readWord (withCompact : Bool) (given : Given) (word : String) : Except UsageError WordResult :=
  match word.toList with
  | '-' :: '-' :: [] => .error .refused
  | '-' :: '-' :: rest => readLong withCompact given rest
  | '-' :: letter :: rest => readLetters given (letter :: rest)
  | _ => .error .refused

/-- Whether a word can be the value of the option before it. -/
def isValueWord (word : String) : Bool :=
  match word.toList with
  | '-' :: _ :: _ => false
  | _ => true

/-- The words after the name of a command. Two hyphens may end them; nothing follows. -/
def readWords (withCompact : Bool) (given : Given) : List String → Except UsageError Given
  | [] => .ok given
  | ["--"] => .ok given
  | word :: rest =>
      match readWord withCompact given word, rest with
      | .error error, _ => .error error
      | .ok (.done given), rest => readWords withCompact given rest
      | .ok (.awaits _ _), [] => .error .refused
      | .ok (.awaits given name), value :: rest =>
          if isValueWord value then
            match give given name value with
            | .ok given => readWords withCompact given rest
            | .error error => .error error
          else .error .refused

/-- The date of an option or, without one, of a variable; a variable has to be text. -/
def readDate (given : Option String) (otherwise : Option ByteArray) :
    Except UsageError (Option Date) :=
  let text : Except UsageError (Option String) :=
    match given, otherwise with
    | some text, _ => .ok (some text)
    | none, none => .ok none
    | none, some bytes =>
        match String.fromUTF8? bytes with
        | some text => .ok (some text)
        | none => .error .refused
  match text with
  | .error error => .error error
  | .ok none => .ok none
  | .ok (some text) =>
      match Date.ofText text with
      | .ok date => .ok (some date)
      | .error _ => .error .refused

/-- The name of the variable that gives a date. -/
def dateVariable : String := "DOCMUX_DATE"

/-- What given options say about the site. The path of a file is not empty. -/
def siteOptions (environment? : String → Option ByteArray) (given : Given) :
    Except UsageError SiteOptions := do
  let date ← readDate (given.lookup .date) (environment? dateVariable)
  if given.lookup .config == some "" then throw .refused
  return {
    config := given.lookup .config
    date := date
    overrides := ⟨given.lookup .base, given.lookup .title⟩
    verbose := (given.lookup .verbose).isSome }

/-- The command of a command line, the variables giving what options do not. -/
def ofArguments (environment? : String → Option ByteArray) : List String → Except UsageError Command
  | [] => .error .refused
  | word :: rest =>
      if word = "compose" then do
        let given ← readWords true [] rest
        let options ← siteOptions environment? given
        return .compose options (given.lookup .compact).isSome
      else if word = "check" then do
        let given ← readWords false [] rest
        let options ← siteOptions environment? given
        return .check options
      else if word = "--version" then .ok .version
      else
        match word.toList with
        | '-' :: 'V' :: _ => .ok .version
        | _ => .error .refused

end Command

end LocaleSite
