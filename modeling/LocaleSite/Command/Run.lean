import LocaleSite.Command.Arguments
import LocaleSite.Command.Log
import LocaleSite.Site.Host
import LocaleSite.Site.Summary
import LocaleSite.Value.Json

/-!
# Running a command

`Command.outcome` says what a command line does in a world: the exit status, what is written to
either stream, and the lines of the log. A command that fails writes nothing to standard output.
Which texts are patterns is left to `isPattern`.
-/

namespace LocaleSite

/-- Why a command fails. -/
inductive CommandError where
  | config (error : ConfigError)
  | compose (error : ComposeError)

def CommandError.message : CommandError → String
  | .config error => error.message
  | .compose error => error.message

namespace SiteOptions

def load (world : World) (options : SiteOptions) : Except CommandError SiteDefinition :=
  (SiteDefinition.load world options.config options.overrides).mapError .config

/-- The site, dated today unless the options give a date. -/
def compose (isPattern : String → Bool) (world : World) (today : Date) (options : SiteOptions) :
    Except CommandError Site := do
  let definition ← options.load world
  (Site.composeLabels isPattern definition.site definition.locales
    (options.date.getD today)).mapError .compose

/-- The event that tells where the definition comes from. -/
def sourceEvents (world : World) (options : SiteOptions) : List LogEvent :=
  match SiteDefinition.source? world options.config with
  | .ok (some (path, _)) =>
      [⟨.debug, "docmux_config", "Loading site definition", [("path", path)]⟩]
  | .ok none =>
      [⟨.debug, "docmux_config",
        s!"No {SiteDefinition.fileName} found, using built-in site definition", []⟩]
  | .error _ => []

/-- The event of a definition that has been loaded from a file. -/
def loadedEvents (definition : SiteDefinition) : List LogEvent :=
  match definition.configPath with
  | some path => [⟨.info, "docmux::commands", "Using site definition", [("path", path)]⟩]
  | none => []

/-- The event of a locale that has been built. -/
def builtEvent (block : LocaleBlock) : LogEvent :=
  ⟨.debug, "docmux_site::locale", "Built locale",
    [("locale", block.id), ("nav_items", toString block.nav.size),
      ("sidebar_sections", toString block.sidebar.size)]⟩

/-- The events of the locales that can be built, up to the first that cannot. -/
def builtEvents (isPattern : String → Bool) (date : Date) : List LocaleLabels → List LogEvent
  | [] => []
  | labels :: rest =>
      match labels.build isPattern date with
      | .ok block => builtEvent block :: builtEvents isPattern date rest
      | .error _ => []

/-- The event of a site that has been composed. -/
def composedEvent (site : Site) : LogEvent :=
  ⟨.info, "docmux_site::compose", "Composed site configuration",
    [("locales", toString site.locales.size)]⟩

/-- The events of composing the site, in their order. -/
def events (isPattern : String → Bool) (world : World) (today : Date) (options : SiteOptions) :
    List LogEvent :=
  options.sourceEvents world ++
    match options.load world with
    | .error _ => []
    | .ok definition =>
        loadedEvents definition ++
          builtEvents isPattern (options.date.getD today) definition.locales ++
          match options.compose isPattern world today with
          | .error _ => []
          | .ok site => [composedEvent site]

end SiteOptions

/-- What a run does. -/
structure Outcome where
  exitCode : Nat
  stdout : String
  stderr : String
  /-- The events that are written to the log. -/
  log : List LogEvent

namespace Command

/-- The text that names the program and its version. -/
def versionText : String := "docmux 0.1.0"

def options? : Command → Option SiteOptions
  | .compose options _ => some options
  | .check options => some options
  | .version => none

/-- What a command writes to standard output, and the lines it writes about its run. -/
def result (isPattern : String → Bool) (world : World) (today : Date) :
    Command → Except CommandError (String × List StyledLine)
  | .compose options compact => do
      let site ← options.compose isPattern world today
      let text := if compact then Json.compact site.hostValue else Json.pretty site.hostValue
      return (text ++ "\n", [])
  | .check options => do
      let site ← options.compose isPattern world today
      return ("", site.summary)
  | .version => .ok (versionText ++ "\n", [])

/-- The name of the variable that asks for colours. -/
def colourVariable : String := "CLICOLOR_FORCE"

/-- Whether colours are wanted, though the output is no terminal. -/
def isColoured (world : World) : Bool :=
  match world.text? colourVariable with
  | some value => value != "0"
  | none => false

/-- The name of the variable that filters the log. -/
def logVariable : String := "RUST_LOG"

/-- Which events are written: those up to `info` for a run that is to be logged, else those that
the filter of the variable lets pass. -/
def logFilter (world : World) (options : SiteOptions) : LogFilter :=
  if options.verbose then .upTo .info else .ofText ((world.text? logVariable).getD "")

/-- The events of a command that are written, and what is wrong with the filter. -/
def log (isPattern : String → Bool) (world : World) (today : Date) (command : Command) :
    List String × List LogEvent :=
  match command.options? with
  | none => ([], [])
  | some options =>
      let filter := logFilter world options
      (filter.complaints, (options.events isPattern world today).filter filter.admits)

/-- What a command does in a world. -/
def run (isPattern : String → Bool) (world : World) (today : Date) (command : Command) : Outcome :=
  let (complaints, events) := command.log isPattern world today
  let said := String.join (complaints.map (· ++ "\n"))
  match command.result isPattern world today with
  | .ok (stdout, lines) =>
      ⟨0, stdout, said ++ StyledLine.renderAll (isColoured world) lines, events⟩
  | .error error =>
      let line : StyledLine := ⟨.error, s!"Error: {error.message}"⟩
      ⟨1, "", said ++ line.render (isColoured world), events⟩

/-- What a command line that cannot be understood does. -/
def refusal : Outcome := ⟨2, "", "error: invalid arguments\n", []⟩

/-- What a command line does in a world. -/
def outcome (isPattern : String → Bool) (world : World) (today : Date) (arguments : List String) :
    Outcome :=
  match ofArguments world.environment? arguments with
  | .ok command => command.run isPattern world today
  | .error _ => refusal

end Command

end LocaleSite
