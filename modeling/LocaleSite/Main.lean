import LocaleSite.Command.Run
import LocaleSite.Regex
import Std.Time.DateTime.Timestamp

/-!
# The command line

The program looks up what it needs of its surroundings, lets `Command.outcome` decide, and writes
out the result.
-/

namespace LocaleSite

/-- Whether something stands at a path of the machine. -/
def isPresent (path : String) : IO Bool := do
  try
    let _ ← IO.FS.realPath path
    return true
  catch _ => return false

/-- What the system says of an error, with the number it has. -/
def reasonOf : IO.Error → String
  | .otherError code text | .resourceBusy code text | .resourceVanished code text
  | .unsupportedOperation code text | .hardwareFault code text | .unsatisfiedConstraints code text
  | .illegalOperation code text | .protocolError code text | .timeExpired code text
  | .interrupted _ code text | .noFileOrDirectory _ code text | .alreadyExists _ code text
  | .invalidArgument _ code text | .permissionDenied _ code text | .resourceExhausted _ code text
  | .inappropriateType _ code text | .noSuchThing _ code text => s!"{text} (os error {code})"
  | .unexpectedEof => "unexpected end of file"
  | .userError text => text

/-- What an error in reading a file tells of what stands there; 21 is the number of the error for
directories. -/
def entryOfError : IO.Error → FileEntry
  | .inappropriateType _ 21 _ => .directory
  | error => .unreadable (reasonOf error)

/-- What stands at a path of the machine. -/
def readEntry (path : String) : IO (Option FileEntry) := do
  if ← isPresent path then
    try
      return some (.file (← IO.FS.readBinFile path))
    catch error => return some (entryOfError error)
  else return none

def currentDate : IO Date := do
  let now ← Std.Time.Timestamp.now
  return Date.ofEpochDay (now.toSecondsSinceUnixEpoch.val / 86400)

/-- The paths at which a site definition is looked for. -/
def candidatePaths (directory : DirectoryPath) (arguments : List String) : List String :=
  match Command.ofArguments (fun _ => none) arguments with
  | .ok command =>
      match command.options?.bind (·.config) with
      | some path => [path]
      | none => directory.ancestors.map (·.file SiteDefinition.fileName)
  | .error _ => directory.ancestors.map (·.file SiteDefinition.fileName)

/-- The parts of a list of bytes that each end with a zero. -/
def zeroTerminated : List UInt8 → List (List UInt8)
  | [] => []
  | byte :: rest =>
      if byte = 0 then [] :: zeroTerminated rest
      else
        match zeroTerminated rest with
        | [] => [[byte]]
        | part :: parts => (byte :: part) :: parts

/-- The value of a variable, given the definitions of all, each a name, an equals sign and a
value. -/
def valueOf (definitions : List (List UInt8)) (name : String) : Option ByteArray :=
  let start := (name ++ "=").toUTF8.toList
  (definitions.find? start.isPrefixOf).map fun definition =>
    ⟨(definition.drop start.length).toArray⟩

/-- The definitions of all environment variables. -/
def environmentDefinitions : IO (List (List UInt8)) := do
  try
    return zeroTerminated (← IO.FS.readBinFile "/proc/self/environ").toList
  catch _ => return []

/-- The surroundings of a run, as far as a command line needs them. -/
def currentWorld (arguments : List String) : IO World := do
  let directory := ((← IO.currentDir).toString.splitOn "/").filter fun name => !name.isEmpty
  let entries ← (candidatePaths directory arguments).mapM fun path => do
    return (path, ← readEntry path)
  let definitions ← environmentDefinitions
  return {
    entry? := fun path => (entries.lookup path).join
    directory := directory
    environment? := valueOf definitions }

end LocaleSite

open LocaleSite in
/-- Run a command line and give its exit status. -/
def main (arguments : List String) : IO UInt32 := do
  let world ← currentWorld arguments
  let outcome := Command.outcome Regex.isValid world (← currentDate) arguments
  let stderr ← IO.getStderr
  for event in outcome.log do
    stderr.putStrLn event.line
  stderr.putStr outcome.stderr
  IO.print outcome.stdout
  return outcome.exitCode.toUInt32
