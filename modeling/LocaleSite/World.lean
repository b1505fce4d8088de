/-!
# What a run finds

A `World` is what the program can see when it runs: files, the current directory, environment
variables and the date of the day. It is a plain value, so that what the program does is a
function of it.
-/

namespace LocaleSite

/-- What stands at a path. -/
inductive FileEntry where
  | file (content : ByteArray)
  | directory
  /-- What cannot be read, and what the system says of it. -/
  | unreadable (reason : String)

/-- Names of directories from the top, or from some directory, downwards. -/
abbrev DirectoryPath := List String

/-- The surroundings of a run. -/
structure World where
  /-- What stands at a path, which may be relative to the current directory. -/
  entry? : String → Option FileEntry
  /-- The current directory, from the top. -/
  directory : DirectoryPath
  /-- The bytes of an environment variable. -/
  environment? : String → Option ByteArray

namespace World

/-- The value of an environment variable; one that is not text counts as unset. -/
def text? (world : World) (name : String) : Option String :=
  (world.environment? name).bind String.fromUTF8?

end World

namespace DirectoryPath

/-- The path of a file in a directory that is given from the top. -/
def file (directory : DirectoryPath) (name : String) : String :=
  String.join (directory.map ("/" ++ ·)) ++ "/" ++ name

/-- A directory, given from below, and all directories above it, from below. -/
def upwards : List String → List DirectoryPath
  | [] => [[]]
  | name :: above => (name :: above).reverse :: upwards above

/-- A directory and all directories above it, the nearest first. -/
def ancestors (directory : DirectoryPath) : List DirectoryPath := upwards directory.reverse

end DirectoryPath

end LocaleSite
