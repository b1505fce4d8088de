import LocaleSite.World

/-!
# Trees of files

A `FileTree` lists files and directories by their paths from the top, and looks up paths the way a
file system does: step by step, `.` staying, `..` going up, and each step but the last needing a
directory.
-/

namespace LocaleSite

/-- Files and directories by their paths from the top. -/
abbrev FileTree := List (DirectoryPath × FileEntry)

namespace FileTree

/-- What stands at a path from the top; a directory that others lie in need not be listed. -/
def at? (tree : FileTree) (path : DirectoryPath) : Option FileEntry :=
  match tree.find? fun entry => entry.1 == path with
  | some (_, entry) => some entry
  | none =>
      if path.isEmpty || tree.any fun entry => path.isPrefixOf entry.1 then some .directory
      else none

/-- Whether a directory stands at a path from the top. -/
def isDirectory (tree : FileTree) (path : DirectoryPath) : Bool :=
  match tree.at? path with
  | some .directory => true
  | _ => false

/-- What the steps of a path lead to from a directory. -/
def follow (tree : FileTree) (directory : DirectoryPath) : List String → Option FileEntry
  | [] => tree.at? directory
  | step :: rest =>
      if !tree.isDirectory directory then none
      else if step.isEmpty || step == "." then follow tree directory rest
      else if step == ".." then follow tree directory.dropLast rest
      else follow tree (directory ++ [step]) rest

/-- The parts of a path between slashes. -/
def steps (path : String) : List String := path.splitOn "/"

/-- What stands at a path, relative to a directory unless it begins with a slash. -/
def lookup (tree : FileTree) (directory : DirectoryPath) (path : String) : Option FileEntry :=
  if path.isEmpty then none
  else if path.startsWith "/" then tree.follow [] (steps path)
  else tree.follow directory (steps path)

end FileTree

end LocaleSite
