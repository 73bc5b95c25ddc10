/-
# Directories and text files

A tree of directories and of text files, as far as logs need one: directories are made along a path,
and text is added at the end of a file, which need not be there before.  Neither makes a name that
a directory cannot hold, nor goes through a file.
-/

namespace ChatConsole

/-- A tree of directories and text files.  A path is a list of names from the root. -/
structure FileTree where
  /-- The directories; the root is one. -/
  directories : List (List String) := [[]]
  /-- The files, each with its path and its text. -/
  files : List (List String × String) := []
  deriving DecidableEq, Repr

namespace FileTree

/-- The largest number of bytes of a name. -/
def maxNameSize : Nat := 255

/-- Whether a directory can hold something of a name. -/
def isName (name : String) : Bool :=
  !name.isEmpty && name != "." && name != ".." && name.utf8ByteSize ≤ maxNameSize &&
    name.toList.all fun c => c != '/' && c != '\x00'

/-- Whether a path leads to a directory. -/
def isDirectory (t : FileTree) (path : List String) : Bool :=
  t.directories.contains path

/-- The text of a file. -/
def read? (t : FileTree) (path : List String) : Option String :=
  (t.files.find? (·.1 == path)).map Prod.snd

/-- Go on from a directory to one of a name, which is made if nothing has its path. -/
def enter? (t : FileTree) (path : List String) (name : String) : Option (FileTree × List String) :=
  let next := path ++ [name]
  if t.isDirectory next then some (t, next)
  else if (t.read? next).isSome || !isName name then none
  else some ({ t with directories := t.directories ++ [next] }, next)

/-- Make the directories along a path that begins at a directory. -/
def makeFrom? (t : FileTree) (path : List String) : List String → Option FileTree
  | [] => some t
  | name :: names =>
    match t.enter? path name with
    | some (t, path) => makeFrom? t path names
    | none => none

/-- Make the directories along a path, unless they are there.  Refused when a file is in the way. -/
def makeDirectories? (t : FileTree) (path : List String) : Option FileTree :=
  t.makeFrom? [] path

/-- Add a text at the end of a file, in a directory that is there. -/
def append? (t : FileTree) (directory : List String) (name text : String) : Option FileTree :=
  let path := directory ++ [name]
  if !t.isDirectory directory || t.isDirectory path || !isName name then none
  else
    match t.read? path with
    | some _ =>
      some { t with files := t.files.map fun f => if f.1 == path then (f.1, f.2 ++ text) else f }
    | none => some { t with files := t.files ++ [(path, text)] }

end FileTree
end ChatConsole
