/-
Earley.CommandLine.Files — the files that a command can read.

To a command, the files are a function from paths to contents. `FileTree` is one that is held in
memory: a directory with files and directories in it, which paths are resolved in.
-/
import Earley.Text.Quoted

namespace Earley.CommandLine

/-! ## Paths -/

/-- The components of a path. -/
def components (path : String) : List String := path.splitOn "/"

/-- The shortest way to write a path that goes through the same components: repeated and trailing
slashes and components that stay in place are left out. Two slashes at the beginning are kept. -/
def normalizePath (path : String) : String :=
  let slashes := (path.toList.takeWhile (· == '/')).length
  let root := if slashes = 2 then "//" else if slashes = 0 then "" else "/"
  let parts := (components path).filter fun part => part != "" && part != "."
  let whole := root ++ "/".intercalate parts
  if whole = "" then "." else whole

/-! ## Reading files -/

/-- Why a file cannot be read. -/
inductive FileProblem where
  | notFound
  | isDirectory
  /-- A component before the last one is a file. -/
  | notDirectory
  /-- The path, or a name in it, is longer than a file system takes. -/
  | nameTooLong
  | notPermitted
  deriving DecidableEq, Repr

/-- The words for a problem with a file. -/
def FileProblem.message (p : FileProblem) (path : String) : String :=
  let words := match p with
    | .notFound => "FileNotFoundError [Errno 2] No such file or directory: "
    | .isDirectory => "IsADirectoryError [Errno 21] Is a directory: "
    | .notDirectory => "NotADirectoryError [Errno 20] Not a directory: "
    | .nameTooLong => "OSError [Errno 36] File name too long: "
    | .notPermitted => "PermissionError [Errno 13] Permission denied: "
  words ++ Text.quoted path

/-- The contents of files, by path. -/
abbrev Files := (path : String) → Except FileProblem (List UInt8)

/-- The files at some paths only. -/
def Files.ofList (known : List (String × Except FileProblem (List UInt8))) : Files := fun path =>
  (known.lookup path).getD (.error .notFound)

/-- The bytes that a name in a path may have. -/
def maxNameSize : Nat := 255

/-- The bytes that a whole path may have. -/
def maxPathSize : Nat := 4095

/-! ## Files in memory -/

/-- A directory: its files and the directories in it, by their names from the top. -/
structure FileTree where
  directories : List (List String)
  files : List (List String × List UInt8)
  deriving Repr

namespace FileTree

/-- A way down is written without empty components and ones that stay in place. -/
def place (name : String) : List String := (components name).filter fun s => s != "" && s != "."

/-- The tree of some named directories and files; a later file replaces an earlier one. -/
def ofNames (directories : List String) (files : List (String × List UInt8)) : FileTree where
  directories := directories.map place
  files := files.reverse.map fun (name, bytes) => (place name, bytes)

/-- Whether there is a directory at a place: one that was made, or one that something lies in. -/
def isDirectory (t : FileTree) (p : List String) : Bool :=
  p.isEmpty || t.directories.any (p.isPrefixOf ·) ||
    t.files.any fun (f, _) => p.isPrefixOf f && p != f

/-- Follows components down from a directory, which lies `above` levels over the top of the tree or
at `here` in it. -/
def follow (t : FileTree) (above : Nat) (here : List String) :
    List String → Except FileProblem (List UInt8)
  | [] => .error .isDirectory
  | part :: rest =>
    if part = "" ∨ part = "." then t.follow above here rest
    else if part = ".." then
      if here.isEmpty then t.follow (above + 1) [] rest else t.follow above here.dropLast rest
    else if maxNameSize < part.utf8ByteSize then .error .nameTooLong
    else if above ≠ 0 then .error .notFound
    else
      let next := here ++ [part]
      if t.isDirectory next then t.follow 0 next rest
      else
        match t.files.lookup next with
        | none => .error .notFound
        | some bytes => if rest.isEmpty then .ok bytes else .error .notDirectory

/-- The empty file that every system has. -/
def nullDevice : List String := ["dev", "null"]

/-- Reads an absolute path. It leads out of the tree, where nothing is known but the root and the
null device. -/
def readAbsolute (path : String) : Except FileProblem (List UInt8) :=
  match (place path).dropWhile (· == "..") with
  | [] => .error .isDirectory
  | part :: rest =>
    if maxNameSize < part.utf8ByteSize then .error .nameTooLong
    else if part :: rest = nullDevice then .ok []
    else .error .notFound

/-- The files of a tree. -/
def read (t : FileTree) : Files := fun path =>
  if path.isEmpty then .error .notFound
  else if maxPathSize < path.utf8ByteSize then .error .nameTooLong
  else if path.startsWith "/" then readAbsolute path
  else t.follow 0 [] (components path)

end FileTree

end Earley.CommandLine
