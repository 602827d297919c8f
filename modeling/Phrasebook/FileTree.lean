import Phrasebook.Text.Escaped
import Phrasebook.Text.Line

/-!
# File trees

What can be seen of a file system: the files and directories by the names on the
way to them, and the directory that relative paths start from.  Directories on
the way to a file exist with the file.
-/

namespace Phrasebook

/-- What a path leads to. -/
inductive FileNode where
  | file (content : Text)
  | directory
  deriving DecidableEq

/-- Files and directories by their place, the names on the way from the root. -/
structure FileTree where
  /-- The place that relative paths start from. -/
  current : List Text
  entries : List (List Text × FileNode)

/-- Why a path cannot be read as a file. -/
inductive FileFault where
  | missing
  | notDirectory
  | isDirectory
  | nameTooLong
  deriving DecidableEq

namespace FileFault

def message (fault : FileFault) (path : Text) : Text :=
  let words : Text := match fault with
    | .missing => "[Errno 2] No such file or directory: "
    | .notDirectory => "[Errno 20] Not a directory: "
    | .isDirectory => "[Errno 21] Is a directory: "
    | .nameTooLong => "[Errno 36] File name too long: "
  words ++ Text.escaped path

end FileFault

namespace FilePath

def isAbsolute (path : Text) : Bool :=
  path.head? == some '/'

/-- Whether the part of a path stays where it is. -/
def isIdle (part : Text) : Bool :=
  part.isEmpty || part == ['.']

/-- The path in its shortest spelling: without parts that stay where they are.
Steps to the parent directory are kept. -/
def normalized (path : Text) : Text :=
  let parts := (Text.splitOnChar '/' path).filter fun part => !isIdle part
  let joined := Text.join ['/'] parts
  if isAbsolute path then '/' :: joined
  else if parts.isEmpty then ['.']
  else joined

/-- The longest name that a directory can list, in bytes. -/
def longestName : Nat := 255

/-- Whether no directory can list the name. -/
def isTooLong (name : Text) : Bool :=
  longestName < name.foldl (fun size char => size + char.utf8Size) 0

end FilePath

namespace FileTree

/-- The tree with a file or directory at a place, relative to the current one. -/
def put (tree : FileTree) (path : Text) (node : FileNode) : FileTree :=
  { tree with
    entries := (tree.current ++ (Text.splitOnChar '/' path).filter fun part =>
      !FilePath.isIdle part, node) :: tree.entries }

/-- The tree with files, given by their paths and contents. -/
def putFiles (tree : FileTree) (files : List (Text × Text)) : FileTree :=
  files.foldl (fun tree (path, content) => tree.put path (.file content)) tree

def nodeAt? (tree : FileTree) (place : List Text) : Option FileNode :=
  match tree.entries.lookup place with
  | some node => some node
  | none =>
      if place.isPrefixOf tree.current ||
          tree.entries.any (place.isPrefixOf ·.1) then
        some .directory
      else none

/-- Follows the parts of a path from a place, one directory at a time. -/
def follow (tree : FileTree) (place : List Text) :
    List Text → Except FileFault (List Text)
  | [] => .ok place
  | part :: rest =>
      match tree.nodeAt? place with
      | none => .error .missing
      | some (.file _) => .error .notDirectory
      | some .directory =>
          if FilePath.isIdle part then tree.follow place rest
          else if part == ['.', '.'] then tree.follow place.dropLast rest
          else if FilePath.isTooLong part then .error .nameTooLong
          else tree.follow (place ++ [part]) rest

/-- The place from which a path starts. -/
def startOf (tree : FileTree) (path : Text) : List Text :=
  if FilePath.isAbsolute path then [] else tree.current

/-- What a path leads to.  The empty path leads nowhere. -/
def find (tree : FileTree) (path : Text) : Except FileFault FileNode := do
  if path.isEmpty then throw .missing
  let place ← tree.follow (tree.startOf path) (Text.splitOnChar '/' path)
  match tree.nodeAt? place with
  | some node => pure node
  | none => throw .missing

/-- The content of the file that a path leads to, with newlines as line ends. -/
def read (tree : FileTree) (path : Text) : Except FileFault Text := do
  match ← tree.find path with
  | .file content => pure (Text.normalizeLineEnds content)
  | .directory => throw .isDirectory

/-- The place that a path names, whether or not anything is there. -/
def resolve (tree : FileTree) (path : Text) : List Text :=
  (Text.splitOnChar '/' path).foldl
    (fun place part =>
      if FilePath.isIdle part then place
      else if part == ['.', '.'] then place.dropLast
      else place ++ [part])
    (tree.startOf path)

/-- The content of the file at a place. -/
def contentAt? (tree : FileTree) (place : List Text) : Option Text :=
  match tree.nodeAt? place with
  | some (.file content) => some content
  | _ => none

end FileTree

end Phrasebook
