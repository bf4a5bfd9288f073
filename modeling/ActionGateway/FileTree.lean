import ActionGateway.Text.Basic
import ActionGateway.Text.Utf8

/-!
# Files

A file is found by its path, one component after the other, from a **place**: a directory together
with the directories around it. Every component but the last has to name a directory, also where the
next one leads out of it again, so a path through a file leads nowhere even if it comes back.
-/

namespace ActionGateway

/-- What stands under a name. -/
inductive FileTree
  | file (contents : Bytes)
  | directory (entries : List (String × FileTree))

/-- Why a file cannot be read. -/
inductive FileFault
  | missing
  /-- a component goes on from what is a file -/
  | notDirectory
  | isDirectory
  | nameTooLong
  /-- no name holds a NUL -/
  | nulInName
  deriving DecidableEq, Repr

/-- The text of a fault, as the operating system words it. -/
def FileFault.message : FileFault → String
  | missing => "No such file or directory (os error 2)"
  | notDirectory => "Not a directory (os error 20)"
  | isDirectory => "Is a directory (os error 21)"
  | nameTooLong => "File name too long (os error 36)"
  | nulInName => "file name contained an unexpected NUL byte"

/-! ## Places

A place keeps the way that led to it, so a component that leads out of a directory needs no search.
-/

/-- What a path has led to so far. -/
structure Place where
  here : FileTree
  /-- the directories around it, the innermost first -/
  around : List FileTree

namespace Place

/-- The greatest length of a name, in bytes. -/
def maxName : Nat := 255

/-- The greatest length of a path, in bytes. -/
def maxPath : Nat := 4095

/-- The outermost directory. -/
def root (place : Place) : Place :=
  ⟨place.around.getLastD place.here, []⟩

/-- Follows one component: nothing and `.` stay in the directory, and `..` leads out of it, except
from the outermost. -/
def step (place : Place) (component : String) : Except FileFault Place :=
  match place.here with
  | .file _ => .error .notDirectory
  | .directory entries =>
    if component = "" ∨ component = "." then .ok place
    else if component = ".." then
      match place.around with
      -- Above the outermost directory there is only itself.
      | [] => .ok place
      | outer :: further => .ok ⟨outer, further⟩
    else if maxName < component.utf8ByteSize then .error .nameTooLong
    else
      match entries.lookup component with
      | none => .error .missing
      | some tree => .ok ⟨tree, place.here :: place.around⟩

/-- Follows components, until one leads nowhere. -/
def walk : Place → List String → Except FileFault Place
  | place, [] => .ok place
  | place, component :: rest =>
    match place.step component with
    | .error fault => .error fault
    | .ok next => walk next rest

/-- Follows a path. One that begins with a slash starts at the outermost directory. -/
def follow (place : Place) (path : String) : Except FileFault Place :=
  let components := (Text.splitOn '/' path.toList).map String.ofList
  match components with
  | "" :: rest => place.root.walk rest
  | components => place.walk components

/-- What the file of a path holds. -/
def read (place : Place) (path : String) : Except FileFault Bytes :=
  if path.toList.contains '\x00' then .error .nulInName
  else if path.isEmpty then .error .missing
  else if maxPath < path.utf8ByteSize then .error .nameTooLong
  else
    match place.follow path with
    | .error fault => .error fault
    | .ok ⟨.file contents, _⟩ => .ok contents
    | .ok ⟨.directory _, _⟩ => .error .isDirectory

/-- The path of a name in a directory; a name that begins with a slash is a path of its own. -/
def join (directory name : String) : String :=
  if name.toList.head? = some '/' then name
  else if directory.isEmpty || directory.toList.getLast? = some '/' then directory ++ name
  else directory ++ "/" ++ name

end Place

end ActionGateway
