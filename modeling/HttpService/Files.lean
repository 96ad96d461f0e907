import HttpService.Text.Utf8

/-!
Contract: the files that the service can read.

Owns:
- a directory tree as a list of relative names;
- resolving a path in it, and reading a file as text;
- the wording of what may go wrong;
- the extension of a path.

Does not own: what files contain.
-/

namespace HttpService

inductive FileError where
  | notFound
  | notDirectory
  | isDirectory
  | nameTooLong
  | nulInName
  | notText
deriving DecidableEq, Repr

def FileError.message : FileError → String
  | notFound => "No such file or directory (os error 2)"
  | notDirectory => "Not a directory (os error 20)"
  | isDirectory => "Is a directory (os error 21)"
  | nameTooLong => "File name too long (os error 36)"
  | nulInName => "file name contained an unexpected NUL byte"
  | notText => "stream did not contain valid UTF-8"

inductive FileNode where
  | file (content : Bytes)
  | directory
deriving DecidableEq, Repr

/-- The tree below the working directory: each node with the names that lead to it.
Directories on the way need not be listed. -/
structure Files where
  nodes : List (List String × FileNode)
deriving DecidableEq, Repr

namespace Files

def empty : Files := ⟨[]⟩

instance : Inhabited Files := ⟨empty⟩

/-- The names of a path. -/
def names (path : String) : List String :=
  (path.toList.splitOn '/').map String.ofList

/-- A tree of the given relative paths; a later node replaces an earlier one. -/
def ofList (nodes : List (String × FileNode)) : Files :=
  ⟨nodes.reverse.map fun (path, node) =>
    ((names path).filter fun name => name ≠ "" ∧ name ≠ ".", node)⟩

def node? (files : Files) (names : List String) : Option FileNode :=
  if names = [] then some .directory
  else match files.nodes.lookup names with
    | some node => some node
    | none => if files.nodes.any (fun (found, _) => names.isPrefixOf found) then some .directory
        else none

/-- What following names outside the tree ends with. The first one that is not a step in
place or upwards decides: nothing is found, unless no file could have that name. -/
def outside : List String → FileError
  | [] => .isDirectory
  | name :: rest =>
      if name = "" ∨ name = "." ∨ name = ".." then outside rest
      else if name.utf8ByteSize > 255 then .nameTooLong
      else .notFound

def walk (files : Files) (here : List String) : List String → Except FileError (List String)
  | [] => .ok here
  | name :: rest =>
      match files.node? here with
      | none => .error .notFound
      | some (.file _) => .error .notDirectory
      | some .directory =>
          if name = "" ∨ name = "." then walk files here rest
          else if name = ".." then
            if here = [] then .error (outside rest) else walk files here.dropLast rest
          else if name.utf8ByteSize > 255 then .error .nameTooLong
          else
            match files.node? (here ++ [name]) with
            | none => .error .notFound
            | some _ => walk files (here ++ [name]) rest

def readText (files : Files) (path : String) : Except FileError String :=
  if path.toList.contains (Char.ofNat 0) then .error .nulInName
  else if path.utf8ByteSize ≥ 4096 then .error .nameTooLong
  else if path = "" then .error .notFound
  else if path.toList.head? = some '/' then .error (outside (names path))
  else
    match files.walk [] (names path) with
    | .error error => .error error
    | .ok found =>
        match files.node? found with
        | some (.file content) =>
            match Utf8.decode? content with
            | some text => .ok text
            | none => .error .notText
        | some .directory => .error .isDirectory
        | none => .error .notFound

/-- The last name of a path, if it is not `..`. Slashes and dots behind it do not count. -/
def fileName? (path : String) : Option String :=
  match (names path).filter fun name => name ≠ "" ∧ name ≠ "." with
  | [] => none
  | name :: rest =>
      let last := rest.getLastD name
      if last = ".." then none else some last

/-- What follows the last dot of a path's last name, unless the dot is its first character. -/
def extension? (path : String) : Option String :=
  match fileName? path with
  | none => none
  | some name =>
      let back := name.toList.reverse
      let stem := (back.dropWhile (· ≠ '.')).drop 1
      if stem = [] then none else some (String.ofList (back.takeWhile (· ≠ '.')).reverse)

end Files

end HttpService
