/-!
# File trees — directories, files, and paths into them

A directory holds entries under distinct names. A path is followed name by name; `.` stays where it
is and `..` goes back to the directory above, but not above the directory the path begins in. Names
and paths have a greatest length in bytes, and no path holds a NUL.
-/

namespace ReleaseGate

/-- A file or a directory. -/
inductive Node where
  | file (content : List UInt8)
  | directory (entries : List (String × Node))
  deriving Inhabited

/-- The entries of a directory. -/
abbrev Directory := List (String × Node)

namespace Directory

/-- The entries with a node under the given name, in place of one that was there. -/
def put (name : String) (node : Node) : Directory → Directory
  | [] => [(name, node)]
  | entry :: rest => if entry.1 == name then (name, node) :: rest else entry :: put name node rest

/-- The entries without the one under the given name. -/
def remove (name : String) (d : Directory) : Directory :=
  d.filter fun entry => entry.1 != name

/-- A name that no entry has: the stem with the first number that is free. -/
def freshName (stem : String) (d : Directory) : String :=
  let candidates := (List.range (d.length + 1)).map fun n => stem ++ toString n
  (candidates.find? fun name => (d.lookup name).isNone).getD stem

end Directory

/-- Why a file cannot be read or written. -/
inductive FileFault where
  | notFound
  | notDirectory
  | isDirectory
  | denied
  | nameTooLong
  | holdsNul
  deriving Repr, DecidableEq

namespace FileFault

/-- The words for a fault. -/
def words : FileFault → String
  | notFound => "No such file or directory (os error 2)"
  | notDirectory => "Not a directory (os error 20)"
  | isDirectory => "Is a directory (os error 21)"
  | denied => "Permission denied (os error 13)"
  | nameTooLong => "File name too long (os error 36)"
  | holdsNul => "file name contained an unexpected NUL byte"

end FileFault

/-- The reason given when a text holds bytes that are no UTF-8. -/
def notUtf8Reason : String := "stream did not contain valid UTF-8"

namespace Path

/-- The greatest number of bytes in a name. -/
def longestName : Nat := 255

/-- The greatest number of bytes in a path. -/
def longestPath : Nat := 4095

/-- What is wrong with a path before it is followed. -/
def fault? (path : String) : Option FileFault :=
  if path.toList.contains '\x00' then some .holdsNul
  else if longestPath < path.utf8ByteSize then some .nameTooLong
  else none

/-- Split a path at its slashes; `name` is the current name, last character first. -/
def splitFrom (name : List Char) : List Char → List (List Char)
  | [] => [name.reverse]
  | c :: cs => if c == '/' then name.reverse :: splitFrom [] cs else splitFrom (c :: name) cs

/-- The names of a path, with the empty ones between slashes. -/
def names (path : String) : List String :=
  (splitFrom [] path.toList).map String.ofList

/-- Does a path begin at the root? -/
def isAbsolute (path : String) : Bool :=
  path.toList.head? == some '/'

/-- Do names that are followed from `depth` directories below a directory stay below it? -/
def staysBelow (depth : Nat) : List String → Bool
  | [] => true
  | name :: rest =>
    if name.isEmpty || name == "." then staysBelow depth rest
    else if name == ".." then
      match depth with
      | 0 => false
      | depth + 1 => staysBelow depth rest
    else staysBelow (depth + 1) rest

/-- A path behind a directory; an absolute path replaces the directory. -/
def join (directory path : String) : String :=
  if isAbsolute path then path
  else if directory.isEmpty || directory.toList.getLast? == some '/' then directory ++ path
  else directory ++ "/" ++ path

end Path

namespace Node

/-- Follow names from a node; `above` holds the nodes above it, the nearest first. -/
def follow (above : List Node) (node : Node) : List String → Except FileFault Node
  | [] => .ok node
  | name :: rest =>
    match node with
    | .file _ => .error .notDirectory
    | .directory entries =>
      if name.isEmpty || name == "." then follow above node rest
      else if name == ".." then
        match above with
        | [] => follow [] node rest
        | parent :: others => follow others parent rest
      else if Path.longestName < name.utf8ByteSize then .error .nameTooLong
      else match entries.lookup name with
        | none => .error .notFound
        | some next => follow (node :: above) next rest

/-- The node at a path. -/
def at? (node : Node) (path : String) : Except FileFault Node :=
  match Path.fault? path with
  | some fault => .error fault
  | none => follow [] node (Path.names path)

/-- Put a node under a name that is reached by names; the directories on the way must be there. -/
def putAt (new : Node) : Node → List String → Except FileFault Node
  | .file _, _ => .error .notDirectory
  | .directory _, [] => .error .isDirectory
  | .directory entries, [name] =>
    if Path.longestName < name.utf8ByteSize then .error .nameTooLong
    else match entries.lookup name, new with
    | some (.directory _), .file _ => .error .isDirectory
    | some (.directory old), .directory _ => .ok (.directory (Directory.put name (.directory old) entries))
    | _, _ => .ok (.directory (Directory.put name new entries))
  | .directory entries, name :: rest =>
    match entries.lookup name with
    | none => .error .notFound
    | some next => do
      let next ← putAt new next rest
      return .directory (Directory.put name next entries)

/-- Write a file at a path. -/
def write (content : List UInt8) (node : Node) (path : String) : Except FileFault Node :=
  match Path.fault? path with
  | some fault => .error fault
  | none => putAt (.file content) node ((Path.names path).filter fun name => !name.isEmpty)

/-- Make a directory at names, with the directories above it. -/
def makeDirectories : Node → List String → Except FileFault Node
  | node, [] => .ok node
  | .file _, _ => .error .notDirectory
  | .directory entries, name :: rest => do
    let next ← makeDirectories ((entries.lookup name).getD (.directory [])) rest
    return .directory (Directory.put name next entries)

/-- Make a directory at a path, with the directories above it. -/
def makeDirectory (node : Node) (path : String) : Except FileFault Node :=
  makeDirectories node ((Path.names path).filter fun name => !name.isEmpty && name != ".")

/-- The content of a file. -/
def content : Node → Except FileFault (List UInt8)
  | .file bytes => .ok bytes
  | .directory _ => .error .isDirectory

end Node

end ReleaseGate
