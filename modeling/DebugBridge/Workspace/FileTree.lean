import DebugBridge.Text.Utf8
import DebugBridge.Workspace.Path

/-!
# File trees

Directories, files and symbolic links, by the names on the way from the root. `FileTree.walk` follows a path and
the links on it: `..` goes up from where the walk stands, after links were followed; a file can only be the end of
a path, and a path may go through at most forty links.
-/

namespace DebugBridge

/-- What stands at a place. -/
inductive Entry where
  | directory
  | file (content : Bytes)
  | link (target : String)
  deriving DecidableEq, Repr

/-- The root is a directory without an entry of its own. -/
structure FileTree where
  entries : List (List String × Entry) := []
  /-- Where a path starts that is not absolute, if anywhere. -/
  home : Option (List String) := none
  deriving Repr

namespace FileTree

/-- Why a path leads to no file, or to none that can be read as text. -/
inductive Fault where
  | absent
  | notDirectory
  | isDirectory
  | tooManyLinks
  | notText
  deriving DecidableEq, Repr

def Fault.message : Fault → String
  | absent => "No such file or directory (os error 2)"
  | notDirectory => "Not a directory (os error 20)"
  | isDirectory => "Is a directory (os error 21)"
  | tooManyLinks => "Too many levels of symbolic links (os error 40)"
  | notText => "stream did not contain valid UTF-8"

/-- Where a path leads. -/
inductive Place where
  | found (place : List String)
  /-- Everything but the last name is there. -/
  | free (directory : List String) (name : String)
  deriving DecidableEq, Repr

/-- How many links a path may go through. -/
def maxLinks : Nat := 40

/-! ## Following paths -/

def get? (tree : FileTree) (place : List String) : Option Entry :=
  if place.isEmpty then some .directory else tree.entries.lookup place

/-- Follows the parts of a path from a place that is there and is no link. -/
def walk (tree : FileTree) (links : Nat) (here : List String) : List String → Except Fault Place
  | [] => .ok (.found here)
  | part :: rest =>
    if tree.get? here ≠ some .directory then .error .notDirectory
    else if Path.isIdle part then tree.walk links here rest
    else if part = ".." then tree.walk links here.dropLast rest
    else
      match tree.get? (here ++ [part]) with
      | none => if rest.isEmpty then .ok (.free here part) else .error .absent
      | some (.link target) =>
        match links with
        | 0 => .error .tooManyLinks
        | links + 1 =>
          tree.walk links (if Path.isAbsolute target then [] else here) (Path.parts target ++ rest)
      | some _ => tree.walk links (here ++ [part]) rest
termination_by parts => (links, parts.length)

/-- Where a path leads, from the root or from home; the empty one leads nowhere. -/
def place (tree : FileTree) (path : String) : Except Fault Place :=
  if Path.isAbsolute path then tree.walk maxLinks [] (Path.parts path)
  else
    match tree.home with
    | some home => if path.isEmpty then .error .absent else tree.walk maxLinks home (Path.parts path)
    | none => .error .absent

/-- The path without links, dots and double slashes of what a path leads to. -/
def realPath (tree : FileTree) (path : String) : Except Fault String := do
  match ← tree.place path with
  | .found place => return "/" ++ "/".intercalate place
  | .free .. => throw .absent

/-- The text of a file. -/
def readText (tree : FileTree) (path : String) : Except Fault String := do
  match ← tree.place path with
  | .free .. => throw .absent
  | .found place =>
    match tree.get? place with
    | some (.file content) =>
      match Utf8.decode? content with
      | some text => return text
      | none => throw .notText
    | _ => throw .isDirectory

/-! ## Changing trees -/

def insert (tree : FileTree) (place : List String) (entry : Entry) : FileTree :=
  { tree with entries := (place, entry) :: tree.entries.filter (·.1 != place) }

/-- The place at which a path's file can be written, there already or not. -/
def writable (tree : FileTree) (path : String) : Except Fault (List String) := do
  match ← tree.place path with
  | .found place => if tree.get? place = some .directory then throw .isDirectory else return place
  | .free directory name => return directory ++ [name]

/-- Puts a file where a path leads; nothing happens where it leads nowhere. -/
def writeFile (tree : FileTree) (path : String) (content : Bytes) : FileTree :=
  match tree.writable path with
  | .ok place => tree.insert place (.file content)
  | .error _ => tree

/-- Makes the directories on a path that are not there. -/
def makeDirectories (tree : FileTree) (path : String) : FileTree :=
  let parts := Path.parts path
  (List.range (parts.length + 1)).foldl (fun tree count =>
    match tree.walk maxLinks [] (parts.take count) with
    | .ok (.free directory name) => tree.insert (directory ++ [name]) .directory
    | _ => tree) tree

/-- Puts a link at a free path. -/
def makeLink (tree : FileTree) (target path : String) : FileTree :=
  match tree.place path with
  | .ok (.free directory name) => tree.insert (directory ++ [name]) (.link target)
  | _ => tree

/-- Learns that a path, of which so far everything but the last name is there, really leads to an entry at another
path, which has no links on it. Unless these are the same place, there is a link. -/
def learn (tree : FileTree) (path real : String) (entry : Entry) : FileTree :=
  match tree.place path with
  | .ok (.free directory name) =>
    let place := directory ++ [name]
    let target := (Path.parts real).filter (!Path.isIdle ·)
    if place = target then tree.insert place entry
    else ((tree.makeDirectories ("/" ++ "/".intercalate target.dropLast)).insert target entry).insert place (.link real)
  | _ => tree

end FileTree

end DebugBridge
