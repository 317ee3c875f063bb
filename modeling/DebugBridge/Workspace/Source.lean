import DebugBridge.Workspace.FileTree

/-!
# Source files

Where the editor finds a file that the debug server names. The server may see the workspace through a tree of
links, so a path is replaced by the real path of what it leads to; one that leads nowhere stays as it is.
-/

namespace DebugBridge.Source

/-- A path as the server names it; a relative one is seen from the workspace's root, if there is one. -/
def located (root : Option String) (path : String) : String :=
  match root with
  | some root => Path.join root path
  | none => path

/-- The file behind a path as the server names it. -/
def resolve (files : FileTree) (root : Option String) (path : String) : String :=
  let path := located root path
  match files.realPath path with
  | .ok real => real
  | .error _ => path

end DebugBridge.Source
