import DebugBridge.Text.Split

/-!
# Paths

A path is a text whose parts stand between slashes. It is absolute if it begins with one. Nothing here looks at
files.
-/

namespace DebugBridge.Path

def isAbsolute (path : String) : Bool :=
  path.toList.head? == some '/'

/-- The parts between the slashes. -/
def parts (path : String) : List String :=
  (Text.split '/' path.toList).map String.ofList

/-- A path seen from a root: an absolute one stands for itself; another one follows the root after a slash. -/
def join (root path : String) : String :=
  if isAbsolute path then path
  else if root.isEmpty || root.toList.getLast? == some '/' then root ++ path
  else root ++ "/" ++ path

/-- A part that names nothing of its own. -/
def isIdle (part : String) : Bool :=
  part == "" || part == "."

/-- The last part, slashes and single dots at the end left aside. A path that has no such part, or whose last part
goes up, is its own name. -/
def name (path : String) : String :=
  match ((parts path).reverse.dropWhile isIdle).head? with
  | some part => if part == ".." then path else part
  | none => path

end DebugBridge.Path
