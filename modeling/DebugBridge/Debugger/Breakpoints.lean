import DebugBridge.Assoc
import DebugBridge.Text.Blank
import DebugBridge.Wire.Message

/-!
# Breakpoints by source

The editor sets the breakpoints of one source at a time; the debug server takes all of them at once. So the lists
are kept here, by path, and flattened whenever one changes.
-/

namespace DebugBridge.Debugger

/-- A breakpoint in a source. -/
structure SourceBreakpoint where
  line : Int32
  condition : Option String
  deriving DecidableEq, Repr

namespace SourceBreakpoint

/-- A breakpoint whose condition loses the blanks around it; a blank condition is none. -/
def new (line : Int32) (condition : Option String) : SourceBreakpoint :=
  { line, condition := (condition.map Text.trim).filter (· ≠ "") }

/-- The breakpoint as the server takes it. -/
def toWire (path : String) (b : SourceBreakpoint) : Wire.Breakpoint :=
  { expression := b.condition.getD "", location := some { line := b.line, path, column := 0 } }

end SourceBreakpoint

/-- The breakpoints of every source that has any, by path. -/
structure Breakpoints where
  byPath : List (String × List SourceBreakpoint) := []
  deriving DecidableEq, Repr

namespace Breakpoints

/-- Replaces the breakpoints of a source; an empty list removes the source. -/
def set (b : Breakpoints) (path : String) (list : List SourceBreakpoint) : Breakpoints :=
  if list = [] then ⟨Assoc.erase path b.byPath⟩ else ⟨Assoc.insert path list b.byPath⟩

/-- The breakpoints of a source. -/
def get (b : Breakpoints) (path : String) : List SourceBreakpoint :=
  (Assoc.find? path b.byPath).getD []

/-- How many breakpoints there are. -/
def size (b : Breakpoints) : Nat :=
  (b.byPath.flatMap (·.2)).length

def isEmpty (b : Breakpoints) : Bool :=
  b.byPath.isEmpty

/-- All breakpoints, source by source in the order of the paths. -/
def toWire (b : Breakpoints) : List Wire.Breakpoint :=
  b.byPath.flatMap fun (path, list) => list.map (·.toWire path)

end Breakpoints

end DebugBridge.Debugger
