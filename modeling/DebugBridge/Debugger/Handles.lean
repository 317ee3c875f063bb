/-!
# References

The editor names frames, scopes and values by small positive numbers, which are given out here one by one. The
number 0 is never given out: to the editor it means that there is nothing to ask for.

`clear` starts the numbering again, `invalidate` does not; both forget all that was registered.
-/

namespace DebugBridge.Debugger

/-- A number given out for an object. -/
abbrev Reference := Int

/-- The objects registered, in the order of their numbers, and the last number given out. -/
structure Handles (α : Type) where
  last : Nat := 0
  entries : List (Reference × α) := []
  deriving DecidableEq, Repr

namespace Handles

/-- Registers an object under the next number. -/
def create (handles : Handles α) (object : α) : Reference × Handles α :=
  let reference : Reference := handles.last + 1
  (reference, { last := handles.last + 1, entries := handles.entries ++ [(reference, object)] })

/-- The object that a number was given out for. -/
def get? (handles : Handles α) (reference : Reference) : Option α :=
  handles.entries.lookup reference

/-- Forgets all objects and starts the numbering again: once the program runs on, the editor drops all numbers it
was given. -/
def clear (_ : Handles α) : Handles α :=
  {}

/-- Forgets all objects but goes on counting, so that an old number never names a new object. -/
def invalidate (handles : Handles α) : Handles α :=
  { handles with entries := [] }

def size (handles : Handles α) : Nat :=
  handles.entries.length

def isEmpty (handles : Handles α) : Bool :=
  handles.entries.isEmpty

end Handles

/-! ## Histories -/

/-- What can be done with a table. -/
inductive HandleAction (α : Type) where
  | create (object : α)
  | get (reference : Reference)
  | clear
  | invalidate
  deriving Repr

/-- What it gives. -/
inductive HandleAnswer (α : Type) where
  | created (reference : Reference)
  | found (object : Option α)
  | done
  deriving Repr

namespace Handles

/-- Does one action. -/
def act (handles : Handles α) : HandleAction α → HandleAnswer α × Handles α
  | .create object =>
    let (reference, handles) := handles.create object
    (.created reference, handles)
  | .get reference => (.found (handles.get? reference), handles)
  | .clear => (.done, handles.clear)
  | .invalidate => (.done, handles.invalidate)

end Handles

end DebugBridge.Debugger
