import DebugBridge.Adapter.Loop

/-!
# The adapter without a network

Where no network can be reached every attempt to connect fails at once, before any other task goes on, and for the same
cause. Time passes only when nothing else is left to happen; a wait of a minute is never over.
-/

namespace DebugBridge.Rehearsal.Offline

open Adapter (Server Loop ServerEffect)

/-- The longest wait between two attempts that ever is over, in milliseconds. -/
def longestWait : Nat := 59999

/-- What comes of an attempt that is under way. -/
def refuse? (cause : String) (s : Server) : Option Server.Action :=
  s.inLink? fun connection => connection.dials.findSome? fun (dial, stage) =>
    match stage with
    | .opening _ => some (.refused dial cause)
    | _ => none

/-- A wait that is over. -/
def retry? (s : Server) : Option Server.Action :=
  s.inLink? fun connection => connection.dials.findSome? fun (dial, stage) =>
    match stage with
    | .resting _ => if connection.setup.retryDelayMs.toNat ≤ longestWait then some (.retry dial) else none
    | _ => none

/-- What happens next. -/
def next? (cause : String) (s : Server) : Option Server.Action :=
  if s.broken then none else refuse? cause s <|> s.next? <|> retry? s

/-- A bound on what can happen: for each session, as many attempts as it has, and what they tell. -/
def patience (s : Server) : Nat :=
  s.patience + s.launches.foldl (fun count (_, launch) => count + 4 * launch.session.connection.attempts) 0

/-- Lets everything happen that does. -/
def settle (cause : String) (l : Loop) : Loop × List ServerEffect :=
  l.settleBy (next? cause) patience

end DebugBridge.Rehearsal.Offline
