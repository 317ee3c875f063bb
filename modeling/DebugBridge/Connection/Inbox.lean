import DebugBridge.Connection.Error

/-!
# Inboxes

Notifications wait in an inbox until they are read. It holds a fixed number of them; when it is full the oldest one is
lost for each that comes, and how many were lost is told before the rest.
-/

namespace DebugBridge

structure Inbox where
  capacity : Nat
  items : List Notification := []
  lost : Nat := 0
  deriving Repr

namespace Inbox

/-- An inbox for at least so many notifications: their number is rounded up to a power of two. -/
def new (size : Nat) : Inbox where
  capacity := if size ≤ 1 then 1 else Nat.pow 2 ((size - 1).log2 + 1)

/-- Takes a notification in. -/
def push (inbox : Inbox) (notification : Notification) : Inbox :=
  if inbox.items.length < inbox.capacity then { inbox with items := inbox.items ++ [notification] }
  else { inbox with items := inbox.items.tail ++ [notification], lost := inbox.lost + 1 }

/-- What an inbox gives to its reader. -/
inductive Delivery where
  | notification (notification : Notification)
  | lagged (lost : Nat)
  deriving Repr

/-- The next delivery. -/
def take (inbox : Inbox) : Option (Delivery × Inbox) :=
  if inbox.lost ≠ 0 then some (.lagged inbox.lost, { inbox with lost := 0 })
  else
    match inbox.items with
    | [] => none
    | notification :: rest => some (.notification notification, { inbox with items := rest })

end Inbox

end DebugBridge
