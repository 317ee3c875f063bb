import Mathlib.Data.Nat.Count
import DebugBridge.Proofs.Connection.Line

/-!
# A connection beside another

Some calls of a connection may be left out, as if they had never been made. The numbers they took are then taken by
others: `renumber` says which number a call has instead of its own. Two connections of which one lacks these calls stand
`Beside` each other when they agree in all the rest, and what is done to one call of both, or to one that the other
lacks, keeps them there.
-/

namespace DebugBridge.Connection

/-! ## Numbers without those left out -/

section

variable {gone : List UInt64}

/-- How many numbers below one are not left out. -/
def keptBelow (gone : List UInt64) (number : Nat) : Nat :=
  Nat.count (fun other => UInt64.ofNat other ∉ gone) number

/-- The number that a call has where those of some numbers are left out. -/
def renumber (gone : List UInt64) (number : UInt64) : UInt64 :=
  UInt64.ofNat (keptBelow gone number.toNat)

theorem keptBelow_succ_of_mem {number : Nat} (hgone : UInt64.ofNat number ∈ gone) :
    keptBelow gone (number + 1) = keptBelow gone number :=
  Nat.count_succ_eq_count_iff.2 (not_not_intro hgone)

theorem keptBelow_succ_of_not_mem {number : Nat} (hkept : UInt64.ofNat number ∉ gone) :
    keptBelow gone (number + 1) = keptBelow gone number + 1 :=
  Nat.count_succ_eq_succ_count_iff.2 hkept

theorem toNat_renumber (number : UInt64) : (renumber gone number).toNat = keptBelow gone number.toNat :=
  UInt64.toNat_ofNat_of_lt' (Nat.lt_of_le_of_lt (Nat.count_le _) number.toNat_lt)

/-- No call has a larger number than before. -/
theorem renumber_le (gone : List UInt64) (number : UInt64) : renumber gone number ≤ number := by
  rw [UInt64.le_iff_toNat_le, toNat_renumber]
  exact Nat.count_le _

/-- Calls that are not left out keep different numbers. -/
theorem renumber_injective {first second : UInt64} (hfirst : first ∉ gone) (hsecond : second ∉ gone)
    (heq : renumber gone first = renumber gone second) : first = second := by
  have hcount := congrArg UInt64.toNat heq
  rw [toNat_renumber, toNat_renumber] at hcount
  refine UInt64.toNat_inj.1 (Nat.count_injective ?_ ?_ hcount)
  · rwa [UInt64.ofNat_toNat]
  · rwa [UInt64.ofNat_toNat]

theorem renumber_ne {first second : UInt64} (hfirst : first ∉ gone) (hsecond : second ∉ gone) (hne : first ≠ second) :
    renumber gone first ≠ renumber gone second :=
  fun heq => hne (renumber_injective hfirst hsecond heq)

/-- Left out are the second of three calls, and a later one. -/
example : [1, 3].map (renumber [2, 7]) = [1, 2] := by decide +kernel

/-! ### The table of pending numbers -/

/-- The numbers that are not left out, renumbered. -/
def renumbered (gone numbers : List UInt64) : List UInt64 :=
  (numbers.filter (· ∉ gone)).map (renumber gone)

theorem renumbered_cons_of_mem {number : UInt64} (hgone : number ∈ gone) (numbers : List UInt64) :
    renumbered gone (number :: numbers) = renumbered gone numbers := by
  rw [renumbered, List.filter_cons_of_neg (by simpa using hgone), renumbered]

theorem renumbered_cons {number : UInt64} (hkept : number ∉ gone) (numbers : List UInt64) :
    renumbered gone (number :: numbers) = renumber gone number :: renumbered gone numbers := by
  rw [renumbered, List.filter_cons_of_pos (by simpa using hkept), List.map_cons, renumbered]

theorem renumbered_append (first second : List UInt64) :
    renumbered gone (first ++ second) = renumbered gone first ++ renumbered gone second := by
  simp only [renumbered, List.filter_append, List.map_append]

theorem mem_renumbered {numbers : List UInt64} {number : UInt64} (hkept : number ∉ gone) :
    renumber gone number ∈ renumbered gone numbers ↔ number ∈ numbers := by
  simp only [renumbered, List.mem_map, List.mem_filter, decide_eq_true_eq]
  constructor
  · rintro ⟨other, ⟨hmem, hother⟩, heq⟩
    rwa [← renumber_injective hother hkept heq]
  · exact fun hmem => ⟨number, ⟨hmem, hkept⟩, rfl⟩

theorem renumbered_erase_of_mem (numbers : List UInt64) {number : UInt64} (hgone : number ∈ gone) :
    renumbered gone (numbers.erase number) = renumbered gone numbers := by
  induction numbers with
  | nil => rfl
  | cons other numbers ih =>
    by_cases hself : other = number
    · rw [hself, List.erase_cons_head, renumbered_cons_of_mem hgone]
    · rw [List.erase_cons_tail (by simpa using hself)]
      by_cases hother : other ∈ gone
      · rw [renumbered_cons_of_mem hother, renumbered_cons_of_mem hother, ih]
      · rw [renumbered_cons hother, renumbered_cons hother, ih]

theorem renumbered_erase (numbers : List UInt64) {number : UInt64} (hkept : number ∉ gone) :
    renumbered gone (numbers.erase number) = (renumbered gone numbers).erase (renumber gone number) := by
  induction numbers with
  | nil => rfl
  | cons other numbers ih =>
    by_cases hself : other = number
    · rw [hself, List.erase_cons_head, renumbered_cons hkept, List.erase_cons_head]
    · rw [List.erase_cons_tail (by simpa using hself)]
      by_cases hother : other ∈ gone
      · rw [renumbered_cons_of_mem hother, renumbered_cons_of_mem hother, ih]
      · have hne := renumber_ne hother hkept hself
        rw [renumbered_cons hother, renumbered_cons hother, List.erase_cons_tail (by simpa using hne), ih]

end

/-! ## Two connections -/

end Connection

/-- What there is to a call, whatever its number: the request, whether it was sent, and what the waiting ended with. -/
def Call.gist (call : Call) : Wire.Request.Payload × Bool × Option (Except CallError (Option Wire.Event.Payload)) :=
  (call.payload, call.sent, call.outcome.map (Except.map (·.payload)))

/-- What is seen of a stream before it is read: which it is, and whether it has ended. -/
def Incoming.front (incoming : Incoming) : StreamId × Bool :=
  (incoming.stream, incoming.ended)

namespace Connection

theorem gist_failCall (c : Connection) (number : UInt64) (call : Call) : (c.failCall number call).gist =
    if number ∈ c.pending then (call.gist.1, call.gist.2.1, some (.error .connectionClosed)) else call.gist := by
  unfold failCall
  split <;> rfl

/-- A connection with the calls and the stream of another. -/
def carrying (c d : Connection) : Connection :=
  { c with nextNumber := d.nextNumber, pending := d.pending, calls := d.calls, incoming := d.incoming }

@[simp] theorem carrying_state (c d : Connection) : (c.carrying d).state = c.state := rfl

@[simp] theorem carrying_closed (c d : Connection) : (c.carrying d).closed = c.closed := rfl

@[simp] theorem carrying_dials (c d : Connection) : (c.carrying d).dials = c.dials := rfl

@[simp] theorem carrying_leaving (c d : Connection) : (c.carrying d).leaving = c.leaving := rfl

@[simp] theorem carrying_attempts (c d : Connection) : (c.carrying d).attempts = c.attempts := rfl

/-- The second connection is the first without the calls of some numbers. So many calls have begun in the first. -/
structure Beside (gone : List UInt64) (count : Nat) (c d : Connection) : Prop where
  rest : d = c.carrying d
  counted : c.nextNumber = nth count
  next : d.nextNumber = UInt64.ofNat (keptBelow gone (count + 1))
  pending : d.pending = renumbered gone c.pending
  calls : ∀ number ∉ gone, (Assoc.find? (renumber gone number) d.calls).map Call.gist
    = (Assoc.find? number c.calls).map Call.gist
  incoming : d.incoming.map Incoming.front = c.incoming.map Incoming.front

namespace Beside

variable {gone : List UInt64} {count : Nat} {c d : Connection}

theorem setup_eq (hbeside : Beside gone count c d) : d.setup = c.setup := by
  rw [hbeside.rest]
  rfl

theorem state_eq (hbeside : Beside gone count c d) : d.state = c.state := by
  rw [hbeside.rest]
  rfl

theorem closed_eq (hbeside : Beside gone count c d) : d.closed = c.closed := by
  rw [hbeside.rest]
  rfl

theorem writer_eq (hbeside : Beside gone count c d) : d.writer = c.writer := by
  rw [hbeside.rest]
  rfl

theorem dials_eq (hbeside : Beside gone count c d) : d.dials = c.dials := by
  rw [hbeside.rest]
  rfl

theorem mem_pending (hbeside : Beside gone count c d) {number : UInt64} (hkept : number ∉ gone) :
    renumber gone number ∈ d.pending ↔ number ∈ c.pending := by
  rw [hbeside.pending]
  exact mem_renumbered hkept

/-- A call that is not left out is in both, and differs at most in the number of the message that ended its waiting. -/
theorem found (hbeside : Beside gone count c d) {number : UInt64} (hkept : number ∉ gone) {call : Call}
    (hfound : Assoc.find? number c.calls = some call) :
    ∃ outcome, Assoc.find? (renumber gone number) d.calls = some { call with outcome } ∧
      outcome.map (Except.map (·.payload)) = call.outcome.map (Except.map (·.payload)) := by
  have hgist := hbeside.calls number hkept
  rw [hfound, Option.map_some, Option.map_eq_some_iff] at hgist
  obtain ⟨⟨payload, sent, outcome⟩, hfound', hsame⟩ := hgist
  simp only [Call.gist, Prod.mk.injEq] at hsame
  obtain ⟨rfl, rfl, houtcome⟩ := hsame
  exact ⟨outcome, hfound', houtcome⟩

theorem missing (hbeside : Beside gone count c d) {number : UInt64} (hkept : number ∉ gone)
    (hnone : Assoc.find? number c.calls = none) : Assoc.find? (renumber gone number) d.calls = none := by
  have hgist := hbeside.calls number hkept
  rw [hnone, Option.map_none, Option.map_eq_none_iff] at hgist
  exact hgist

/-! ## What keeps them beside each other -/

/-- A step that looks at no call and at no stream, and does nothing to them, is the same for both. -/
theorem carried (hbeside : Beside gone count c d) (step : Connection → Connection × List Effect)
    (hstep : ∀ c d, step (c.carrying d) = ((step c).1.carrying d, (step c).2)) :
    Beside gone count (step c).1 (step d).1 ∧ (step d).2 = (step c).2 := by
  have hother : step d = ((step c).1.carrying d, (step c).2) := by
    rw [← hstep c d, ← hbeside.rest]
  have hself : (step c).1 = (step c).1.carrying c := congrArg Prod.fst (hstep c c)
  rw [hother]
  refine ⟨⟨rfl, ?_, hbeside.next, ?_, fun number hkept => ?_, ?_⟩, rfl⟩
  · rw [hself]
    exact hbeside.counted
  · rw [hself]
    exact hbeside.pending
  · rw [hself]
    exact hbeside.calls number hkept
  · rw [hself]
    exact hbeside.incoming

theorem withIncoming (hbeside : Beside gone count c d) (incoming incoming' : Option Incoming)
    (hfront : incoming'.map Incoming.front = incoming.map Incoming.front) :
    Beside gone count { c with incoming } { d with incoming := incoming' } where
  rest := by rw [hbeside.rest]; rfl
  counted := hbeside.counted
  next := hbeside.next
  pending := hbeside.pending
  calls := hbeside.calls
  incoming := hfront

theorem forget (hbeside : Beside gone count c d) {number : UInt64} (hkept : number ∉ gone) :
    Beside gone count (c.forget number) (d.forget (renumber gone number)) where
  rest := by rw [Connection.forget, hbeside.rest]; rfl
  counted := hbeside.counted
  next := hbeside.next
  pending := by simp only [Connection.forget, hbeside.pending, renumbered_erase _ hkept]
  calls := hbeside.calls
  incoming := hbeside.incoming

theorem forget_gone (hbeside : Beside gone count c d) {number : UInt64} (hgone : number ∈ gone) :
    Beside gone count (c.forget number) d where
  rest := hbeside.rest
  counted := hbeside.counted
  next := hbeside.next
  pending := by simp only [Connection.forget, hbeside.pending, renumbered_erase_of_mem _ hgone]
  calls := hbeside.calls
  incoming := hbeside.incoming

/-- The calls may change in both, as long as those that are not left out differ in their numbers alone. -/
theorem withCalls (hbeside : Beside gone count c d) {calls calls' : List (UInt64 × Call)}
    (hcalls : ∀ number ∉ gone, (Assoc.find? (renumber gone number) calls').map Call.gist
      = (Assoc.find? number calls).map Call.gist) : Beside gone count { c with calls } { d with calls := calls' } where
  rest := by rw [hbeside.rest]; rfl
  counted := hbeside.counted
  next := hbeside.next
  pending := hbeside.pending
  calls := hcalls
  incoming := hbeside.incoming

theorem dropCall (hbeside : Beside gone count c d) {number : UInt64} (hkept : number ∉ gone) :
    Beside gone count (c.dropCall number) (d.dropCall (renumber gone number)) := by
  refine hbeside.withCalls fun other hother => ?_
  rw [Assoc.find?_erase, Assoc.find?_erase]
  by_cases hself : other = number
  · rw [if_pos hself, if_pos (by rw [hself])]
  · rw [if_neg hself, if_neg (renumber_ne hother hkept hself)]
    exact hbeside.calls other hother

/-- What is done to a call that is left out is nothing to the other connection. -/
theorem dropCall_gone (hbeside : Beside gone count c d) {number : UInt64} (hgone : number ∈ gone) :
    Beside gone count (c.dropCall number) d := by
  refine @withCalls _ _ _ _ hbeside (Assoc.erase number c.calls) d.calls fun other hother => ?_
  have hne : other ≠ number := fun heq => hother (heq ▸ hgone)
  rw [Assoc.find?_erase, if_neg hne]
  exact hbeside.calls other hother

/-- Both have a call that differs in its number alone. -/
theorem put (hbeside : Beside gone count c d) {number : UInt64} (hkept : number ∉ gone) (call twin : Call)
    (hgist : twin.gist = call.gist) :
    Beside gone count { c with calls := Assoc.insert number call c.calls }
      { d with calls := Assoc.insert (renumber gone number) twin d.calls } := by
  refine hbeside.withCalls fun other hother => ?_
  by_cases hself : other = number
  · rw [hself, Assoc.find?_insert_self, Assoc.find?_insert_self, Option.map_some, Option.map_some, hgist]
  · rw [Assoc.find?_insert_of_ne hself, Assoc.find?_insert_of_ne (renumber_ne hother hkept hself)]
    exact hbeside.calls other hother

theorem put_gone (hbeside : Beside gone count c d) {number : UInt64} (hgone : number ∈ gone) (call : Call) :
    Beside gone count { c with calls := Assoc.insert number call c.calls } d := by
  refine @withCalls _ _ _ _ hbeside (Assoc.insert number call c.calls) d.calls fun other hother => ?_
  have hne : other ≠ number := fun heq => hother (heq ▸ hgone)
  rw [Assoc.find?_insert_of_ne hne]
  exact hbeside.calls other hother

theorem calls_failPending (hbeside : Beside gone count c d) {number : UInt64} (hkept : number ∉ gone) :
    (Assoc.find? (renumber gone number) d.failPending).map Call.gist
      = (Assoc.find? number c.failPending).map Call.gist := by
  rw [find?_failPending, find?_failPending]
  simp only [Option.map_map, Function.comp_def, gist_failCall, hbeside.mem_pending hkept]
  -- What becomes of a call depends on its gist, which is the same in both.
  have hgist := congrArg (Option.map fun gist : Wire.Request.Payload × Bool × _ =>
    if number ∈ c.pending then (gist.1, gist.2.1, some (.error .connectionClosed)) else gist)
    (hbeside.calls number hkept)
  simpa only [Option.map_map, Function.comp_def] using hgist

/-- Closing ends the same calls in both. -/
theorem close (hbeside : Beside gone count c d) (error : Option String) :
    Beside gone count (c.close error).1 (d.close error).1 ∧ (d.close error).2 = (c.close error).2 := by
  unfold Connection.close
  rw [hbeside.closed_eq]
  split
  · exact ⟨hbeside, rfl⟩
  · refine ⟨⟨?_, hbeside.counted, hbeside.next, rfl, fun number hkept => ?_, hbeside.incoming⟩, rfl⟩
    · rw [hbeside.rest]
      rfl
    · exact hbeside.calls_failPending hkept

end Beside

end DebugBridge.Connection
