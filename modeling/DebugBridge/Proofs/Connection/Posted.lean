import DebugBridge.Proofs.Connection.Ledger
import DebugBridge.Proofs.Connection.Line

/-!
# Requests in the order of their numbers

As long as the writer takes the first in line, requests are written in the order of their numbers. Of the requests that
were made, those up to some point have left the line, and were written unless they were too large or the writer failed,
and those from there on still wait.
-/

namespace DebugBridge.Connection

/-- Requests with the numbers that a connection gives to its calls. -/
def numbered (payloads : List Wire.Request.Payload) : List Wire.Request :=
  payloads.mapIdx fun i payload => { number := nth i, payload := some payload }

/-! ## Numbers -/

section

variable {asks : List Wire.Request.Payload} {payload : Wire.Request.Payload} {number : UInt64} {request : Wire.Request}
  {first : Nat}

theorem numbered_append_singleton (asks : List Wire.Request.Payload) (payload : Wire.Request.Payload) :
    numbered (asks ++ [payload]) = numbered asks ++ [{ number := nth asks.length, payload := some payload }] := by
  simp [numbered, List.mapIdx_append]

@[simp] theorem length_numbered (asks : List Wire.Request.Payload) : (numbered asks).length = asks.length :=
  List.length_mapIdx

theorem getElem?_numbered (asks : List Wire.Request.Payload) (i : Nat) :
    (numbered asks)[i]? = asks[i]?.map fun payload => { number := nth i, payload := some payload } :=
  List.getElem?_mapIdx

theorem mem_drop_numbered : request ∈ (numbered asks).drop first ↔
    ∃ i payload, first ≤ i ∧ asks[i]? = some payload ∧ request = { number := nth i, payload := some payload } := by
  rw [List.mem_iff_getElem?]
  simp only [List.getElem?_drop, getElem?_numbered, Option.map_eq_some_iff]
  constructor
  · rintro ⟨i, payload, hfound, rfl⟩
    exact ⟨first + i, payload, Nat.le_add_right _ _, hfound, rfl⟩
  · rintro ⟨i, payload, hle, hfound, rfl⟩
    exact ⟨i - first, payload, by rwa [Nat.add_sub_cancel' hle], by rw [Nat.add_sub_cancel' hle]⟩

theorem le_of_nth_le {i j : Nat} (hi : i + 1 < UInt64.size) (hj : j + 1 < UInt64.size) (hle : nth i ≤ nth j) :
    i ≤ j := by
  rw [UInt64.le_iff_toNat_le, nth, nth, UInt64.toNat_ofNat_of_lt' hi, UInt64.toNat_ofNat_of_lt' hj] at hle
  omega

/-- Before the counter comes round, the numbers ascend. -/
theorem ascending_numbered (hbound : asks.length < UInt64.size) :
    (numbered asks).Pairwise (·.number < ·.number) := by
  rw [List.pairwise_iff_getElem]
  intro i j hi hj hlt
  simp only [length_numbered] at hi hj
  simp only [numbered, List.getElem_mapIdx]
  rw [UInt64.lt_iff_toNat_lt, nth, nth, UInt64.toNat_ofNat_of_lt' (by omega), UInt64.toNat_ofNat_of_lt' (by omega)]
  omega

end

/-! ## The line as a whole -/

/-- What has become of some requests, in the order in which they were made. Those before the first in line were written
or were lost, and the others wait. As long as the connection is there, and the writer does not fail, only those are lost
that are too large. -/
structure Posted (c : Connection) (asks : List Wire.Request.Payload) (first : Nat) (sent : List Wire.Request)
    (clean : Prop) : Prop where
  orderly : Orderly c
  manned : Manned c
  next : c.nextNumber = nth asks.length
  early : c.state = .connecting → asks = []
  first_le : first ≤ asks.length
  waiting : ∀ number payload,
    c.Unsent number payload ↔ { number, payload := some payload } ∈ (numbered asks).drop first
  sublist : sent.Sublist ((numbered asks).take first)
  whole : clean → c.state = .connected → sent = ((numbered asks).take first).filter c.fits

section

variable {c : Connection} {asks : List Wire.Request.Payload} {first : Nat} {sent : List Wire.Request} {clean : Prop}
  {action : Action}

theorem Posted.fresh (setup : ConnectionSetup) (clean : Prop) : Posted { setup } [] 0 [] clean where
  orderly := .fresh setup
  manned := ⟨fun _ => rfl, fun h => by cases h⟩
  next := rfl
  early _ := rfl
  first_le := Nat.le_refl _
  waiting number payload := by simp [Unsent, numbered]
  sublist := .slnil
  whole _ _ := rfl

/-- Before the connection was there nothing was made, and a connection comes about only once. -/
theorem state_before (c : Connection) (action : Action) :
    ((c.step action).1.state = .connecting → c.state = .connecting) ∧
      ((c.step action).1.state = .connected → c.state = .connected ∨ c.state = .connecting) := by
  cases step_stateStep c action with
  | stays state closed =>
    rw [state]
    exact ⟨id, .inl⟩
  | connects waited wasOpen state closed => exact ⟨fun _ => waited, fun _ => .inr waited⟩
  | closes wasOpen closed ended =>
    constructor
    all_goals
      intro h
      rw [h] at ended
      cases ended
  | runsOut ran state closed =>
    rw [state]
    simp

/-- Whatever a step does, it is all the same for requests that were never made. -/
theorem Posted.whole_step (hposted : Posted c asks first sent clean) (hclean : clean)
    (hconnected : (c.step action).1.state = .connected) : sent = ((numbered asks).take first).filter c.fits := by
  rcases (state_before c action).2 hconnected with hbefore | hearly
  · exact hposted.whole hclean hbefore
  · have hsublist := hposted.sublist
    rw [hposted.early hearly] at hsublist ⊢
    simpa [numbered] using hsublist

theorem fits_step (c : Connection) (action : Action) : (c.step action).1.fits = c.fits := by
  funext request
  unfold fits
  rw [(step_callStep c action).setup_eq]

/-- The line stays as it is. -/
theorem Posted.waits (hposted : Posted c asks first sent clean) (hissue : ∀ payload, action ≠ .issue payload)
    (hafter : Orderly (c.step action).1) (hmanned : Manned (c.step action).1) (hwaits : Waits c (c.step action)) :
    Posted (c.step action).1 asks first sent clean where
  orderly := hafter
  manned := hmanned
  next := by
    rw [nextNumber_eq hissue]
    exact hposted.next
  early h := hposted.early ((state_before c action).1 h)
  first_le := hposted.first_le
  waiting number payload := (hwaits.same number payload).trans (hposted.waiting number payload)
  sublist := hposted.sublist
  whole hclean hconnected := by
    rw [fits_step]
    exact hposted.whole_step hclean hconnected

/-- The first in line leaves it. -/
theorem Posted.leaves (hposted : Posted c asks first sent clean) (hbound : asks.length < UInt64.size)
    (hother : action.byOwner = false) (hafter : Orderly (c.step action).1) {number : UInt64}
    {payload : Wire.Request.Payload} (hleaves : Leaves c number payload (c.step action))
    (hfirst : ∀ other asked, c.Unsent other asked → number ≤ other)
    (hwritten : clean → (c.step action).1.state = .connected → writes (c.step action).2 =
      if c.fits { number, payload := some payload } then [frameOf { number, payload := some payload }] else []) :
    ∃ more, writes (c.step action).2 = more.map frameOf ∧
      Posted (c.step action).1 asks (first + 1) (sent ++ more) clean := by
  obtain ⟨i, asked, hle, hfound, heq⟩ := mem_drop_numbered.1 ((hposted.waiting number payload).1 hleaves.waited)
  cases heq
  obtain ⟨hi, -⟩ := List.getElem?_eq_some_iff.1 hfound
  -- Nobody is before the first in line.
  obtain rfl : first = i := by
    have hhead : asks[first]? = some asks[first] := List.getElem?_eq_getElem (by omega)
    have hunsent := (hposted.waiting (nth first) _).2 (mem_drop_numbered.2 ⟨first, _, Nat.le_refl _, hhead, rfl⟩)
    exact Nat.le_antisymm hle (le_of_nth_le (by omega) (by omega) (hfirst _ _ hunsent))
  have htake : (numbered asks).take (first + 1)
      = (numbered asks).take first ++ [{ number := nth first, payload := some payload }] := by
    rw [List.take_add_one, getElem?_numbered, hfound]
    rfl
  have hwaiting : ∀ other asked, (c.step action).1.Unsent other asked ↔
      { number := other, payload := some asked } ∈ (numbered asks).drop (first + 1) := by
    intro other asked
    rw [hleaves.others, hposted.waiting, mem_drop_numbered, mem_drop_numbered]
    constructor
    · rintro ⟨⟨i, held, hle, hheld, heq⟩, hne⟩
      refine ⟨i, held, Nat.lt_of_le_of_ne hle ?_, hheld, heq⟩
      rintro rfl
      cases heq
      exact hne rfl
    · rintro ⟨i, held, hlt, hheld, heq⟩
      refine ⟨⟨i, held, by omega, hheld, heq⟩, ?_⟩
      obtain ⟨hheld, -⟩ := List.getElem?_eq_some_iff.1 hheld
      cases heq
      intro hsame
      have := nth_injective (by omega) (by omega) hsame
      omega
  have hrest : ∀ more : List Wire.Request, more.Sublist [{ number := nth first, payload := some payload }] →
      (clean → (c.step action).1.state = .connected →
        more = [{ number := nth first, payload := some payload }].filter c.fits) →
      Posted (c.step action).1 asks (first + 1) (sent ++ more) clean := by
    intro more hmore hwhole
    refine {
      orderly := hafter
      manned := hposted.manned.step hposted.orderly hother
      next := ?_
      early := fun h => hposted.early ((state_before c action).1 h)
      first_le := hi
      waiting := hwaiting
      sublist := ?_
      whole := fun hclean hconnected => ?_ }
    · rw [nextNumber_eq (by rintro _ rfl; cases hother)]
      exact hposted.next
    · rw [htake]
      exact hposted.sublist.append hmore
    · rw [fits_step, htake, List.filter_append, ← hwhole hclean hconnected]
      congr 1
      exact hposted.whole_step hclean hconnected
  rcases hleaves.written with hnone | ⟨hfits, hwrote⟩
  · refine ⟨[], hnone, hrest [] (List.nil_sublist _) fun hclean hconnected => ?_⟩
    have hlarge := hwritten hclean hconnected
    rw [hnone] at hlarge
    split at hlarge
    · cases hlarge
    · next hnot => simpa using hnot
  · exact ⟨[_], hwrote, hrest _ (List.Sublist.refl _) fun _ _ => by simp [hfits]⟩

theorem Posted.orderly_step (hposted : Posted c asks first sent clean) (hother : action.byOwner = false) :
    Orderly (c.step action).1 := by
  rcases hposted.orderly.step hother with hsteady | ⟨-, hends⟩
  · exact hsteady.orderly
  · exact hends.orderly

/-- A step of the connection writes at most the request that is first in line. -/
theorem Posted.step (hposted : Posted c asks first sent clean) (hbound : asks.length < UInt64.size)
    (hother : action.byOwner = false) (hturn : c.InTurn action)
    (hclean : clean → ∀ number cause, action ≠ .transmitFailed number cause) :
    ∃ first more, writes (c.step action).2 = more.map frameOf ∧
      Posted (c.step action).1 asks first (sent ++ more) clean := by
  have hafter := hposted.orderly_step hother
  have hstays : Waits c (c.step action) → ∃ first more, writes (c.step action).2 = more.map frameOf ∧
      Posted (c.step action).1 asks first (sent ++ more) clean := by
    intro hwaits
    refine ⟨first, [], hwaits.silent, ?_⟩
    rw [List.append_nil]
    exact hposted.waits (by rintro _ rfl; cases hother) hafter (hposted.manned.step hposted.orderly hother) hwaits
  by_cases htransmit : ∃ number, action = .transmit number
  · obtain ⟨number, rfl⟩ := htransmit
    rcases c.transmit_cases number with hwaits | ⟨payload, hleaves, hwritten⟩
    · exact hstays hwaits
    · refine ⟨first + 1, hposted.leaves hbound hother hafter hleaves (fun _ _ => InTurn.le hturn rfl)
        fun _ hconnected => hwritten ?_⟩
      exact hposted.manned.writer ((step_ofCalls c (rfl : (Action.transmit number).ofCall = true)).state.symm.trans hconnected)
  by_cases hfailed : ∃ number cause, action = .transmitFailed number cause
  · obtain ⟨number, cause, rfl⟩ := hfailed
    rcases c.transmitFailed_cases number cause with hwaits | ⟨payload, hleaves⟩
    · exact hstays hwaits
    · exact ⟨first + 1, hposted.leaves hbound hother hafter hleaves (fun _ _ => InTurn.le hturn rfl)
        fun h _ => absurd rfl (hclean h _ _)⟩
  · exact hstays (step_waits hother (fun number h => htransmit ⟨number, h⟩) fun number cause h =>
      hfailed ⟨number, cause, h⟩)

/-- The dial begins. -/
theorem Posted.dial (hposted : Posted c asks first sent clean) (hnone : c.dials = [])
    (hearly : c.state = .connecting ∨ c.closed = true) : Posted c.dial.1 asks first sent clean := by
  have hafter : Orderly c.dial.1 := by
    rcases hposted.orderly.dial hnone hearly with ⟨horderly, -, -, -⟩ | hends
    · exact horderly
    · exact hends.orderly
  have hcounted : Manned { c with dialed := c.dialed + 1 } := hposted.manned.congr rfl rfl rfl (.inl rfl)
  have hmanned : Manned c.dial.1 := by
    unfold Connection.dial
    dsimp only
    split
    · exact hcounted
    · exact attempt_manned hcounted _ _
  exact @Posted.waits _ _ _ _ _ .dial hposted (by simp) hafter hmanned (dial_quiet c).waits

/-- A call begins, and is the last in line. -/
theorem Posted.issue (hposted : Posted c asks first sent clean) (hbound : asks.length + 1 < UInt64.size)
    (hconnected : c.state = .connected) (payload : Wire.Request.Payload)
    (hafter : Orderly (c.step (.issue payload)).1) :
    Posted (c.step (.issue payload)).1 (asks ++ [payload]) first sent clean := by
  have hissued : (c.step (.issue payload)).1 = { c with
      nextNumber := c.nextNumber + 1
      pending := c.pending ++ [c.nextNumber]
      calls := Assoc.insert c.nextNumber { payload } c.calls } := by
    simp [Connection.step, Connection.issue, hconnected]
  rw [hissued] at hafter ⊢
  have htake : (numbered (asks ++ [payload])).take first = (numbered asks).take first := by
    rw [numbered_append_singleton, List.take_append_of_le_length (by simpa using hposted.first_le)]
  refine {
    orderly := hafter
    manned := hposted.manned.congr rfl rfl rfl (.inl rfl)
    next := ?_
    early := fun h => by rw [hconnected] at h; cases h
    first_le := by simpa using Nat.le_succ_of_le hposted.first_le
    waiting := fun number asked => ?_
    sublist := htake ▸ hposted.sublist
    whole := fun hclean _ => htake ▸ hposted.whole hclean hconnected }
  · rw [List.length_append, List.length_singleton, ← nth_succ, ← hposted.next]
  · rw [unsent_insert rfl, hposted.next, numbered_append_singleton,
      List.drop_append_of_le_length (by simpa using hposted.first_le), List.mem_append, List.mem_singleton,
      ← hposted.waiting]
    by_cases hself : number = nth asks.length
    · -- The number was given to nobody before.
      have hfresh : ¬ c.Unsent number asked := by
        rw [hposted.waiting, mem_drop_numbered]
        rintro ⟨i, held, -, hheld, heq⟩
        obtain ⟨hi, -⟩ := List.getElem?_eq_some_iff.1 hheld
        cases heq
        have := nth_injective (by omega) hbound hself
        omega
      simp [hself ▸ hfresh, hself, eq_comm]
    · simp [hself]

end

end DebugBridge.Connection
