import DebugBridge.Proofs.Connection.Dialling
import DebugBridge.Proofs.Connection.Shutdown
import DebugBridge.Rehearsal.World

/-!
# Dialling against the clock

A dial whose attempts fail rests for the same time after each of them but the last. Here the first dial of a rehearsal is
followed against the clock: `standing` says where it stands at a time, and letting a millisecond pass takes it from where
it stood to where it should stand. With what `Dialling` says of any run this is what a dial is: it tries until an attempt
succeeds, and so many times at most (`a_dial_tries_until_it_succeeds`).
-/

namespace DebugBridge.Rehearsal

open Connection (failures)

namespace World

/-! ## Things that happen one after another -/

/-- So many things happen by themselves, one after another. -/
inductive Leads : Nat → World → World → Prop
  | here (w : World) : Leads 0 w w
  | next {count : Nat} {w w' w'' : World} (first : w.advance? = some w') (later : Leads count w' w'') :
      Leads (count + 1) w w''

theorem Leads.settleWithin {count : Nat} {w w' : World} (hleads : Leads count w w') (hrest : w'.advance? = none)
    {most : Nat} (hmost : count ≤ most) : settleWithin most w = w' := by
  induction hleads generalizing most with
  | here w =>
    cases most with
    | zero => rfl
    | succ most => rw [World.settleWithin, hrest]
  | next first later ih =>
    obtain ⟨most, rfl⟩ : ∃ more, most = more + 1 := ⟨most - 1, by omega⟩
    rw [World.settleWithin, first]
    exact ih hrest (by omega)

section

variable (setup : ConnectionSetup) (root : Option String) (files : FileTree)

/-! ## Where the first dial stands -/

/-- A world in which the first dial is under way. -/
def trying (clock : Nat) (causes : List String) (stage : Dial) (openings : List Opening)
    (alarms : List (Alarm × Nat)) : World where
  session := { connection := { setup, dialed := 1, dials := [(0, stage)] }, root, files }
  inbox := (failures causes).foldl Inbox.push (.new setup.eventChannelSize)
  clock := clock
  alarms := alarms
  dialOpenings := [(0, openings)]
  callers := [(0, .dial 0)]

/-- A world in which the first dial has opened a stream, which is still to be installed. -/
def attaching (clock : Nat) (causes : List String) (openings : List Opening) : World :=
  { trying setup root files clock causes (.attaching 0) openings [] with streams := 1, newest := some 0 }

/-- A world in which the first dial has succeeded. -/
def succeeded (clock : Nat) (causes : List String) (openings : List Opening) : World where
  session := {
    connection := { setup, state := .connected, writer := some 0, incoming := some { stream := 0 }, dialed := 1 }
    root, files }
  inbox := (failures causes ++ [Notification.connected]).foldl Inbox.push (.new setup.eventChannelSize)
  clock := clock
  dialOpenings := [(0, openings)]
  streams := 1
  newest := some 0
  finished := [(0, .connected (.ok ()))]

/-- A world in which the first dial has run out of attempts. -/
def exhausted (clock : Nat) (causes : List String) (cause : String) (openings : List Opening) : World where
  session := { connection := { setup, state := .failed, dialed := 1 }, root, files }
  inbox := (failures (causes ++ [cause])).foldl Inbox.push (.new setup.eventChannelSize)
  clock := clock
  dialOpenings := [(0, openings)]
  finished := [(0, .connected (.error (.connectFailed (max 1 setup.connectAttempts.toNat) cause)))]

variable {setup root files} {clock : Nat} {causes : List String} {cause : String} {openings : List Opening}

theorem begin_connect (setup : ConnectionSetup) (openings : List Opening) (root : Option String) (files : FileTree) :
    (World.new setup openings root files).begin 0 .connect = trying setup root files 0 [] (.opening 1) openings [] := by
  rfl

/-- An attempt fails that is not the last one. -/
theorem advance?_refused (hmore : causes.length + 1 < max 1 setup.connectAttempts.toNat) :
    (trying setup root files clock causes (.opening (causes.length + 1)) (.fails cause :: openings) []).advance?
      = some (trying setup root files clock (causes ++ [cause]) (.resting (causes.length + 1)) openings []) := by
  have hattempts : ∀ c : Connection, c.setup = setup → c.attempts = max 1 setup.connectAttempts.toNat := by
    rintro c rfl
    rfl
  generalize max 1 setup.connectAttempts.toNat = limit at hmore hattempts
  simp [advance?, trying, advanceReader?, advanceLeaving?, advanceDial?, openStream, Assoc.find?, Assoc.insert, link,
    Debugger.Session.link, Connection.refused, hattempts, hmore, Connection.setDial, Debugger.Session.absorb, after, note,
    Connection.failures_concat]

/-- The last attempt fails. -/
theorem advance?_lastRefused (hlast : causes.length + 1 = max 1 setup.connectAttempts.toNat) :
    (trying setup root files clock causes (.opening (causes.length + 1)) (.fails cause :: openings) []).advance?
      = some (exhausted setup root files clock causes cause openings) := by
  simp [advance?, trying, exhausted, advanceReader?, advanceLeaving?, advanceDial?, openStream, Assoc.find?, Assoc.insert,
    link, Debugger.Session.link, Connection.refused, Connection.attempts, hlast, Connection.endDial, Assoc.erase,
    Debugger.Session.absorb, after, note, stepOf?, finish, Connection.failures_concat]

/-- An alarm is set for the end of a rest. -/
theorem advance?_alarmless (attempt : Nat) :
    (trying setup root files clock causes (.resting attempt) openings []).advance?
      = some (trying setup root files clock causes (.resting attempt) openings
          [(.retry 0, clock + setup.retryDelayMs.toNat)]) := by
  simp [advance?, trying, advanceReader?, advanceLeaving?, advanceDial?]

/-- A rest lasts until its alarm rings. -/
theorem advance?_resting {time : Nat} (hbefore : clock < time) (attempt : Nat) :
    (trying setup root files clock causes (.resting attempt) openings [(.retry 0, time)]).advance? = none := by
  simp [advance?, trying, advanceReader?, advanceLeaving?, advanceDial?, advanceAlarm?, advanceQueue?,
    Nat.not_le.2 hbefore]

/-- The alarm rings. -/
theorem advance?_ringing {time : Nat} (hdue : time ≤ clock) (attempt : Nat) :
    (trying setup root files clock causes (.resting attempt) openings [(.retry 0, time)]).advance?
      = some (trying setup root files clock causes (.opening (attempt + 1)) openings []) := by
  simp [advance?, trying, advanceReader?, advanceLeaving?, advanceDial?, advanceAlarm?, hdue, ring, link,
    Debugger.Session.link, Connection.retry, Connection.attempt, Connection.setDial, Assoc.find?, Assoc.insert,
    Debugger.Session.absorb, after]

/-- An attempt opens a stream. -/
theorem advance?_opened (attempt : Nat) (hopens : ∀ first ∈ openings.head?, first = .opens) :
    (trying setup root files clock causes (.opening attempt) openings []).advance?
      = some (attaching setup root files clock causes openings.tail) := by
  cases openings with
  | nil =>
    simp [advance?, trying, attaching, advanceReader?, advanceLeaving?, advanceDial?, openStream, openStream.opens,
      Assoc.find?, Assoc.insert, link, Debugger.Session.link, Connection.opened, Connection.setDial,
      Debugger.Session.absorb, after]
  | cons first openings =>
    obtain rfl : first = .opens := hopens first rfl
    simp [advance?, trying, attaching, advanceReader?, advanceLeaving?, advanceDial?, openStream, openStream.opens,
      Assoc.find?, Assoc.insert, link, Debugger.Session.link, Connection.opened, Connection.setDial,
      Debugger.Session.absorb, after]

/-- The stream is installed. -/
theorem advance?_attaching :
    (attaching setup root files clock causes openings).advance? = some (succeeded setup root files clock causes openings) := by
  simp [advance?, trying, attaching, succeeded, advanceReader?, advanceLeaving?, advanceDial?, Assoc.find?, link,
    Debugger.Session.link, Connection.attach, Connection.endDial, Assoc.erase, Debugger.Session.absorb, after, note, stepOf?,
    finish, Assoc.insert]

theorem advance?_succeeded : (succeeded setup root files clock causes openings).advance? = none := by
  have hnothing : Wire.next setup.maxFrameBytes Wire.Event.decode [] = .wait := rfl
  simp [advance?, succeeded, advanceReader?, advanceLeaving?, advanceAlarm?, advanceQueue?, hnothing]

theorem advance?_exhausted : (exhausted setup root files clock causes cause openings).advance? = none := by
  simp [advance?, exhausted, advanceReader?, advanceLeaving?, advanceAlarm?, advanceQueue?]

/-! ## Where the first dial stands at a time -/

/-- Where the first dial stands at a time after some attempts have failed, when the next one is due. -/
def standing (setup : ConnectionSetup) (root : Option String) (files : FileTree) (clock : Nat) (done : List String) :
    List Opening → World
  | .fails cause :: rest =>
    if done.length + 1 < max 1 setup.connectAttempts.toNat then
      let time := (done.length + 1) * setup.retryDelayMs.toNat
      if time ≤ clock then standing setup root files clock (done ++ [cause]) rest
      else trying setup root files clock (done ++ [cause]) (.resting (done.length + 1)) rest [(.retry 0, time)]
    else exhausted setup root files clock done cause rest
  | openings => succeeded setup root files clock done openings.tail

theorem standing_of_opens {done : List String} (hopens : ∀ first ∈ openings.head?, first = .opens) :
    standing setup root files clock done openings = succeeded setup root files clock done openings.tail := by
  cases openings with
  | nil => rfl
  | cons first openings =>
    obtain rfl : first = .opens := hopens first rfl
    rfl

@[simp] theorem standing_clock (done : List String) : (standing setup root files clock done openings).clock = clock := by
  fun_induction standing with
  | case1 done cause rest hmore time hdue ih => exact ih
  | _ => rfl

/-- Attempts that have failed in time, and are not all, are behind. -/
theorem standing_append {done : List String}
    (hfew : done.length + causes.length < max 1 setup.connectAttempts.toNat)
    (hdue : (done.length + causes.length) * setup.retryDelayMs.toNat ≤ clock) :
    standing setup root files clock done (causes.map .fails ++ openings)
      = standing setup root files clock (done ++ causes) openings := by
  induction causes generalizing done with
  | nil => simp
  | cons cause causes ih =>
    rw [List.length_cons] at hfew hdue
    have hlength : (done ++ [cause]).length = done.length + 1 := by simp
    have hnow : (done.length + 1) * setup.retryDelayMs.toNat ≤ clock :=
      Nat.le_trans (Nat.mul_le_mul_right _ (by omega)) hdue
    have hrest := @ih (done ++ [cause]) (by omega) (by rw [hlength, Nat.add_right_comm, Nat.add_assoc]; exact hdue)
    rw [List.append_assoc, List.singleton_append] at hrest
    rw [List.map_cons, List.cons_append, standing, if_pos (by omega)]
    dsimp only
    rw [if_pos hnow, hrest]

/-- By itself nothing more happens at that time. -/
theorem advance?_standing (done : List String) : (standing setup root files clock done openings).advance? = none := by
  fun_induction standing with
  | case1 done cause rest hmore time hdue ih => exact ih
  | case2 done cause rest hmore time hdue => exact advance?_resting (Nat.not_le.1 hdue) _
  | case3 done cause rest hlast => exact advance?_exhausted
  | case4 done openings hopens => exact advance?_succeeded

theorem leads_of_opens {done : List String} (hopens : ∀ first ∈ openings.head?, first = .opens) :
    Leads 2 (trying setup root files clock done (.opening (done.length + 1)) openings [])
      (standing setup root files clock done openings) := by
  rw [standing_of_opens hopens]
  exact .next (advance?_opened _ hopens) (.next advance?_attaching (.here _))

/-- When an attempt is due the dial goes on to where it then stands. -/
theorem leads_standing {done : List String} (hhangs : .hangs ∉ openings)
    (hfew : done.length < max 1 setup.connectAttempts.toNat) (hdue : clock = done.length * setup.retryDelayMs.toNat) :
    ∃ count ≤ 3 * (max 1 setup.connectAttempts.toNat - done.length),
      Leads count (trying setup root files clock done (.opening (done.length + 1)) openings [])
        (standing setup root files clock done openings) := by
  induction openings generalizing done with
  | nil => exact ⟨2, by omega, leads_of_opens (by simp)⟩
  | cons first openings ih =>
    cases first with
    | hangs => simp at hhangs
    | opens => exact ⟨2, by omega, leads_of_opens (by simp)⟩
    | fails cause =>
      rw [standing]
      split
      · next hmore =>
        have hlength : (done ++ [cause]).length = done.length + 1 := by simp
        have halarm : clock + setup.retryDelayMs.toNat = (done.length + 1) * setup.retryDelayMs.toNat := by
          rw [hdue, Nat.succ_mul]
        dsimp only
        split
        · -- Without a delay the next attempt is due as well.
          next hnow =>
          obtain ⟨count, hcount, hleads⟩ := @ih (done ++ [cause]) (fun h => hhangs (List.mem_cons_of_mem _ h))
            (by omega) (by rw [hlength]; omega)
          rw [hlength] at hcount hleads
          refine ⟨count + 1 + 1 + 1, by omega, ?_⟩
          refine .next (advance?_refused hmore) (.next (advance?_alarmless _) (.next (advance?_ringing ?_ _) hleads))
          omega
        · refine ⟨2, by omega, .next (advance?_refused hmore) (.next ?_ (.here _))⟩
          rw [advance?_alarmless, halarm]
      · next hlast => exact ⟨1, by omega, .next (advance?_lastRefused (by omega)) (.here _)⟩

theorem settle_of_rest {w : World} (hrest : w.advance? = none) : w.settle = w :=
  (Leads.here w).settleWithin hrest (Nat.zero_le _)

/-- A world in which the first dial is under way is settled where it leads. -/
theorem settle_trying {count : Nat} {stage : Dial} {alarms : List (Alarm × Nat)} {w : World}
    (hleads : Leads count (trying setup root files clock causes stage openings alarms) w) (hrest : w.advance? = none)
    (hcount : count ≤ 3 * max 1 setup.connectAttempts.toNat + 1) :
    (trying setup root files clock causes stage openings alarms).settle = w := by
  refine hleads.settleWithin hrest ?_
  have hpatience : (trying setup root files clock causes stage openings alarms).patience
      = 4 * 2 * (max 1 setup.connectAttempts.toNat + 2) + 64 := by
    simp [patience, trying, Connection.attempts]
  rw [hpatience]
  omega

/-- A millisecond later the dial stands where it should. -/
theorem settle_standing {done : List String} (hhangs : .hangs ∉ openings)
    (hfew : done.length < max 1 setup.connectAttempts.toNat) (hdue : done.length * setup.retryDelayMs.toNat ≤ clock) :
    { standing setup root files clock done openings with clock := clock + 1 }.settle
      = standing setup root files (clock + 1) done openings := by
  induction openings generalizing done with
  | nil => exact settle_of_rest advance?_succeeded
  | cons first openings ih =>
    cases first with
    | hangs => simp at hhangs
    | opens => exact settle_of_rest advance?_succeeded
    | fails cause =>
      have hlength : (done ++ [cause]).length = done.length + 1 := by simp
      have hhangs' : .hangs ∉ openings := fun h => hhangs (List.mem_cons_of_mem _ h)
      rw [standing, standing]
      split
      · next hmore =>
        dsimp only
        by_cases hnow : (done.length + 1) * setup.retryDelayMs.toNat ≤ clock
        · rw [if_pos hnow, if_pos (by omega)]
          exact @ih (done ++ [cause]) hhangs' (by omega) (by rw [hlength]; exact hnow)
        · rw [if_neg hnow]
          by_cases hnext : (done.length + 1) * setup.retryDelayMs.toNat ≤ clock + 1
          · -- The alarm rings just now.
            rw [if_pos hnext]
            obtain ⟨count, hcount, hleads⟩ := @leads_standing setup root files (clock + 1) openings (done ++ [cause])
              hhangs' (by omega) (by rw [hlength]; omega)
            rw [hlength] at hcount hleads
            exact settle_trying (.next (advance?_ringing hnext _) hleads) (advance?_standing _) (by omega)
          · rw [if_neg hnext]
            exact settle_of_rest (advance?_resting (Nat.not_le.1 hnext) _)
      · exact settle_of_rest advance?_exhausted

/-- So many milliseconds later the dial stands where it should. -/
theorem pass_standing (hhangs : .hangs ∉ openings) (time : Nat) :
    pass 1 time (standing setup root files clock [] openings) = standing setup root files (clock + time) [] openings := by
  induction time generalizing clock with
  | zero => rfl
  | succ time ih =>
    have hnext := @settle_standing setup root files clock openings [] hhangs (Nat.le_max_left _ _)
      (by rw [List.length_nil, Nat.zero_mul]; exact Nat.zero_le _)
    rw [pass, standing_clock, hnext, ih]
    congr 1
    omega

/-- Where the first dial stands after it has begun and so much time has passed. -/
theorem connect_advance (setup : ConnectionSetup) {openings : List Opening} (hhangs : .hangs ∉ openings)
    (root : Option String) (files : FileTree) (time : Nat) :
    ((World.new setup openings root files).begin 0 .connect).perform 1 (.advance time 1)
      = standing setup root files time [] openings := by
  obtain ⟨count, hcount, hleads⟩ := @leads_standing setup root files 0 openings [] hhangs
    (Nat.lt_of_lt_of_le Nat.one_pos (Nat.le_max_left _ _)) (by rw [List.length_nil, Nat.zero_mul])
  have hsettled := settle_trying hleads (advance?_standing _) (by omega)
  rw [begin_connect, perform, Nat.div_one, Nat.mod_one, if_pos rfl]
  dsimp only [List.length_nil] at hsettled
  rw [hsettled, pass_standing hhangs, Nat.zero_add]

end

/-! ## What can be seen of the first dial -/

/-- The causes of the attempts that fail before one does not. -/
def leadingFailures : List Opening → List String
  | .fails cause :: openings => cause :: leadingFailures openings
  | _ => []

/-- What can be seen of the first dial: what was told of it, how it has ended, which attempts it has not made, and how many
streams it has opened. -/
structure Shows (w : World) (state : LinkState) (told : List Notification) (ended : Option (Except CallError Unit))
    (left : List Opening) (streams : Nat) : Prop where
  state : w.session.connection.state = state
  told : w.inbox = told.foldl Inbox.push (.new w.session.connection.setup.eventChannelSize)
  ended : w.finished = (ended.map fun result => (0, .connected result)).toList
  left : w.dialOpenings = [(0, left)]
  streams : w.streams = streams

theorem leadingFailures_append {openings : List Opening} (hhangs : .hangs ∉ openings) :
    ∃ rest, openings = (leadingFailures openings).map .fails ++ rest ∧ ∀ first ∈ rest.head?, first = .opens := by
  induction openings with
  | nil => exact ⟨[], rfl, by simp⟩
  | cons first openings ih =>
    cases first with
    | hangs => simp at hhangs
    | opens => exact ⟨.opens :: openings, rfl, by simp⟩
    | fails cause =>
      obtain ⟨rest, heq, hopens⟩ := ih (fun h => hhangs (List.mem_cons_of_mem _ h))
      refine ⟨rest, ?_, hopens⟩
      rw [leadingFailures, List.map_cons, List.cons_append, ← heq]

/-- Behind a failure come the attempts after it. -/
theorem drop_of_leadingFailures {openings : List Opening} {count : Nat} {cause : String}
    (hcause : (leadingFailures openings)[count]? = some cause) :
    openings.drop count = .fails cause :: openings.drop (count + 1) := by
  induction openings generalizing count with
  | nil => simp [leadingFailures] at hcause
  | cons first openings ih =>
    cases first with
    | hangs | opens => simp [leadingFailures] at hcause
    | fails other =>
      cases count with
      | zero =>
        obtain rfl : other = cause := by simpa [leadingFailures] using hcause
        rfl
      | succ count => exact ih (by simpa [leadingFailures] using hcause)

/-- The first failures of a list of attempts are behind once they were due. -/
theorem standing_take (setup : ConnectionSetup) (root : Option String) (files : FileTree) {clock count : Nat}
    {openings : List Opening} (hcount : count ≤ (leadingFailures openings).length) (hhangs : .hangs ∉ openings)
    (hfew : count < max 1 setup.connectAttempts.toNat) (hdue : count * setup.retryDelayMs.toNat ≤ clock) :
    standing setup root files clock [] openings
      = standing setup root files clock ((leadingFailures openings).take count) (openings.drop count) := by
  obtain ⟨rest, heq, -⟩ := leadingFailures_append hhangs
  have hlength : ((leadingFailures openings).take count).length = count := List.length_take_of_le hcount
  have htake : openings.take count = ((leadingFailures openings).take count).map .fails := by
    have hfirst := congrArg (List.take count) heq
    rw [List.take_append_of_le_length (by simpa using hcount)] at hfirst
    rw [hfirst, List.map_take]
  have hskip := @standing_append setup root files clock ((leadingFailures openings).take count) (openings.drop count) []
    (by rw [List.length_nil, hlength, Nat.zero_add]; exact hfew)
    (by rw [List.length_nil, hlength, Nat.zero_add]; exact hdue)
  rw [← htake, List.take_append_drop, List.nil_append] at hskip
  exact hskip

section

variable {setup : ConnectionSetup} {openings : List Opening} (root : Option String) (files : FileTree) {time : Nat}

/-- Between two attempts the failures so far have been told, each as it came. -/
theorem standing_between (hhangs : .hangs ∉ openings) {count : Nat} (hcount : count < (leadingFailures openings).length)
    (hmore : count + 1 < max 1 setup.connectAttempts.toNat) (hdue : count * setup.retryDelayMs.toNat ≤ time)
    (hbefore : time < (count + 1) * setup.retryDelayMs.toNat) :
    (standing setup root files time [] openings).Shows .connecting (failures ((leadingFailures openings).take (count + 1)))
      none (openings.drop (count + 1)) 0 := by
  obtain ⟨cause, hcause⟩ : ∃ cause, (leadingFailures openings)[count]? = some cause :=
    ⟨(leadingFailures openings)[count], List.getElem?_eq_getElem hcount⟩
  have hlength : ((leadingFailures openings).take count).length = count := List.length_take_of_le (Nat.le_of_lt hcount)
  have htake : (leadingFailures openings).take (count + 1) = (leadingFailures openings).take count ++ [cause] := by
    rw [List.take_add_one, hcause, Option.toList_some]
  rw [standing_take setup root files (Nat.le_of_lt hcount) hhangs (Nat.lt_of_succ_lt hmore) hdue,
    drop_of_leadingFailures hcause, standing, if_pos (by rw [hlength]; exact hmore), hlength]
  dsimp only
  rw [if_neg (Nat.not_le.2 hbefore), htake]
  exact ⟨rfl, rfl, rfl, rfl, rfl⟩

/-- The first attempt that does not fail connects, if it may be made. -/
theorem standing_connected (hhangs : .hangs ∉ openings)
    (hfew : (leadingFailures openings).length < max 1 setup.connectAttempts.toNat)
    (hdue : (leadingFailures openings).length * setup.retryDelayMs.toNat ≤ time) :
    (standing setup root files time [] openings).Shows .connected (failures (leadingFailures openings) ++ [.connected])
      (some (.ok ())) (openings.drop ((leadingFailures openings).length + 1)) 1 := by
  obtain ⟨rest, heq, hopens⟩ := leadingFailures_append hhangs
  have hrest : openings.drop (leadingFailures openings).length = rest := by
    have hdrop := congrArg (List.drop (leadingFailures openings).length) heq
    rwa [List.drop_left' (List.length_map _)] at hdrop
  rw [standing_take setup root files (Nat.le_refl _) hhangs hfew hdue, List.take_length,
    standing_of_opens (hrest ▸ hopens)]
  exact ⟨rfl, rfl, rfl, by simp [succeeded], rfl⟩

/-- When the last attempt has failed, its cause is the answer. -/
theorem standing_failed (hhangs : .hangs ∉ openings) {last : Nat}
    (hlast : last + 1 = max 1 setup.connectAttempts.toNat) {cause : String}
    (hcause : (leadingFailures openings)[last]? = some cause) (hdue : last * setup.retryDelayMs.toNat ≤ time) :
    (standing setup root files time [] openings).Shows .failed (failures ((leadingFailures openings).take (last + 1)))
      (some (.error (.connectFailed (last + 1) cause))) (openings.drop (last + 1)) 0 := by
  have hcount : last < (leadingFailures openings).length := List.getElem?_eq_some_iff.1 hcause |>.1
  have hlength : ((leadingFailures openings).take last).length = last := List.length_take_of_le (Nat.le_of_lt hcount)
  have htake : (leadingFailures openings).take (last + 1) = (leadingFailures openings).take last ++ [cause] := by
    rw [List.take_add_one, hcause, Option.toList_some]
  rw [standing_take setup root files (Nat.le_of_lt hcount) hhangs (by omega) hdue, drop_of_leadingFailures hcause,
    standing, if_neg (by rw [hlength, hlast]; exact Nat.lt_irrefl _), htake, hlast]
  exact ⟨rfl, rfl, rfl, rfl, rfl⟩

end

end World

open World

/-- However often a dial may try, however long it rests, and whatever its attempts come to, it tries until an attempt
succeeds, and no more often than it may, as long as the connection is not shut down.

* Whatever else happens meanwhile, and however long an attempt takes: a dial that is the only one stands where `Dialling`
  says. Each failed attempt is told with its number and its own cause. There is one rest between two attempts and none
  after the last. A dial that succeeds tells once that the connection is there, and one that runs out never does.
* Against the clock, with attempts that come to their end at once: the attempt with number `j + 1` is made when `j` delays
  have passed, and only if all before it have failed. If one succeeds that the dial may make, the connection is there from
  then on; if all of them fail, the connection has failed, and the dial with the cause of the last of them.
* A dial of a connection that does not wait for a stream is told where that stands. Nothing else changes, but for the
  number that is used up, and it never makes an attempt. -/
theorem a_dial_tries_until_it_succeeds (setup : ConnectionSetup) :
    let limit := max 1 setup.connectAttempts.toNat
    let delay := setup.retryDelayMs.toNat
    (∀ before actions, let c := (Connection.run { setup } before).1
      c.state = .connecting → c.dials = [] →
      .dial ∉ actions → (∀ other, .dropDial other ∉ actions) → .shutdown ∉ actions →
      Connection.Dialling limit c.dialed (c.run (.dial :: actions)).1 ((c.step .dial).1.turns c.dialed actions)
        (Connection.announced (c.run (.dial :: actions)).2) (Connection.outcomes (c.run (.dial :: actions)).2)) ∧
    (∀ openings root files time, .hangs ∉ openings →
      let causes := leadingFailures openings
      let w := ((World.new setup openings root files).begin 0 .connect).perform 1 (.advance time 1)
      (∀ count < causes.length, count + 1 < limit → count * delay ≤ time → time < (count + 1) * delay →
        w.Shows .connecting (failures (causes.take (count + 1))) none (openings.drop (count + 1)) 0) ∧
      (causes.length < limit → causes.length * delay ≤ time →
        w.Shows .connected (failures causes ++ [.connected]) (some (.ok ())) (openings.drop (causes.length + 1)) 1) ∧
      (∀ cause, causes[limit - 1]? = some cause → (limit - 1) * delay ≤ time →
        w.Shows .failed (failures (causes.take limit)) (some (.error (.connectFailed limit cause)))
          (openings.drop limit) 0)) ∧
    (∀ before, let c := (Connection.run { setup } before).1
      c.state ≠ .connecting →
      c.step .dial = ({ c with dialed := c.dialed + 1 }, [.dialed c.dialed (.error (.invalidState c.state))]) ∧
      ∀ later, (c.step .dial).1.turns c.dialed later = []) := by
  intro limit delay
  refine ⟨fun before actions hconnecting hnone hdial hdrop hshutdown =>
    Connection.dialling_run hconnecting hnone hdial hdrop hshutdown, ?_, ?_⟩
  · intro openings root files time hhangs causes w
    have hw : w = standing setup root files time [] openings := connect_advance setup hhangs root files time
    rw [hw]
    refine ⟨fun count hcount hmore hdue hbefore => standing_between root files hhangs hcount hmore hdue hbefore,
      fun hfew hdue => standing_connected root files hhangs hfew hdue, fun cause hcause hdue => ?_⟩
    have hlimit : limit - 1 + 1 = limit := Nat.sub_add_cancel (Nat.le_max_left _ _)
    have hfailed := standing_failed root files hhangs hlimit hcause hdue
    rwa [hlimit] at hfailed
  · intro before c hstate
    have hstep : c.step .dial
        = ({ c with dialed := c.dialed + 1 }, [.dialed c.dialed (.error (.invalidState c.state))]) := by
      simp [Connection.step, Connection.dial, hstate]
    refine ⟨hstep, fun later => ?_⟩
    have hnumbered := ((Connection.Numbered.fresh setup).run before).step .dial
    have hended : .dialed c.dialed (.error (.invalidState c.state)) ∈ (c.step .dial).2 := by
      rw [hstep]
      exact List.mem_singleton_self _
    exact hnumbered.turns_eq_nil (List.mem_append_right _ hended) later

/-- Two attempts fail and the last one succeeds, after two delays and no sooner. -/
theorem a_dial_tries_until_it_succeeds_at_last :
    let setup : ConnectionSetup := { connectAttempts := 3, retryDelayMs := 10 }
    let openings := [.fails "first", .fails "second", .opens, .fails "fourth"]
    let w := fun time => ((World.new setup openings none {}).begin 0 .connect).perform 1 (.advance time 1)
    (w 19).Shows .connecting [.connectFailed 1 "first", .connectFailed 2 "second"] none [.opens, .fails "fourth"] 0 ∧
      (w 20).Shows .connected [.connectFailed 1 "first", .connectFailed 2 "second", .connected] (some (.ok ()))
        [.fails "fourth"] 1 := by
  intro setup openings w
  obtain ⟨-, htimed, -⟩ := a_dial_tries_until_it_succeeds setup
  obtain ⟨hwaits, -, -⟩ := htimed openings none {} 19 (by simp [openings])
  obtain ⟨-, hconnects, -⟩ := htimed openings none {} 20 (by simp [openings])
  exact ⟨hwaits 1 (by decide) (by decide) (by decide) (by decide), hconnects (by decide) (by decide)⟩

end DebugBridge.Rehearsal
