import DebugBridge.Proofs.Debugger.Tables

/-!
# Which threads are listed

A session lists the threads that stand still. It learns of them from the server, which says that a thread was paused or
goes on, and from its own operations: a thread that is to resume is taken to run as soon as the operation begins. So a
thread is listed exactly when the last of these signs that concerns it is a pause, whatever else happens and however
replies and news cross: `listed_threads_are_those_last_paused`.
-/

namespace DebugBridge.Debugger

/-- What is said of a thread. -/
inductive Sign where
  | paused (thread : Wire.PausedThread)
  | continued (id : Int64)
  /-- An operation begins that resumes it, whatever the server will make of that. -/
  | resumed (id : Int64)

namespace Sign

/-- The thread that a sign concerns. -/
def thread : Sign → Int64
  | paused thread => thread.id
  | continued id | resumed id => id

/-- The pause that a sign tells of. -/
def pause? : Sign → Option Wire.PausedThread
  | paused thread => some thread
  | continued _ | resumed _ => none

theorem eq_paused {sign : Sign} {thread : Wire.PausedThread} (hpause : sign.pause? = some thread) :
    sign = paused thread := by
  cases sign <;> cases hpause
  rfl

/-- What news of the server's is a sign of. A pause that names no thread is none. -/
def ofEvent? : Wire.Event.Payload → Option Sign
  | .threadPaused (some thread) => some (.paused thread)
  | .threadContinued id => some (.continued id)
  | _ => none

def ofOperation? : Operation → Option Sign
  | .resume thread _ => some (.resumed thread)
  | _ => none

/-- What a move is a sign of. A resume counts where it begins. -/
def ofMove? : Session.Move → Option Sign
  | .step (.start _ what) | .prepare _ what => ofOperation? what
  | .step (.handleEvent payload) => ofEvent? payload
  | _ => none

/-- The last sign that concerns a thread. -/
def last? (history : List Sign) (id : Int64) : Option Sign :=
  (history.filter (·.thread = id)).getLast?

theorem last?_concat (history : List Sign) (sign : Sign) (id : Int64) :
    last? (history ++ [sign]) id = if sign.thread = id then some sign else last? history id := by
  unfold last?
  rw [List.filter_append]
  by_cases hthread : sign.thread = id
  · simp [hthread]
  · simp [hthread]

theorem thread_of_last? {history : List Sign} {id : Int64} {sign : Sign} (hlast : last? history id = some sign) :
    sign.thread = id := by
  have hmem := List.mem_of_getLast? hlast
  simpa using (List.mem_filter.1 hmem).2

/-- The account of all signs. -/
def account : Account (List Sign) where
  begins history _ what := history ++ (ofOperation? what).toList
  hears history payload := history ++ (ofEvent? payload).toList
  note history _ := history

theorem account_after (history : List Sign) (s : Session) (moves : List Session.Move) :
    account.after history s moves = history ++ moves.filterMap ofMove? := by
  induction moves generalizing s history with
  | nil => simp [Account.after]
  | cons m rest ih =>
    have hnext : account.next history s m = history ++ (ofMove? m).toList := by
      -- What a session tells is no sign.
      have hnote : ∀ (effects : List SessionEffect) history, effects.foldl account.note history = history := by
        intro effects history
        exact List.foldl_fixed effects
      unfold Account.next Account.takes ofMove?
      rw [hnote]
      split
      · rfl
      · rfl
      · rfl
      · simp
    rw [Account.after, ih, hnext, List.append_assoc]
    cases hsign : ofMove? m with
    | none => simp [hsign]
    | some sign => simp [hsign]

end Sign

namespace State

/-- The threads that stand still are those whose last sign is a pause, and it is this pause that is remembered. -/
structure Recalls (s : State) (history : List Sign) : Prop where
  sorted : Assoc.Sorted s.pausedThreads
  found : ∀ id, Assoc.find? id s.pausedThreads = (Sign.last? history id).bind Sign.pause?

section

variable {s : State} {history : List Sign}

/-- A pause is entered under its thread, and any other sign takes the thread away. -/
theorem Recalls.concat (hrecalls : Recalls s history) (sign : Sign) {s' : State}
    (hpaused : s'.pausedThreads = match sign.pause? with
      | some thread => Assoc.insert thread.id thread s.pausedThreads
      | none => Assoc.erase sign.thread s.pausedThreads) : Recalls s' (history ++ [sign]) := by
  -- For the thread concerned this is now the last sign, for the others nothing has changed.
  have hother : ∀ id, sign.thread ≠ id → Sign.last? (history ++ [sign]) id = Sign.last? history id := by
    intro id hne
    rw [Sign.last?_concat, if_neg hne]
  have hself : Sign.last? (history ++ [sign]) sign.thread = some sign := by
    rw [Sign.last?_concat, if_pos rfl]
  cases hpause : sign.pause? with
  | some thread =>
    rw [hpause] at hpaused
    obtain rfl : sign = .paused thread := Sign.eq_paused hpause
    refine ⟨hpaused ▸ hrecalls.sorted.insert thread.id thread, fun id => ?_⟩
    rw [hpaused]
    by_cases hid : id = thread.id
    · rw [hid, Assoc.find?_insert_self]
      exact (congrArg (·.bind Sign.pause?) hself).symm
    · rw [Assoc.find?_insert_of_ne hid, hother id (Ne.symm hid), hrecalls.found]
  | none =>
    rw [hpause] at hpaused
    refine ⟨hpaused ▸ hrecalls.sorted.erase sign.thread, fun id => ?_⟩
    rw [hpaused, Assoc.find?_erase]
    split
    · next hid => rw [hid, hself, Option.bind_some, hpause]
    · next hid => rw [hother id (Ne.symm hid), hrecalls.found]

/-- Only the threads that stand still matter. -/
theorem Recalls.congr (hrecalls : Recalls s history) {s' : State} (hpaused : s'.pausedThreads = s.pausedThreads) :
    Recalls s' history :=
  ⟨hpaused ▸ hrecalls.sorted, fun id => hpaused ▸ hrecalls.found id⟩

theorem Recalls.start (hrecalls : Recalls s history) (what : Operation) :
    Recalls (s.start what).2 (history ++ (Sign.ofOperation? what).toList) := by
  have hpaused := (start_adds s what).pausedThreads
  cases what with
  | resume thread stepping => exact hrecalls.concat (.resumed thread) hpaused
  | _ =>
    have hsame := hrecalls.congr hpaused
    rwa [← List.append_nil history] at hsame

theorem Recalls.handleEvent (hrecalls : Recalls s history) (payload : Wire.Event.Payload) :
    Recalls (s.handleEvent payload).2 (history ++ (Sign.ofEvent? payload).toList) := by
  have hsame : Recalls s (history ++ []) := by
    rw [List.append_nil]
    exact hrecalls
  cases payload with
  | threadPaused thread =>
    cases thread with
    | some thread => exact hrecalls.concat (.paused thread) rfl
    | none => exact hsame
  | threadContinued id => exact hrecalls.concat (.continued id) rfl
  | _ => exact hsame

/-- Every kind of step goes by the signs. -/
theorem recalls_invariant : Sign.account.Invariant (fun _ _ => True) fun s history => Recalls s.state history := by
  refine .of_state (J := Recalls) ?_ ?_ ?_ ?_ ?_
  · exact fun history _ _ _ => List.append_nil history
  · exact fun _ _ => rfl
  · intro s history _ what hrecalls
    exact hrecalls.start what
  · intro s history files root waiting reply hrecalls
    exact hrecalls.congr (finish_adds s files root waiting reply).pausedThreads
  · intro s history payload hrecalls
    exact hrecalls.handleEvent payload

/-- What is remembered of a thread is the pause that is its last sign. -/
theorem Recalls.last_of_mem (hrecalls : Recalls s history) {id : Int64} {thread : Wire.PausedThread}
    (hentry : (id, thread) ∈ s.pausedThreads) : Sign.last? history id = some (.paused thread) := by
  have hfound := hrecalls.sorted.find?_of_mem hentry
  rw [hrecalls.found, Option.bind_eq_some_iff] at hfound
  obtain ⟨sign, hlast, hpause⟩ := hfound
  obtain rfl := Sign.eq_paused hpause
  exact hlast

/-- The name under which a thread is listed. -/
def listedName (thread : Wire.PausedThread) : String :=
  if thread.name = "" then s!"Thread {thread.id.toInt}" else thread.name

/-- A thread is listed as its last pause has it. -/
theorem Recalls.mem_threads (hrecalls : Recalls s history) (id : Int64) (name : String) :
    { id, name } ∈ s.threads ↔ ∃ thread, Sign.last? history id = some (.paused thread) ∧ name = listedName thread := by
  constructor
  · intro hmem
    obtain ⟨⟨key, thread⟩, hentry, heq⟩ := List.mem_map.1 hmem
    have hlast := hrecalls.last_of_mem hentry
    -- The thread lies under its own number.
    obtain rfl : thread.id = key := Sign.thread_of_last? hlast
    cases heq
    exact ⟨thread, hlast, rfl⟩
  · rintro ⟨thread, hlast, rfl⟩
    obtain rfl : thread.id = id := Sign.thread_of_last? hlast
    have hentry : Assoc.find? thread.id s.pausedThreads = some thread := by
      rw [hrecalls.found, hlast]
      rfl
    exact List.mem_map_of_mem (f := fun entry : Int64 × Wire.PausedThread =>
      ({ id := entry.2.id, name := listedName entry.2 } : Thread)) (Assoc.mem_of_find? hentry)

theorem Recalls.ids_ascend (hrecalls : Recalls s history) : (s.threads.map (·.id)).Pairwise (· < ·) := by
  have hown : ∀ entry ∈ s.pausedThreads, entry.2.id = entry.1 := by
    rintro ⟨key, thread⟩ hentry
    exact Sign.thread_of_last? (hrecalls.last_of_mem hentry)
  rw [threads, List.map_map, List.pairwise_map]
  refine hrecalls.sorted.imp_of_mem ?_
  intro first second hfirst hsecond hlt
  simp only [Function.comp_apply, hown first hfirst, hown second hsecond]
  exact hlt

end

end State

/-- What the editor is to be told of news: of a pause, first that there is the thread and then that it stopped, and
that a thread goes on. -/
def newsOf : Wire.Event.Payload → List News
  | .threadPaused (some thread) => [.thread thread.id "started", .stopped thread.id (.of thread)]
  | .threadContinued id => [.continued id]
  | _ => []

theorem State.news_handleEvent (s : State) (payload : Wire.Event.Payload) :
    (s.handleEvent payload).1 = newsOf payload := by
  cases payload with
  | threadPaused thread => cases thread <;> rfl
  | _ => rfl

/-- A thread is listed exactly when the last sign that concerns it is a pause, whatever else a session does: once, in
the order of the threads' numbers, under the name that this pause gives it. And news from the server changes nothing
but which threads stand still: of a pause the editor is told that there is the thread and that it stopped, then that it
goes on, and of anything else nothing. -/
theorem Session.listed_threads_are_those_last_paused (connection : Connection) (files : FileTree)
    (root : Option String) (moves : List Move) :
    let start : Session := { connection, files, root }
    let s := (start.moves moves).1
    let history := moves.filterMap Sign.ofMove?
    (s.state.threads.map (·.id)).Pairwise (· < ·) ∧
    (∀ id name, { id, name } ∈ s.state.threads ↔ ∃ thread, Sign.last? history id = some (.paused thread) ∧
      name = if thread.name = "" then s!"Thread {id.toInt}" else thread.name) ∧
    ∀ payload, (s.handleEvent payload).2 = [.told (newsOf payload)] ∧
      (s.handleEvent payload).1
        = { s with state := { s.state with pausedThreads := (s.handleEvent payload).1.state.pausedThreads } } := by
  intro start s history
  have hrecalls : s.state.Recalls history := by
    have hinitial : start.state.Recalls [] := ⟨List.Pairwise.nil, fun id => rfl⟩
    have hafter := State.recalls_invariant.moves hinitial (Sign.account.whenReading_trivial _ _ moves)
    rwa [Sign.account_after, List.nil_append] at hafter
  refine ⟨hrecalls.ids_ascend, ?_, ?_⟩
  · intro id name
    rw [hrecalls.mem_threads]
    constructor
    · rintro ⟨thread, hlast, rfl⟩
      obtain rfl : thread.id = id := Sign.thread_of_last? hlast
      exact ⟨thread, hlast, rfl⟩
    · rintro ⟨thread, hlast, rfl⟩
      obtain rfl : thread.id = id := Sign.thread_of_last? hlast
      exact ⟨thread, hlast, rfl⟩
  · intro payload
    constructor
    · exact congrArg (fun news => [SessionEffect.told news]) (State.news_handleEvent s.state payload)
    · simp only [Session.handleEvent]
      exact congrArg (fun state => ({ s with state } : Session)) (State.handleEvent_eq s.state payload)

end DebugBridge.Debugger
