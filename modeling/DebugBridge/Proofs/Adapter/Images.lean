import DebugBridge.Proofs.Adapter.Answers
import DebugBridge.Proofs.Debugger.Sending

/-!
# What the editor's requests are to the debug server

Some of the editor's requests are passed on to the debug server, in a form that depends on what their session knows
when their turn comes. All others are nothing to the server. The table here says so in the terms of the two protocols,
and the two steps of an operation, reading the request and beginning with it, come to the same.
-/

namespace DebugBridge.Adapter

open Debugger (State Operation SourceBreakpoint)

namespace Message

/-- The integer under a name, if there is one. -/
def integer? (m : Message) (name : String) : Option Int64 :=
  (m.argument? name).bind (·.asInt64?)

/-- The text under a name, if there is one. -/
def text? (m : Message) (name : String) : Option String :=
  (m.argument? name).bind (·.asString?)

/-- The source whose breakpoints are set, with all that it is to have. -/
def update? (m : Message) : Option (String × List SourceBreakpoint) :=
  if m.command = "setBreakpoints" then
    match m.readArguments BreakpointsArguments.record with
    | .ok arguments => arguments.path.map fun path => (path, arguments.toBreakpoints)
    | .error _ => none
  else none

/-- The request to the debug server that a request of the editor's stands for. -/
def image (m : Message) (known : State) : Option Wire.Request.Payload :=
  let resumed (stepping : Wire.Stepping) : Option Wire.Request.Payload :=
    (m.integer? "threadId").map fun thread => .continueExecution thread stepping.toInt32
  match m.command with
  | "setBreakpoints" =>
    m.update?.map fun (path, breakpoints) => .setBreakpoints (known.breakpoints.set path breakpoints).toWire
  | "configurationDone" => some .startDebugging
  | "stackTrace" => (m.integer? "threadId").map .listFrames
  | "pause" => some (.pauseThread ((m.integer? "threadId").getD 0))
  | "continue" => resumed .none
  | "next" => resumed .stepOver
  | "stepIn" => resumed .stepInto
  | "stepOut" => resumed .stepOut
  | "evaluate" =>
    (m.text? "expression").bind fun expression =>
      (Assoc.find? ((m.integer? "frameId").getD 0).toInt known.frameThreads).map fun thread =>
        .evaluate thread (Debugger.trimQuotes expression)
  | "variables" =>
    (m.integer? "variablesReference").bind fun reference =>
      match known.handles.get? reference.toInt with
      | some (.value value) =>
        (Assoc.find? reference.toInt known.valueThreads).map fun thread => .getChildren thread value.id
      | _ => none
  | _ => none

end Message

section

variable {m : Message} {what : Operation}

theorem requiredInt64_eq (m : Message) (name : String) :
    (∃ n, m.integer? name = some n ∧ m.requiredInt64 name = .ok n) ∨
    ∃ error, m.integer? name = none ∧ m.requiredInt64 name = .error error := by
  unfold Message.requiredInt64
  rw [show (m.argument? name).bind (·.asInt64?) = m.integer? name from rfl]
  cases m.integer? name with
  | none => exact .inr ⟨_, rfl, rfl⟩
  | some n => exact .inl ⟨n, rfl, rfl⟩

/-- The children of a value are all that variables are asked for. -/
theorem startVariables_request (known : State) (reference : Debugger.Reference) :
    (known.startVariables reference).1.request? =
      match known.handles.get? reference with
      | some (.value value) =>
        (Assoc.find? reference known.valueThreads).map fun thread => .getChildren thread value.id
      | _ => none := by
  unfold State.startVariables
  cases known.handles.get? reference with
  | none => rfl
  | some object =>
    cases object with
    | frame frame => rfl
    | scope scope =>
      dsimp only
      split <;> rfl
    | value value =>
      dsimp only
      cases Assoc.find? reference known.valueThreads <;> rfl

/-- What is passed on is what the request's operation asks for. -/
theorem image_eq (m : Message) (known : State) : m.image known =
    match Command.of m with
    | .ok (.operation what) => (known.start what).1.request?
    | _ => none := by
  unfold Message.image Command.of
  dsimp only
  have hresumed : ∀ stepping : Wire.Stepping,
      ((m.integer? "threadId").map fun thread => Wire.Request.Payload.continueExecution thread stepping.toInt32) =
        match (m.requiredInt64 "threadId").map fun thread => Command.operation (.resume thread stepping) with
        | .ok (.operation what) => (known.start what).1.request?
        | _ => none := by
    intro stepping
    rcases requiredInt64_eq m "threadId" with ⟨n, hn, hrequired⟩ | ⟨error, hn, hrequired⟩ <;> rw [hn, hrequired] <;> rfl
  split
  · next hname =>
    unfold Message.update?
    simp only [hname, if_true]
    cases m.readArguments BreakpointsArguments.record with
    | error error => rfl
    | ok arguments =>
      dsimp only
      cases arguments.path <;> rfl
  · next hname =>
    simp only [hname]
    rfl
  · next hname =>
    simp only [hname]
    rcases requiredInt64_eq m "threadId" with ⟨n, hn, hrequired⟩ | ⟨error, hn, hrequired⟩ <;> rw [hn, hrequired] <;> rfl
  · next hname =>
    simp only [hname]
    rfl
  · next hname =>
    simp only [hname]
    exact hresumed _
  · next hname =>
    simp only [hname]
    exact hresumed _
  · next hname =>
    simp only [hname]
    exact hresumed _
  · next hname =>
    simp only [hname]
    exact hresumed _
  · next hname =>
    simp only [hname]
    unfold Message.text?
    cases (m.argument? "expression").bind (·.asString?) with
    | none => rfl
    | some expression =>
      simp only [Option.bind_some, State.start]
      rw [show (m.int64OrZero "frameId").toInt = ((m.integer? "frameId").getD 0).toInt from rfl]
      cases Assoc.find? ((m.integer? "frameId").getD 0).toInt known.frameThreads <;> rfl
  · next hname =>
    simp only [hname]
    rcases requiredInt64_eq m "variablesReference" with ⟨n, hn, hrequired⟩ | ⟨error, hn, hrequired⟩
    · rw [hn, hrequired]
      exact (startVariables_request known n.toInt).symm
    · rw [hn, hrequired]
      rfl
  · next hsetBreakpoints hconfigurationDone hstackTrace hpause hcontinue hnext hstepIn hstepOut hevaluate hvariables =>
    -- The remaining requests are answered without a task.
    split
    · next what hcommand =>
      split at hcommand <;> first
        | contradiction
        | cases hcommand
        | exact absurd hcommand (Command.map_ne_ok _ (by simp))
    · rfl

/-- An operation sets the breakpoints that its request sets. -/
theorem update?_of_operation (hcommand : Command.of m = .ok (.operation what)) : what.update? = m.update? := by
  have hmapped : ∀ {α : Type} {result : Except Debugger.Error α} {f : α → Operation},
      (result.map fun a => Command.operation (f a)) = .ok (.operation what) → ∃ a, what = f a := by
    intro α result f hresult
    cases result with
    | error error => cases hresult
    | ok a =>
      cases hresult
      exact ⟨a, rfl⟩
  unfold Message.update?
  by_cases hname : m.command = "setBreakpoints"
  · unfold Command.of at hcommand
    simp only [hname, if_true] at hcommand ⊢
    cases harguments : m.readArguments BreakpointsArguments.record with
    | error error =>
      rw [harguments] at hcommand
      cases hcommand
    | ok arguments =>
      rw [harguments] at hcommand
      dsimp only at hcommand ⊢
      cases hpath : arguments.path with
      | none =>
        rw [hpath] at hcommand
        cases hcommand
      | some path =>
        rw [hpath] at hcommand
        cases hcommand
        rfl
  · rw [if_neg hname]
    unfold Command.of at hcommand
    dsimp only at hcommand
    split at hcommand <;> first
      | contradiction
      | (cases hcommand <;> rfl)
      | (obtain ⟨a, rfl⟩ := hmapped hcommand; rfl)
      | exact absurd hcommand (Command.map_ne_ok _ (by simp))
      | (split at hcommand <;> cases hcommand; rfl)

end

end DebugBridge.Adapter
