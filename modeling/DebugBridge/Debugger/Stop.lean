import DebugBridge.Wire.Message

/-!
# Why a thread stopped

What the editor is told about a pause: a reason from its own list, a sentence, and for a breakpoint whose
condition failed the error's text.
-/

namespace DebugBridge.Debugger

/-- A pause in the editor's terms. -/
structure Stop where
  reason : String
  description : String
  text : Option String := none
  deriving DecidableEq, Repr

/-- What is told about a paused thread. -/
def Stop.of (thread : Wire.PausedThread) : Stop :=
  match Wire.PauseReason.ofInt32 thread.reason with
  | .stepping => ⟨"step", "Paused after step", none⟩
  | .allThreadsPaused => ⟨"pause", "Paused", none⟩
  | .pauseRequest => ⟨"pause", "Paused on request", none⟩
  | .hitBreakpoint => ⟨"breakpoint", "Paused on breakpoint", none⟩
  | .conditionError =>
    let message := thread.conditionError.getD ""
    ⟨"exception", s!"Error evaluating breakpoint condition: {message}", some message⟩
  | .initializing => ⟨"entry", "Paused on entry", none⟩
  | .unset => ⟨"pause", "Paused", none⟩

end DebugBridge.Debugger
