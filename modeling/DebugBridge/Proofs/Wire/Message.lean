import DebugBridge.Proofs.Wire.Field

/-!
# Messages read back

Every message type is read back from what `encode` writes, field by field in the order of the tags. How deep a type
nests shows in the budget that its reader must have left; the deepest message, an event with the values of its
frames, needs four of the hundred levels.
-/

namespace DebugBridge.Wire

open Reads

variable {budget : Nat}

/-! ## What the server describes -/

theorem Location.reads (l : Location) : Reads Location.layout budget {} l.encode l := by
  have line : Reads Location.layout budget {} (writeInt32 1 l.line) { line := l.line } :=
    .int32 rfl (by decide) rfl rfl
  have path : Reads Location.layout budget { line := l.line } (writeString 2 l.path)
      { line := l.line, path := l.path } :=
    .string rfl (by decide) rfl rfl
  have column : Reads Location.layout budget { line := l.line, path := l.path } (writeInt32 3 l.column) l :=
    .int32 rfl (by decide) rfl rfl
  exact (line.append path).append column

theorem Value.reads (v : Value) : Reads Value.layout budget {} v.encode v := by
  have label : Reads Value.layout budget {} (writeString 1 v.label) { label := v.label } :=
    .string rfl (by decide) rfl rfl
  have description : Reads Value.layout budget { label := v.label } (writeString 2 v.description)
      { label := v.label, description := v.description } :=
    .string rfl (by decide) rfl rfl
  have typeName : Reads Value.layout budget { label := v.label, description := v.description }
      (writeString 3 v.typeName) { label := v.label, description := v.description, typeName := v.typeName } :=
    .string rfl (by decide) rfl rfl
  have hasChildren : Reads Value.layout budget
      { label := v.label, description := v.description, typeName := v.typeName }
      (writeBool 4 v.hasChildren) { v with id := 0 } :=
    .bool rfl (by decide) rfl rfl
  have id : Reads Value.layout budget { v with id := 0 } (writeInt64 5 v.id) v :=
    .int64 rfl (by decide) rfl rfl
  exact (((label.append description).append typeName).append hasChildren).append id

theorem Scope.reads (s : Scope) : Reads Scope.layout (budget + 1) {} s.encode s := by
  have name : Reads Scope.layout (budget + 1) {} (writeString 1 s.name) { name := s.name } :=
    .string rfl (by decide) rfl rfl
  have bindings : Reads Scope.layout (budget + 1) { name := s.name } (writeRepeated 2 Value.encode s.bindings) s :=
    .repeated (fun bindings => { s with bindings }) rfl (by decide) Value.reads (fun _ => rfl)
      fun _ _ => rfl
  exact name.append bindings

theorem Frame.reads (f : Frame) : Reads Frame.layout (budget + 2) {} f.encode f := by
  have functionName : Reads Frame.layout (budget + 2) {} (writeString 1 f.functionName)
      { functionName := f.functionName } :=
    .string rfl (by decide) rfl rfl
  have scopes : Reads Frame.layout (budget + 2) { functionName := f.functionName }
      (writeRepeated 2 Scope.encode f.scopes) { f with location := none } :=
    .repeated (fun scopes => ({ functionName := f.functionName, scopes } : Frame)) rfl (by decide) Scope.reads
      (fun _ => rfl) fun _ _ => rfl
  have location : Reads Frame.layout (budget + 2) { f with location := none }
      (writeOptional 3 Location.encode f.location) f :=
    .optional (fun location => { f with location }) rfl (by decide) rfl Location.reads rfl fun _ => rfl
  exact (functionName.append scopes).append location

theorem Breakpoint.reads (b : Breakpoint) : Reads Breakpoint.layout (budget + 1) {} b.encode b := by
  have location : Reads Breakpoint.layout (budget + 1) {} (writeOptional 1 Location.encode b.location)
      { location := b.location } :=
    .optional (fun location => ({ location } : Breakpoint)) rfl (by decide) rfl Location.reads rfl fun _ => rfl
  have expression : Reads Breakpoint.layout (budget + 1) { location := b.location }
      (writeString 2 b.expression) b :=
    .string rfl (by decide) rfl rfl
  exact location.append expression

theorem ErrorText.reads (message : String) : Reads ErrorText.layout budget "" (ErrorText.encode message) message :=
  .string rfl (by decide) rfl rfl

theorem PausedThread.reads (t : PausedThread) : Reads PausedThread.layout (budget + 1) {} t.encode t := by
  have id : Reads PausedThread.layout (budget + 1) {} (writeInt64 1 t.id) { id := t.id } :=
    .int64 rfl (by decide) rfl rfl
  have name : Reads PausedThread.layout (budget + 1) { id := t.id } (writeString 2 t.name)
      { id := t.id, name := t.name } :=
    .string rfl (by decide) rfl rfl
  have reason : Reads PausedThread.layout (budget + 1) { id := t.id, name := t.name } (writeInt32 3 t.reason)
      { id := t.id, name := t.name, reason := t.reason } :=
    .int32 rfl (by decide) rfl rfl
  have location : Reads PausedThread.layout (budget + 1) { id := t.id, name := t.name, reason := t.reason }
      (writeOptional 4 Location.encode t.location) { t with conditionError := none } :=
    .optional (fun location => ({ id := t.id, name := t.name, reason := t.reason, location } : PausedThread))
      rfl (by decide) rfl Location.reads rfl fun _ => rfl
  have conditionError : Reads PausedThread.layout (budget + 1) { t with conditionError := none }
      (writeOptional 5 ErrorText.encode t.conditionError) t :=
    .optional (fun conditionError => { t with conditionError }) rfl (by decide) rfl ErrorText.reads rfl
      fun _ => rfl
  exact (((id.append name).append reason).append location).append conditionError

/-! ## Requests -/

namespace Request

theorem threadLayout_reads (message : String) (thread : Int64) :
    Reads (threadLayout message) budget 0 (writeInt64 1 thread) thread :=
  .int64 rfl (by decide) rfl rfl

theorem continueLayout_reads (thread : Int64) (stepping : Int32) :
    Reads continueLayout budget (0, 0) (writeInt64 1 thread ++ writeInt32 2 stepping) (thread, stepping) := by
  have first : Reads continueLayout budget (0, 0) (writeInt64 1 thread) (thread, 0) := .int64 rfl (by decide) rfl rfl
  have second : Reads continueLayout budget (thread, 0) (writeInt32 2 stepping) (thread, stepping) :=
    .int32 rfl (by decide) rfl rfl
  exact first.append second

theorem evaluateLayout_reads (thread : Int64) (statement : String) :
    Reads evaluateLayout budget (0, "") (writeInt64 1 thread ++ writeString 2 statement) (thread, statement) := by
  have first : Reads evaluateLayout budget (0, "") (writeInt64 1 thread) (thread, "") := .int64 rfl (by decide) rfl rfl
  have second : Reads evaluateLayout budget (thread, "") (writeString 2 statement) (thread, statement) :=
    .string rfl (by decide) rfl rfl
  exact first.append second

theorem breakpointsLayout_reads (breakpoints : List Breakpoint) :
    Reads breakpointsLayout (budget + 2) [] (writeRepeated 1 Breakpoint.encode breakpoints) breakpoints :=
  .repeated (fun all => all) rfl (by decide) Breakpoint.reads (fun _ => rfl) fun _ _ => rfl

theorem childrenLayout_reads (thread value : Int64) :
    Reads childrenLayout budget (0, 0) (writeInt64 1 thread ++ writeInt64 2 value) (thread, value) := by
  have first : Reads childrenLayout budget (0, 0) (writeInt64 1 thread) (thread, 0) := .int64 rfl (by decide) rfl rfl
  have second : Reads childrenLayout budget (thread, 0) (writeInt64 2 value) (thread, value) :=
    .int64 rfl (by decide) rfl rfl
  exact first.append second

theorem Payload.tag_declared (payload : Payload) : 0 < payload.contents.1 ∧ payload.contents.1 < 536870912 := by
  cases payload <;> simp [contents]

theorem Payload.reads (number : UInt64) (payload : Payload) :
    Reads layout (budget + 3) { number } payload.encode { number, payload := some payload } := by
  have htag := payload.tag_declared
  cases payload with
  | listFrames thread => exact .message rfl htag rfl (threadLayout_reads _ thread) rfl
  | startDebugging => exact .message rfl htag rfl .nil rfl
  | pauseThread thread => exact .message rfl htag rfl (threadLayout_reads _ thread) rfl
  | continueExecution thread stepping => exact .message rfl htag rfl (continueLayout_reads thread stepping) rfl
  | evaluate thread statement => exact .message rfl htag rfl (evaluateLayout_reads thread statement) rfl
  | setBreakpoints breakpoints => exact .message rfl htag rfl (breakpointsLayout_reads breakpoints) rfl
  | getChildren thread value => exact .message rfl htag rfl (childrenLayout_reads thread value) rfl

theorem reads (r : Request) : Reads layout (budget + 3) {} r.encode r := by
  have hnumber : Reads layout (budget + 3) {} (writeUInt64 1 r.number) { number := r.number } :=
    .uint64 rfl (by decide) rfl rfl
  obtain ⟨number, payload⟩ := r
  cases payload with
  | none => exact hnumber.append .nil
  | some payload => exact hnumber.append (payload.reads number)

/-- Decoding undoes encoding. -/
theorem decode_encode (r : Request) (hsize : r.encode.length < UInt64.size) : decode r.encode = .ok r :=
  r.reads.decode_eq hsize

end Request

/-! ## Events -/

namespace Event

theorem framesLayout_reads (frames : List Frame) :
    Reads framesLayout (budget + 3) [] (writeRepeated 1 Frame.encode frames) frames :=
  .repeated (fun all => all) rfl (by decide) Frame.reads (fun _ => rfl) fun _ _ => rfl

theorem resultLayout_reads (result : Option Value) :
    Reads resultLayout (budget + 1) none (writeOptional 1 Value.encode result) result :=
  .optional (fun result => result) rfl (by decide) rfl Value.reads rfl fun _ => rfl

theorem childrenLayout_reads (children : List Value) :
    Reads childrenLayout (budget + 1) [] (writeRepeated 1 Value.encode children) children :=
  .repeated (fun all => all) rfl (by decide) Value.reads (fun _ => rfl) fun _ _ => rfl

theorem pausedLayout_reads (thread : Option PausedThread) :
    Reads pausedLayout (budget + 2) none (writeOptional 1 PausedThread.encode thread) thread :=
  .optional (fun thread => thread) rfl (by decide) rfl PausedThread.reads rfl fun _ => rfl

theorem continuedLayout_reads (thread : Int64) : Reads continuedLayout budget 0 (writeInt64 1 thread) thread :=
  .int64 rfl (by decide) rfl rfl

theorem Payload.tag_declared (payload : Payload) : 0 < payload.contents.1 ∧ payload.contents.1 < 536870912 := by
  cases payload <;> simp [contents]

theorem Payload.reads (number : UInt64) (payload : Payload) :
    Reads layout (budget + 4) { number } payload.encode { number, payload := some payload } := by
  have htag := payload.tag_declared
  cases payload with
  | error message => exact .message rfl htag rfl (ErrorText.reads message) rfl
  | listFrames frames => exact .message rfl htag rfl (framesLayout_reads frames) rfl
  | startDebugging => exact .message rfl htag rfl .nil rfl
  | pauseThread => exact .message rfl htag rfl .nil rfl
  | continueExecution => exact .message rfl htag rfl .nil rfl
  | evaluate result => exact .message rfl htag rfl (resultLayout_reads result) rfl
  | setBreakpoints => exact .message rfl htag rfl .nil rfl
  | getChildren children => exact .message rfl htag rfl (childrenLayout_reads children) rfl
  | threadPaused thread => exact .message rfl htag rfl (pausedLayout_reads thread) rfl
  | threadContinued thread => exact .message rfl htag rfl (continuedLayout_reads thread) rfl

theorem reads (e : Event) : Reads layout (budget + 4) {} e.encode e := by
  have hnumber : Reads layout (budget + 4) {} (writeUInt64 1 e.number) { number := e.number } :=
    .uint64 rfl (by decide) rfl rfl
  obtain ⟨number, payload⟩ := e
  cases payload with
  | none => exact hnumber.append .nil
  | some payload => exact hnumber.append (payload.reads number)

/-- Decoding undoes encoding. -/
theorem decode_encode (e : Event) (hsize : e.encode.length < UInt64.size) : decode e.encode = .ok e :=
  e.reads.decode_eq hsize

end Event

end DebugBridge.Wire
