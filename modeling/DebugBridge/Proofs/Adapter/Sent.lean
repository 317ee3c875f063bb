import DebugBridge.CommandLine
import DebugBridge.Proofs.Adapter.Framed
import DebugBridge.Proofs.Adapter.Pieces
import DebugBridge.Proofs.Json.Shape

/-!
# What the adapter sends is read back

There are a few bodies that a message of the adapter's can have, and all of them are neat. So whatever the adapter sends,
in whatever order, the editor reads it back, as long as the integers have 64 bits and no message is too long. That holds
for a message as a value, and for its fields in their own order.
-/

namespace DebugBridge.Debugger

open Json (Neat)

/-! ## Answers -/

theorem Thread.toJson_neat (t : Thread) : Neat 1 t.toJson :=
  .ofMembers (by simp)

theorem SourceFile.toJson_neat (s : SourceFile) : Neat 1 s.toJson :=
  .ofMembers (by simp)

theorem breakpointJson_neat (line : Int32) : Neat 1 (breakpointJson line) :=
  .ofMembers (by simp)

theorem ScopeInfo.toJson_neat (s : ScopeInfo) : Neat 1 s.toJson :=
  .ofMembers (by simp)

/-- A member that may be left out is neat if it is there. -/
theorem neat_member? {depth : Nat} {name : String} {value : Option Json} (hvalue : ∀ json ∈ value, Neat depth json) :
    ∀ entry ∈ member? name value, Neat depth entry.2 := by
  cases value with
  | none => exact fun _ hmem => absurd hmem List.not_mem_nil
  | some json =>
    intro entry hmem
    obtain rfl : entry = (name, json) := List.mem_singleton.1 hmem
    exact hvalue json rfl

theorem neat_text? (depth : Nat) (name : String) (text : Option String) :
    ∀ entry ∈ member? name (text.map .string), Neat depth entry.2 :=
  neat_member? (by simp)

theorem StackFrame.toJson_neat (f : StackFrame) : Neat 2 f.toJson := by
  have hsource : ∀ entry ∈ member? "source" (f.source.map (·.toJson)), Neat 1 entry.2 :=
    neat_member? (by simp [SourceFile.toJson_neat])
  exact .ofMembers (List.forall_mem_append.2 ⟨by simp, hsource⟩)

theorem Variable.toJson_neat (v : Variable) : Neat 1 v.toJson :=
  .ofMembers (List.forall_mem_append.2 ⟨by simp, neat_text? 0 "type" v.typeName⟩)

theorem Evaluation.toJson_neat (e : Evaluation) : Neat 1 e.toJson :=
  .ofMembers (List.forall_mem_append.2 ⟨by simp, neat_text? 0 "type" e.typeName⟩)

/-- What is listed is neat if each thing is. -/
theorem neat_listed {α : Type} {depth : Nat} {toJson : α → Json} (hneat : ∀ a, Neat depth (toJson a)) (listed : List α) :
    Neat (depth + 1) (.array (listed.map toJson)) :=
  .array (List.forall_mem_map.2 fun a _ => hneat a)

theorem Answer.toJson_neat (answer : Answer) : Neat 3 answer.toJson := by
  cases answer with
  | breakpoints lines => exact (neat_listed breakpointJson_neat lines).mono (by decide)
  | frames listed => exact neat_listed StackFrame.toJson_neat listed
  | scopes listed => exact (neat_listed ScopeInfo.toJson_neat listed).mono (by decide)
  | listing listed => exact (neat_listed Variable.toJson_neat listed).mono (by decide)
  | evaluation result => exact result.toJson_neat.mono (by decide)
  | done => exact .null 3

end DebugBridge.Debugger

namespace DebugBridge.Adapter

open Debugger (Session SessionEffect)
open Json (Neat)

/-! ## Bodies -/

/-- The bodies that a message of the adapter's can have. -/
inductive Body : Option Json → Prop where
  | none : Body none
  | capabilities : Body (some capabilities)
  | threads (threads : List Debugger.Thread) : Body (some (.ofMembers [("threads", .array (threads.map (·.toJson)))]))
  | answer (what : Debugger.Operation) (answer : Debugger.Answer) : Body (body what answer)
  | news (news : Debugger.News) : Body (some (newsEvent news).2)
  | output (category line : String) :
      Body (some (.ofMembers [("category", .string category), ("output", .string (line ++ "\n"))]))

theorem capabilities_neat : Neat 1 capabilities :=
  .ofMembers (by simp)

theorem newsEvent_neat (news : Debugger.News) : Neat 1 (newsEvent news).2 := by
  cases news with
  | thread id reason => exact .ofMembers (by simp)
  | stopped id stop => exact .ofMembers (List.forall_mem_append.2 ⟨by simp, Debugger.neat_text? 0 "text" stop.text⟩)
  | continued id => exact .ofMembers (by simp)

theorem body_neat (what : Debugger.Operation) (answer : Debugger.Answer) : ∀ json ∈ body what answer, Neat 4 json := by
  have hanswer := answer.toJson_neat
  intro json hjson
  cases answer with
  | evaluation result =>
    obtain rfl := Option.some.inj hjson
    exact hanswer.mono (by decide)
  | done =>
    cases what with
    | resume thread stepping =>
      -- Only going on without a step has a body.
      cases stepping with
      | none =>
        obtain rfl := Option.some.inj hjson
        exact .ofMembers (by simp)
      | _ => cases hjson
    | _ => cases hjson
  | _ =>
    obtain rfl := Option.some.inj hjson
    exact .ofMembers (by simp [hanswer])

/-- Every body is neat. -/
theorem Body.neat {content : Option Json} (hbody : Body content) : ∀ json ∈ content, Neat 4 json := by
  cases hbody with
  | none => exact nofun
  | capabilities => simpa using capabilities_neat.mono (by decide)
  | threads threads =>
    have hthreads := Debugger.neat_listed Debugger.Thread.toJson_neat threads
    have hcontent : Neat 3 (.ofMembers [("threads", .array (threads.map (·.toJson)))]) := .ofMembers (by simpa using hthreads)
    simpa using hcontent.mono (by decide)
  | answer what answer => exact body_neat what answer
  | news news => simpa using (newsEvent_neat news).mono (by decide)
  | output category line =>
    have hcontent : Neat 1 (.ofMembers [("category", .string category), ("output", .string (line ++ "\n"))]) :=
      .ofMembers (by simp)
    simpa using hcontent.mono (by decide)

namespace Outgoing

/-- What a message carries. -/
def content : Outgoing → Option Json
  | response r => r.body
  | news n => n.body

/-- The message with its fields in their own order. -/
def fields : Outgoing → Json
  | response r => r.toJson
  | news n => n.toJson

end Outgoing

/-! ## Steps and runs -/

/-- All messages among these effects have one of the bodies. -/
def Proper (effects : List ServerEffect) : Prop :=
  ∀ message ∈ Loop.sent effects, Body message.content

theorem Proper.of_sent_nil {effects : List ServerEffect} (hsilent : Loop.sent effects = []) : Proper effects := by
  intro message hmem
  rw [hsilent] at hmem
  cases hmem

theorem Proper.nil : Proper [] :=
  .of_sent_nil rfl

theorem Proper.append {first later : List ServerEffect} (hfirst : Proper first) (hlater : Proper later) :
    Proper (first ++ later) := by
  intro message hmem
  rw [Server.sent_append] at hmem
  rcases List.mem_append.1 hmem with hmem | hmem
  · exact hfirst message hmem
  · exact hlater message hmem

theorem Proper.log {effects : List ServerEffect} (hproper : Proper effects) (record : Log.Record) :
    Proper (.logged record :: effects) :=
  hproper

theorem Proper.one {message : Outgoing} (hbody : Body message.content) : Proper [.sent message] := by
  intro other hmem
  obtain rfl := List.mem_singleton.1 hmem
  exact hbody

namespace Server

variable (s : Server)

theorem respond_proper (request : Message) (success : Bool) {content : Option Json} (hbody : Body content)
    (message : Option String) : Proper (s.respond request success content message).2 :=
  .one hbody

theorem fail_proper (request : Message) (error : Debugger.Error) : Proper (s.fail request error).2 :=
  (s.respond_proper request false .none _).log _

theorem tell_proper (event : String) {content : Option Json} (hbody : Body content) : Proper (s.tell event content).2 :=
  .one hbody

theorem output_proper (category line : String) : Proper (s.output category line).2 :=
  s.tell_proper "output" (.output category line)

theorem terminate_proper : Proper s.terminate.2 := by
  unfold terminate
  split
  · exact .nil
  · exact tell_proper _ "terminated" .none

theorem tellNews_proper (news : List Debugger.News) : Proper (s.tellNews news).2 := by
  induction news generalizing s with
  | nil => exact .nil
  | cons first rest ih => exact (s.tell_proper _ (.news first)).append (ih _)

theorem answerLaunch_proper (session : Nat) (result : Except CallError Unit) : Proper (s.answerLaunch session result).2 := by
  unfold answerLaunch
  split
  · split
    · next request _ =>
      cases result with
      | ok success => exact (respond_proper _ request true .none none).append (tell_proper _ "initialized" .none)
      | error error => exact (respond_proper _ request false .none _).log _
    · exact .nil
  · exact .nil

theorem answerOperation_proper (operation : Nat) (result : Except Debugger.Error Debugger.Answer) :
    Proper (s.answerOperation operation result).2 := by
  unfold answerOperation
  split
  · next asked _ =>
    cases result with
    | ok answer => exact respond_proper _ asked.request true (.answer asked.what answer) none
    | error error => exact fail_proper _ asked.request error
  · exact .nil

theorem absorbOne_proper (session : Nat) (effect : SessionEffect) : Proper (s.absorbOne session effect).2 := by
  cases effect with
  | link effect =>
    cases effect with
    | told notification =>
      unfold absorbOne
      dsimp only
      split <;> exact .nil
    | dialed dial result => exact s.answerLaunch_proper session result
    -- What else a connection does is no message to the editor.
    | wrote | answered | hungUp => exact .of_sent_nil rfl
  | asked operation request => exact .nil
  | replied operation reply => exact .nil
  | ended operation result => exact s.answerOperation_proper operation result
  | told news => exact s.tellNews_proper news

theorem absorb_proper (session : Nat) (effects : List SessionEffect) : Proper (s.absorb session effects).2 := by
  induction effects generalizing s with
  | nil => exact .nil
  | cons effect rest ih => exact (s.absorbOne_proper session effect).append (ih _)

theorem within_proper (session : Nat) (step : Session → Session × List SessionEffect) :
    Proper (s.within session step).2 := by
  unfold within
  split
  · exact absorb_proper _ session _
  · exact .nil

theorem endSession_proper : Proper s.endSession.2 := by
  unfold endSession
  split
  · exact within_proper _ _ _
  · exact .nil

theorem launch_proper (request : Message) : Proper (s.launch request).2 := by
  unfold Server.launch
  split
  · exact s.fail_proper request _
  · split
    · exact s.fail_proper request _
    · dsimp only
      split
      · exact (output_proper _ "console" _).append (.of_sent_nil rfl)
      · exact .of_sent_nil rfl

theorem ask_proper (request : Message) (what : Debugger.Operation) : Proper (s.ask request what).2 := by
  unfold ask
  split
  · exact s.fail_proper request _
  · exact .nil

theorem perform_proper (request : Message) : Proper (s.perform request).2 := by
  unfold perform
  split
  · exact s.fail_proper request _
  · exact s.respond_proper request true .capabilities none
  · exact s.launch_proper request
  · exact s.respond_proper request true (.threads _) none
  · exact respond_proper _ request true (.answer _ _) none
  · exact s.ask_proper request _
  · exact (s.endSession_proper.append (respond_proper _ request true .none none)).append (terminate_proper _)
  · exact s.respond_proper request true .none _

theorem receive_proper (message : Message) : Proper (s.receive message).2 := by
  unfold receive
  split
  · exact .nil
  · exact (s.perform_proper message).log _

theorem endInput_proper (ending : Except ReadError Unit) : Proper (s.endInput ending).2 := by
  unfold endInput
  split
  · exact .nil
  · cases ending with
    | ok ended => exact s.endSession_proper
    | error error => exact .nil

theorem begin_proper : Proper s.begin.2 := by
  unfold begin
  split
  · exact .nil
  · exact within_proper _ _ _
  · exact within_proper _ _ _

theorem prepare_proper : Proper s.prepare.2 := by
  unfold prepare
  split
  · exact .nil
  · exact within_proper _ _ _
  · exact within_proper _ _ _

theorem say_proper (line : Line) : Proper (s.say line).2 := by
  cases line with
  | news news => exact s.tell_proper _ (.news news)
  | output category line => exact s.output_proper category line
  | terminated => exact s.terminate_proper

theorem sayAll_proper (lines : List Line) : Proper (s.sayAll lines).2 := by
  induction lines generalizing s with
  | nil => exact .nil
  | cons line rest ih => exact (s.say_proper line).append (ih _)

theorem hear_proper (session : Nat) (kept : Bool) : Proper (s.hear session kept).2.2 := by
  unfold hear
  split
  · next heard =>
    obtain ⟨launch, -, hhear⟩ := Option.bind_eq_some_iff.1 heard
    exact .of_sent_nil (Launched.hear_hears hhear).2.2
  · exact .nil

theorem relay_proper (session : Nat) : Proper (s.relay session).2 := by
  rw [s.relay_eq session]
  exact (s.hear_proper session _).append (sayAll_proper _ _)

theorem step_proper (action : Action) : Proper (s.step action).2 := by
  unfold step
  split
  · exact .nil
  · cases action with
    | receive message => exact s.receive_proper message
    | endInput ending => exact s.endInput_proper ending
    | begin => exact s.begin_proper
    | relay session => exact s.relay_proper session
    | collect session operation => exact s.within_proper session _
    | takeTurn session => exact s.within_proper session _
    | link session action => exact s.within_proper session _

theorem move_proper (m : Move) : Proper (s.move m).2 := by
  unfold move
  split
  · split
    · split
      · exact .nil
      · exact s.step_proper _
    · exact s.step_proper _
  · split
    · exact .nil
    · exact s.prepare_proper
  · split
    · exact .nil
    · exact s.within_proper _ _

theorem run_proper (actions : List Action) : Proper (s.run actions).2 := by
  induction actions generalizing s with
  | nil => exact .nil
  | cons action actions ih => exact (s.step_proper action).append (ih _)

theorem moves_proper (moves : List Move) : Proper (s.moves moves).2 := by
  induction moves generalizing s with
  | nil => exact .nil
  | cons m moves ih => exact (s.move_proper m).append (ih _)

end Server

namespace Strands

variable (x : Strands)

theorem depart_proper (request : Option Message) : Proper (x.depart request).2 := by
  have hlogged : Proper (request.map fun request => Server.log .debug "request"
      [("seq", .number request.seq.toInt), ("command", .plain request.command)]).toList := by
    cases request <;> exact .of_sent_nil rfl
  unfold depart
  split
  · exact hlogged.append (Server.within_proper _ _ _)
  · exact hlogged

theorem step_proper (step : Step) : Proper (x.step step).2 := by
  have hdoes := x.step_does step
  generalize x.step step = result at hdoes
  cases hdoes with
  | idles | rests => exact .nil
  | acts => exact x.server.move_proper _
  | departs => exact x.depart_proper _
  | reports => exact x.server.say_proper _
  | hears idle listed hears => exact .of_sent_nil (Launched.hear_hears hears).2.2
  | hangsUp => exact x.server.within_proper _ _
  | answers => exact x.server.respond_proper _ true .none none
  | terminates => exact x.server.terminate_proper

theorem run_proper (steps : List Step) : Proper (x.run steps).2 := by
  induction steps generalizing x with
  | nil => exact .nil
  | cons step steps ih => exact (x.step_proper step).append (ih _)

end Strands

/-! ## Messages -/

/-- A message that is sent in some run of the adapter's, whole or in pieces, whatever came before. -/
inductive Built (message : Outgoing) : Prop where
  | run {s : Server} {actions : List Server.Action} (sent : message ∈ Loop.sent (s.run actions).2)
  | moves {s : Server} {moves : List Server.Move} (sent : message ∈ Loop.sent (s.moves moves).2)
  | pieces {x : Strands} {steps : List Strands.Step} (sent : message ∈ Loop.sent (x.run steps).2)

theorem Built.body {message : Outgoing} (hbuilt : Built message) : Body message.content := by
  cases hbuilt with
  | run hsent => exact Server.run_proper _ _ message hsent
  | moves hsent => exact Server.moves_proper _ _ message hsent
  | pieces hsent => exact Strands.run_proper _ _ message hsent

/-- A message is an object of neat fields, and as a value it has these in the order of their names. -/
theorem Built.members {message : Outgoing} (hbuilt : Built message) : ∃ members,
    message.fields = .object members ∧ message.toJson = .ofMembers members ∧ ∀ entry ∈ members, Neat 4 entry.2 := by
  have hbody := hbuilt.body.neat
  cases message with
  | response r =>
    refine ⟨_, rfl, rfl, List.forall_mem_append.2 ⟨List.forall_mem_append.2 ⟨by simp, ?_⟩, ?_⟩⟩
    · simp
    · exact Debugger.neat_member? hbody
  | news n => exact ⟨_, rfl, rfl, List.forall_mem_append.2 ⟨by simp, Debugger.neat_member? hbody⟩⟩

theorem Built.toJson_neat {message : Outgoing} (hbuilt : Built message) : Neat Json.maxDepth message.toJson := by
  obtain ⟨members, -, hvalue, hneat⟩ := hbuilt.members
  rw [hvalue]
  exact (Neat.ofMembers hneat).mono (by decide)

theorem Built.fields_plain {message : Outgoing} (hbuilt : Built message) : message.fields.Plain Json.maxDepth := by
  obtain ⟨members, hfields, -, hneat⟩ := hbuilt.members
  rw [hfields]
  exact (Json.plain_object fun entry hmem => (hneat entry hmem).plain).mono (by decide)

theorem Built.sorted_fields {message : Outgoing} (hbuilt : Built message) : message.fields.sorted = message.toJson := by
  obtain ⟨members, hfields, hvalue, hneat⟩ := hbuilt.members
  rw [hfields, hvalue]
  exact Json.sorted_object fun entry hmem => (hneat entry hmem).ordered

/-! ## Reading back -/

/-- What is in order is read back as it was written. -/
theorem reads_neat_iff {values : List Json} (hneat : ∀ json ∈ values, json.Neat Json.maxDepth)
    (hfits : ∀ json ∈ values, Fits json) (found : List Json) :
    Reads (values.flatMap writeValue) found ↔ found = values := by
  have hsorted : values.map Json.sorted = values :=
    (List.map_congr_left fun json hmem => Json.sorted_of_ordered (hneat json hmem).ordered).trans (List.map_id values)
  rw [reads_writeValue_iff (fun json hmem => (hneat json hmem).plain) hfits, hsorted]

/-- Whatever values without floats are written one after another, nested at most 127 deep and with integers of 64 bits,
each body within the limit, exactly these are read, in order, and then the stream has ended between two messages. That
goes for all responses and events that the adapter builds, as it writes them and with their fields in their own order. -/
theorem written_messages_are_read_back :
    (∀ values : List Json, (∀ json ∈ values, json.Neat Json.maxDepth ∧ Fits json) →
      ∀ found, Reads (values.flatMap writeValue) found ↔ found = values) ∧
    ∀ messages : List Outgoing, (∀ message ∈ messages, Built message) →
      ((∀ message ∈ messages, Fits message.toJson) → ∀ logger records found,
        Reads (CommandLine.Program.write logger records messages).output found ↔ found = messages.map (·.toJson)) ∧
      ((∀ message ∈ messages, Fits message.fields) → ∀ found,
        Reads (messages.flatMap fun message => writeValue message.fields) found ↔ found = messages.map (·.toJson)) := by
  have hvalues : ∀ values : List Json, (∀ json ∈ values, json.Neat Json.maxDepth ∧ Fits json) →
      ∀ found, Reads (values.flatMap writeValue) found ↔ found = values := fun values hall =>
    reads_neat_iff (fun json hmem => (hall json hmem).1) fun json hmem => (hall json hmem).2
  refine ⟨hvalues, fun messages hbuilt => ⟨fun hfits logger records found => ?_, fun hfits found => ?_⟩⟩
  · have hall : ∀ json ∈ messages.map (·.toJson), json.Neat Json.maxDepth ∧ Fits json :=
      List.forall_mem_map.2 fun message hmem => ⟨(hbuilt message hmem).toJson_neat, hfits message hmem⟩
    rw [← hvalues _ hall found, List.flatMap_map]
    rfl
  · -- The fields are plain, but need not be in the order of their names.
    have hplain : ∀ json ∈ messages.map Outgoing.fields, json.Plain Json.maxDepth :=
      List.forall_mem_map.2 fun message hmem => (hbuilt message hmem).fields_plain
    have hsorted : (messages.map Outgoing.fields).map Json.sorted = messages.map (·.toJson) := by
      rw [List.map_map]
      exact List.map_congr_left fun message hmem => (hbuilt message hmem).sorted_fields
    have hiff := reads_writeValue_iff hplain (List.forall_mem_map.2 hfits) found
    rwa [hsorted, List.flatMap_map] at hiff

/-- Integers at both ends of their range and a text of quotes, a control character and characters outside ASCII. -/
def oddValue : Json :=
  .object [("n", .array [.int (-9223372036854775808), .int 18446744073709551615, .null, .bool true]),
    ("text", .string "a\"\\/\n\x01é𝄞")]

theorem oddValue_neat : Neat Json.maxDepth oddValue := by
  have harray : Neat 1 (.array [.int (-9223372036854775808), .int 18446744073709551615, .null, .bool true]) :=
    .array (by simp)
  have hobject : Neat 2 oddValue := @Neat.ofMembers 1 [("n", _), ("text", _)] (by simp [harray])
  exact hobject.mono (by decide)

theorem oddValue_fits : Fits oddValue where
  integers := by decide +kernel
  size := by decide +kernel

/-- The answer to a request for what the adapter can do. -/
def greeting : Outgoing :=
  .response { seq := 1, requestSeq := 7, command := "initialize", success := true, body := some capabilities }

theorem greeting_built : Built greeting := by
  have hsent : greeting ∈ Loop.sent (Server.run {} [.receive { seq := 7, command := "initialize" }]).2 :=
    List.mem_singleton.2 rfl
  exact .run hsent

theorem greeting_fits : Fits greeting.toJson ∧ Fits greeting.fields := by
  refine ⟨⟨?_, ?_⟩, ⟨?_, ?_⟩⟩ <;> decide +kernel

/-- An odd value twice, and the answer in both forms. -/
theorem written_messages_are_read_back_in_order :
    let logger : CommandLine.Logger := { filter := [], json := false, stderr := true, file := none }
    Reads (writeValue oddValue ++ writeValue oddValue) [oddValue, oddValue] ∧
      Reads (CommandLine.Program.write logger [] [greeting]).output [greeting.toJson] ∧
      Reads (writeValue greeting.fields) [greeting.toJson] := by
  obtain ⟨hvalues, hmessages⟩ := written_messages_are_read_back
  obtain ⟨hvalue, hfields⟩ := hmessages [greeting] (by simp [greeting_built])
  refine ⟨?_, (hvalue (by simp [greeting_fits]) _ [] _).2 rfl, ?_⟩
  · have htwice := (hvalues [oddValue, oddValue] (by simp [oddValue_neat, oddValue_fits]) _).2 rfl
    simpa using htwice
  · have honce := (hfields (by simp [greeting_fits]) _).2 rfl
    simpa using honce

end DebugBridge.Adapter
