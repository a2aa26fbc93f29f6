import Ocpp.ChargePoint.Configuration
import Ocpp.ChargePoint.Peers
import Ocpp.Transport.RealTime

/-!
# The configuration over the wire

A CSMS that reads and writes the configuration of a charge point in any number of overlapping calls, over the
connection, the dispatchers and the store between them.
-/

namespace Ocpp.ChargePoint.Peers
open Library Transport Link Configuration V16j

/-! ## The dispatcher of the charge point -/

section Dispatcher

variable {θ : Type} (explain : Json → String) (others : Router θ)

/-- A route whose handler does not capture the store. -/
def beside (route : Route θ) : Route (ConfigurationStore × θ) where
  handler state payload uniqueId :=
    let (answer, rest) := route.handler state.2 payload uniqueId
    (answer, state.1, rest)
  skipValidation := route.skipValidation

def changeHandler (state : ConfigurationStore × θ) (request : ChangeConfigurationRequest) :
    Except OcppError ChangeConfigurationResponse × (ConfigurationStore × θ) :=
  let (response, store) := state.1.changeConfiguration request
  (.ok response, store, state.2)

def getHandler (state : ConfigurationStore × θ) (request : GetConfigurationRequest) :
    Except OcppError GetConfigurationResponse × (ConfigurationStore × θ) :=
  (.ok (state.1.getConfiguration request), state)

/-- The dispatcher with the two handlers that capture the store, beside all others. -/
def configuredDispatcher : Router (ConfigurationStore × θ) :=
  let dispatcher : Router (ConfigurationStore × θ) :=
    { handlers := HashMap.mapTo (fun _ => beside) others.handlers
      afterHooks := others.afterHooks
      validator := others.validator }
  (dispatcher.register (changeConfiguration explain) changeHandler false).register (getConfiguration explain)
    getHandler false

theorem configuredDispatcher_lookup (action : String) :
    (configuredDispatcher explain others).handlers.lookup action =
      if action = "GetConfiguration" then some ⟨(getConfiguration explain).erase getHandler, false⟩
      else if action = "ChangeConfiguration" then some ⟨(changeConfiguration explain).erase changeHandler, false⟩
      else (others.handlers.lookup action).map beside := by
  have inner := HashMap.lookup_insert (HashMap.mapTo (fun _ => beside) others.handlers) "ChangeConfiguration" action
    (⟨(changeConfiguration explain).erase changeHandler, false⟩ : Route _)
  rw [HashMap.lookup_mapTo] at inner
  exact (HashMap.lookup_insert ..).trans (if_congr Iff.rfl rfl inner)

/-- What a CALL writes: the entry of a `ChangeConfiguration` that passes the check of its payload and is read. -/
def written (validator : Option SchemaValidator) (call : CallMessage) : Option (String × String) :=
  if call.action = "ChangeConfiguration" then
    match validated validator (·.validateCall call.action call.payload) with
    | .ok () => (ChangeConfigurationRequest.fromJson call.payload).map fun request => (request.key, request.value)
    | .error _ => none
  else none

theorem validated_unskipped {η : Type} (router : Router η) (handler : η → Json → String → Except OcppError Json × η)
    (check : SchemaValidator → Except OcppError Unit) :
    router.validated ⟨handler, false⟩ check = validated router.validator check := by
  cases held : router.validator <;> simp [Router.validated, validated, held]

/-- A CALL leaves the state of the handlers as it is, or has its route lead it on. -/
theorem dispatch_state {η : Type} (router : Router η) (state : η × List SpawnedHook) (call : CallMessage) :
    (router.dispatch state call).2.1 =
      match router.handlers.lookup call.action with
      | none => state.1
      | some route =>
          match router.validated route (·.validateCall call.action call.payload) with
          | .error _ => state.1
          | .ok () => (route.handler state.1 call.payload call.uniqueId).2 := by
  fun_cases Router.dispatch router state call
  case case1 unrouted => rw [unrouted]
  case case2 route routed e refused => simp only [routed, refused]
  all_goals simp only [*]

theorem dispatch_registers (state : (ConfigurationStore × θ) × List SpawnedHook) (call : CallMessage) :
    ((configuredDispatcher explain others).dispatch state call).2.1.1.registers =
      state.1.1.registers.writeAll (written others.validator call).toList := by
  have validator : (configuredDispatcher explain others).validator = others.validator := rfl
  rw [dispatch_state, configuredDispatcher_lookup]
  by_cases gets : call.action = "GetConfiguration"
  · have silent : written others.validator call = none := by simp [written, gets]
    rw [if_pos gets, silent]
    simp only [validated_unskipped, validator]
    split
    · rfl
    · simp only [Router.Typed.erase]
      cases (getConfiguration explain).fromValue call.payload <;> rfl
  · by_cases changes : call.action = "ChangeConfiguration"
    · rw [if_neg gets, if_pos changes, written, if_pos changes]
      simp only [validated_unskipped, validator]
      cases validated others.validator (·.validateCall call.action call.payload) with
      | error e => rfl
      | ok _ =>
          simp only [Router.Typed.erase, changeConfiguration, typed]
          cases ChangeConfigurationRequest.fromJson call.payload with
          | none => rfl
          | some request => exact state.1.1.changeConfiguration_registers request
    · have silent : written others.validator call = none := by simp [written, changes]
      rw [if_neg gets, if_neg changes, silent]
      cases others.handlers.lookup call.action with
      | none => rfl
      | some route =>
          simp only [Option.map_some]
          split <;> rfl

variable {explain others}

theorem dispatch_ok {η : Type} {router : Router η} {state : η × List SpawnedHook} {call : CallMessage} {payload : Json}
    (responded : (router.dispatch state call).1 = .ok payload) : ∃ route,
      router.handlers.lookup call.action = some route ∧
      router.validated route (·.validateCall call.action call.payload) = .ok () ∧
      (route.handler state.1 call.payload call.uniqueId).1 = .ok payload := by
  revert responded
  fun_cases Router.dispatch router state call <;> intro responded
  case case5 route routed passed response inner handled checked hook =>
    exact ⟨route, routed, passed, by rw [handled, ← responded]⟩
  all_goals cases responded

theorem dispatch_get {state : (ConfigurationStore × θ) × List SpawnedHook} {call : CallMessage} {payload : Json}
    (gets : call.action = "GetConfiguration")
    (responded : ((configuredDispatcher explain others).dispatch state call).1 = .ok payload) :
    ∃ request, GetConfigurationRequest.fromJson call.payload = some request ∧
      payload = (state.1.1.getConfiguration request).toJson := by
  obtain ⟨route, routed, -, handled⟩ := dispatch_ok responded
  rw [configuredDispatcher_lookup, if_pos gets] at routed
  obtain rfl := Option.some.inj routed
  simp only [Router.Typed.erase, getConfiguration, typed] at handled
  cases read : GetConfigurationRequest.fromJson call.payload with
  | none =>
      rw [read] at handled
      cases handled
  | some request =>
      rw [read] at handled
      exact ⟨request, rfl, (Except.ok.inj handled).symm⟩

theorem dispatch_change {state : (ConfigurationStore × θ) × List SpawnedHook} {call : CallMessage} {payload : Json}
    (changes : call.action = "ChangeConfiguration")
    (responded : ((configuredDispatcher explain others).dispatch state call).1 = .ok payload) :
    ∃ request, ChangeConfigurationRequest.fromJson call.payload = some request ∧
      written others.validator call = some (request.key, request.value) ∧
      payload = (state.1.1.changeConfiguration request).1.toJson := by
  obtain ⟨route, routed, passed, handled⟩ := dispatch_ok responded
  have other : call.action ≠ "GetConfiguration" := by simp [changes]
  rw [configuredDispatcher_lookup, if_neg other, if_pos changes] at routed
  obtain rfl := Option.some.inj routed
  have validator : (configuredDispatcher explain others).validator = others.validator := rfl
  rw [validated_unskipped, validator] at passed
  simp only [Router.Typed.erase, changeConfiguration, typed] at handled
  cases read : ChangeConfigurationRequest.fromJson call.payload with
  | none =>
      rw [read] at handled
      cases handled
  | some request =>
      rw [read] at handled
      refine ⟨request, rfl, ?_, (Except.ok.inj handled).symm⟩
      rw [written, if_pos changes, passed, read]
      rfl

end Dispatcher

/-! ## A write and a read -/

section Tables

/-- The text of some values, given one by one. -/
def tableText (table : List (Json × String)) : JsonText where
  print value := (table.lookup value).getD "null"
  parse frame := ((table.find? (·.2 = frame)).map Prod.fst).elim (.error "expected value") .ok

def checkReadBack {η : Side → Type} (text : JsonText) (ends : ∀ side, End (η side)) (s : Connection η) : Action → Bool
  | .call _ _ _ => true
  | .loop side action =>
      match (s.peers side).loopStep text (ends side) (s.wires side) action with
      | some (_, _, some message) => (text.parse (writeFrame text message)).toOption = some message.toJson
      | _ => true

theorem readBack_of_check {η : Side → Type} {text : JsonText} {ends : ∀ side, End (η side)} {s : Connection η}
    {actions : List Action} (checked : checkAlong (step text ends) (checkReadBack text ends) s actions) :
    Along (step text ends) (ReadBack text ends) s actions := by
  apply Along.of_check (fun _ => True) _ _ (fun _ _ _ _ _ _ => trivial) trivial checked
  intro s action _ here
  cases action with
  | call side c action => trivial
  | loop side action =>
      intro peer inbound message stepped
      simp only [checkReadBack, stepped, decide_eq_true_eq] at here
      cases parsed : text.parse (writeFrame text message) with
      | error e => simp [parsed, Except.toOption] at here
      | ok value =>
          obtain rfl : value = message.toJson := by simpa [parsed, Except.toOption] using here
          rfl

deriving instance DecidableEq for CallMessage

def hasReturned {η : Side → Type} (c : Nat) (call : CallMessage) (payload : Json) (s : Connection η) : Bool :=
  match (s.peers .csms).calls c with
  | ⟨some call', .returned (.ok payload')⟩ => call' = call ∧ payload' = payload
  | _ => false

theorem returned_of_check {η : Side → Type} {c : Nat} {call : CallMessage} {payload : Json} {s : Connection η}
    (checked : hasReturned c call payload s) : (s.peers .csms).calls c = ⟨some call, .returned (.ok payload)⟩ := by
  rw [hasReturned] at checked
  split at checked
  next call' payload' found =>
    obtain ⟨rfl, rfl⟩ := of_decide_eq_true checked
    exact found
  next => cases checked

def isIdle {η : Side → Type} (c : Nat) (s : Connection η) : Bool :=
  match ((s.peers .csms).calls c).state with
  | .idle => true
  | _ => false

theorem idle_of_check {η : Side → Type} {c : Nat} {s : Connection η} (checked : isIdle c s) :
    ((s.peers .csms).calls c).state = .idle := by
  rw [isIdle] at checked
  split at checked
  next found => exact found
  next => cases checked

/-- A check of the state that a run of fixed actions ends in is evaluated on the run. -/
theorem run_check {η : Side → Type} {text : JsonText} {ends : ∀ side, End (η side)} {start s : Connection η}
    {actions : List Action} {check : Connection η → Bool} (ran : run (step text ends) start actions = some s)
    (checked : (run (step text ends) start actions).all check) : check s := by
  rwa [ran, Option.all_some] at checked

end Tables

/-! ## Conversations -/

section Conversation

/-- What the handlers have: those of the charge point the store, beside what the others have. -/
abbrev Handlers (θ κ : Type) : Side → Type
  | .chargePoint => ConfigurationStore × θ
  | .csms => κ

variable {θ κ : Type}

def configured (parties : Parties (Handlers θ κ)) (explain : Json → String) (others : Router θ) :
    Parties (Handlers θ κ) where
  text := parties.text
  maxMessageSize := parties.maxMessageSize
  validator := parties.validator
  router
    | .chargePoint => configuredDispatcher explain others
    | .csms => parties.router .csms
  cpId := parties.cpId

variable {parties : Parties (Handlers θ κ)} {explain : Json → String} {others : Router θ}

theorem after_registers (state : State (Handlers θ κ) .chargePoint) (calls : List CallMessage) :
    ((ends (configured parties explain others) .chargePoint).service.after state calls).1.1.registers =
      state.1.1.registers.writeAll (calls.filterMap (written others.validator)) := by
  rw [← Registers.foldl_writeAll]
  apply Service.after_view _ (fun state : State (Handlers θ κ) .chargePoint => state.1.1.registers)
  intro state call
  exact (congrArg (·.1.1.registers) (handle_state (configured parties explain others) .chargePoint state call)).trans
    (dispatch_registers explain others state call)

variable {start : ∀ side, State (Handlers θ κ) side} {actions : List Action} {s : Connection (State (Handlers θ κ))}

/-- A call that has returned a payload has it from the handler, in the state that the CALLs before it have led to. -/
theorem ok_call_dispatched {η : Side → Type} (parties : Parties η) {start : ∀ side, State η side}
    {s : Connection (State η)} (sound : Sound parties.text (ends parties) start s) {side : Side}
    {c : Nat} {call : CallMessage} {payload : Json}
    (returned : (s.peers side).calls c = ⟨some call, .returned (.ok payload)⟩) :
    ∃ before, before ++ [call] <+: (s.peers side).sent ∧ ((parties.router side.other).dispatch
      ((ends parties side.other).service.after (start side.other) before) call).1 = .ok payload := by
  obtain ⟨before, reply, sent, replied, answer, read, same⟩ := sound.answered_after returned
  obtain ⟨rfl, -⟩ := result_ok same
  exact ⟨before, sent, handle_response parties replied read⟩

/-- Whatever calls overlap, a `GetConfiguration` that returns reports what the `ChangeConfiguration`s have written that
the CSMS has sent before it, and none that it has sent later. -/
theorem configuration_linearizable
    (readBack : Along (step parties.text (ends (configured parties explain others)))
      (ReadBack parties.text (ends (configured parties explain others))) (.new start) actions)
    (ran : run (step parties.text (ends (configured parties explain others))) (.new start) actions = some s)
    {c : Nat} {call : CallMessage} {payload : Json}
    (returned : (s.peers .csms).calls c = ⟨some call, .returned (.ok payload)⟩)
    (gets : call.action = "GetConfiguration") :
    ∃ before later request response, (s.peers .csms).sent = before ++ call :: later ∧
      GetConfigurationRequest.fromJson call.payload = some request ∧
      GetConfigurationResponse.fromJson payload = some response ∧
      Reports ((start .chargePoint).1.1.registers.holding (before.filterMap (written others.validator))) request
        response := by
  have sound : Sound parties.text (ends (configured parties explain others)) start s :=
    sound_run (ends_reads (configured parties explain others)) readBack ran
  obtain ⟨before, ⟨later, sent⟩, responded⟩ := ok_call_dispatched (configured parties explain others) sound returned
  obtain ⟨request, read, rfl⟩ := dispatch_get gets responded
  refine ⟨before, later, request, _, by simpa using sent.symm, read, GetConfigurationResponse.fromJson_toJson _, ?_⟩
  rw [← Registers.writeAll_eq, ← after_registers]
  exact getConfiguration_reports _ request

def changeCall : CallMessage :=
  ⟨.call, "1", "ChangeConfiguration", (ChangeConfigurationRequest.mk "HeartbeatInterval" "60").toJson⟩

def getCall : CallMessage :=
  ⟨.call, "2", "GetConfiguration", (GetConfigurationRequest.mk (some ["HeartbeatInterval"])).toJson⟩

def heartbeatInterval : GetConfigurationResponse :=
  ⟨some [⟨"HeartbeatInterval", some "60", some false⟩], none⟩

def configurationText : JsonText := tableText
  [((Message.call changeCall).toJson, "\x7b\"0\":\"CALL\",\"1\":\"1\",\"2\":\"ChangeConfiguration\"," ++
      "\"3\":\x7b\"key\":\"HeartbeatInterval\",\"value\":\"60\"\x7d\x7d"),
   ((Message.newCallResult "1" (ChangeConfigurationResponse.mk .accepted).toJson).toJson,
      "\x7b\"0\":\"CALLRESULT\",\"1\":\"1\",\"2\":\x7b\"status\":\"Accepted\"\x7d\x7d"),
   ((Message.call getCall).toJson, "\x7b\"0\":\"CALL\",\"1\":\"2\",\"2\":\"GetConfiguration\"," ++
      "\"3\":\x7b\"key\":[\"HeartbeatInterval\"]\x7d\x7d"),
   ((Message.newCallResult "2" heartbeatInterval.toJson).toJson, "\x7b\"0\":\"CALLRESULT\",\"1\":\"2\"," ++
      "\"2\":\x7b\"configurationKey\":[\x7b\"key\":\"HeartbeatInterval\",\"readonly\":false," ++
      "\"value\":\"60\"\x7d]\x7d\x7d")]

def remoteParties : Parties (Handlers Unit Unit) where
  text := configurationText
  maxMessageSize _ := 65536
  validator _ := none
  router
    | .chargePoint => configuredDispatcher (fun _ => "missing field") emptyRouter
    | .csms => emptyRouter
  cpId := "CP1"

def remoteEnds : ∀ side, End (State (Handlers Unit Unit) side) :=
  ends (configured remoteParties (fun _ => "missing field") emptyRouter)

def remoteStart : ∀ side, State (Handlers Unit Unit) side
  | .chargePoint => ((.new, ()), [])
  | .csms => ((), [])

/-- A call of the CSMS from its beginning to its return. -/
def exchanged (c : Nat) (call : CallMessage) : List Action :=
  [.call .csms c (.begin call.action call.payload call.uniqueId true), .call .csms c .send, .loop .csms .flush,
    .loop .chargePoint .deliver, .loop .csms .deliver, .call .csms c .receive]

def remoteStep : Connection (State (Handlers Unit Unit)) → Action → Option (Connection (State (Handlers Unit Unit))) :=
  step configurationText remoteEnds

theorem remote_readBack : Along remoteStep (ReadBack configurationText remoteEnds) (.new remoteStart)
    (exchanged 0 changeCall ++ exchanged 1 getCall) :=
  readBack_of_check (by decide +kernel)

theorem heartbeatInterval_read : ∃ s,
    run remoteStep (.new remoteStart) (exchanged 0 changeCall ++ exchanged 1 getCall) = some s ∧
      ∃ before later request response, (s.peers .csms).sent = before ++ getCall :: later ∧
        GetConfigurationRequest.fromJson getCall.payload = some request ∧
        GetConfigurationResponse.fromJson heartbeatInterval.toJson = some response ∧
        Reports ((remoteStart .chargePoint).1.1.registers.holding
          (before.filterMap (written emptyRouter.validator))) request response := by
  obtain ⟨s, ran⟩ := Option.isSome_iff_exists.mp (show (run remoteStep (.new remoteStart)
    (exchanged 0 changeCall ++ exchanged 1 getCall)).isSome by decide +kernel)
  have returned : (s.peers .csms).calls 1 = ⟨some getCall, .returned (.ok heartbeatInterval.toJson)⟩ :=
    returned_of_check (run_check ran (by decide +kernel))
  exact ⟨s, ran, @configuration_linearizable Unit Unit remoteParties (fun _ => "missing field") emptyRouter remoteStart
    _ s remote_readBack ran 1 getCall _ returned rfl⟩

/-- A `GetConfiguration` that begins once a `ChangeConfiguration` has returned reports what that one has written, or
what a `ChangeConfiguration` has that the CSMS has sent between the two. -/
theorem read_own_write {more : List Action} {t : Connection (State (Handlers θ κ))}
    (readBack : Along (step parties.text (ends (configured parties explain others)))
      (ReadBack parties.text (ends (configured parties explain others))) (.new start) (actions ++ more))
    (ran : run (step parties.text (ends (configured parties explain others))) (.new start) actions = some s)
    (ranOn : run (step parties.text (ends (configured parties explain others))) s more = some t)
    {c c' : Nat} {change get : CallMessage} {changed payload : Json}
    (returned : (s.peers .csms).calls c = ⟨some change, .returned (.ok changed)⟩)
    (changes : change.action = "ChangeConfiguration") (idle : ((s.peers .csms).calls c').state = .idle)
    (returned' : (t.peers .csms).calls c' = ⟨some get, .returned (.ok payload)⟩)
    (gets : get.action = "GetConfiguration") :
    ∃ write before between later request response,
      (t.peers .csms).sent = before ++ change :: between ++ get :: later ∧
      ChangeConfigurationRequest.fromJson change.payload = some write ∧
      ChangeConfigurationResponse.fromJson changed =
        some ⟨if (start .chargePoint).1.1.isReadonly write.key then .rejected else .accepted⟩ ∧
      GetConfigurationRequest.fromJson get.payload = some request ∧
      GetConfigurationResponse.fromJson payload = some response ∧
      (¬(start .chargePoint).1.1.isReadonly write.key → (∀ keys ∈ request.key, write.key ∈ keys) →
        ∃ entry ∈ response.configurationKeys.getD [], entry = ⟨write.key,
          some ((lastWrite (between.filterMap (written others.validator)) write.key).getD write.value), some false⟩ ∧
          ∀ other ∈ response.configurationKeys.getD [], other.key = write.key → other = entry) := by
  obtain ⟨readBack', readBackOn⟩ := Along.append.mp readBack
  have sound : Sound parties.text (ends (configured parties explain others)) start s :=
    sound_run (ends_reads (configured parties explain others)) readBack' ran
  have soundOn : Sound parties.text (ends (configured parties explain others)) start t :=
    sound_run (ends_reads (configured parties explain others)) readBack
      (by rw [run_append, ran, Option.bind_some, ranOn])
  obtain ⟨before, sent, accepted⟩ := ok_call_dispatched (configured parties explain others) sound returned
  obtain ⟨earlier, ⟨later, sentOn⟩, responded⟩ :=
    ok_call_dispatched (configured parties explain others) soundOn returned'
  obtain ⟨write, readChange, wrote, rfl⟩ := dispatch_change changes accepted
  obtain ⟨request, readGet, rfl⟩ := dispatch_get gets responded
  -- the change was sent by then, and the get was not
  have unsent := not_sent_before sound ranOn idle (congrArg Call.request returned')
  have inOrder := prefix_of_not_mem (run_later ranOn .csms).sent ⟨later, sentOn⟩ unsent
  obtain ⟨between, split⟩ := sent.trans inOrder
  obtain rfl : earlier = before ++ change :: between := by simpa using split.symm
  refine ⟨write, before, between, later, request, _, by simpa using sentOn.symm, readChange, ?_, readGet,
    GetConfigurationResponse.fromJson_toJson _, ?_⟩
  · rw [ChangeConfigurationResponse.fromJson_toJson]
    have status := ConfigurationStore.changeConfiguration_status
      ((ends (configured parties explain others) .chargePoint).service.after (start .chargePoint) before).1.1 write
    rw [after_registers, Registers.readonly_writeAll] at status
    exact congrArg (some ∘ ChangeConfigurationResponse.mk) status
  · intro writable asked
    have reports := getConfiguration_reports ((ends (configured parties explain others) .chargePoint).service.after
      (start .chargePoint) (before ++ change :: between)).1.1 request
    rw [after_registers, Registers.writeAll_eq, List.filterMap_append, List.filterMap_cons_some wrote] at reports
    obtain ⟨held, complete⟩ := reports.entries
    have entry : entryOf ((start .chargePoint).1.1.registers.holding (before.filterMap (written others.validator) ++
        (write.key, write.value) :: between.filterMap (written others.validator))) write.key =
        some ⟨write.key, some ((lastWrite (between.filterMap (written others.validator)) write.key).getD write.value),
          some false⟩ := by
      have open_ : (start .chargePoint).1.1.registers.readonly write.key = false := Bool.eq_false_iff.mpr writable
      simp only [entryOf, Registers.holding, open_, lastWrite_written, Bool.false_eq_true, if_false, Option.some_or,
        Option.map_some]
    refine ⟨_, complete write.key _ asked entry, rfl, fun other member named => ?_⟩
    have here := held other member
    rw [named, entry] at here
    exact (Option.some.inj here).symm

theorem heartbeatInterval_reread : ∃ s t,
    run remoteStep (.new remoteStart) (exchanged 0 changeCall) = some s ∧
    run remoteStep s (exchanged 1 getCall) = some t ∧
      ∃ write before between later request response,
        (t.peers .csms).sent = before ++ changeCall :: between ++ getCall :: later ∧
        ChangeConfigurationRequest.fromJson changeCall.payload = some write ∧
        ChangeConfigurationResponse.fromJson (ChangeConfigurationResponse.mk .accepted).toJson =
          some ⟨if (remoteStart .chargePoint).1.1.isReadonly write.key then .rejected else .accepted⟩ ∧
        GetConfigurationRequest.fromJson getCall.payload = some request ∧
        GetConfigurationResponse.fromJson heartbeatInterval.toJson = some response ∧
        (¬(remoteStart .chargePoint).1.1.isReadonly write.key → (∀ keys ∈ request.key, write.key ∈ keys) →
          ∃ entry ∈ response.configurationKeys.getD [], entry = ⟨write.key, some ((lastWrite
            (between.filterMap (written emptyRouter.validator)) write.key).getD write.value), some false⟩ ∧
            ∀ other ∈ response.configurationKeys.getD [], other.key = write.key → other = entry) := by
  obtain ⟨t, whole⟩ := Option.isSome_iff_exists.mp (show (run remoteStep (.new remoteStart)
    (exchanged 0 changeCall ++ exchanged 1 getCall)).isSome by decide +kernel)
  obtain ⟨s, ran, ranOn⟩ := Option.bind_eq_some_iff.mp ((run_append _ _ _).symm.trans whole)
  have returned : (s.peers .csms).calls 0 =
      ⟨some changeCall, .returned (.ok (ChangeConfigurationResponse.mk .accepted).toJson)⟩ :=
    returned_of_check (run_check ran (by decide +kernel))
  have returned' : (t.peers .csms).calls 1 = ⟨some getCall, .returned (.ok heartbeatInterval.toJson)⟩ :=
    returned_of_check (run_check whole (by decide +kernel))
  have idle : ((s.peers .csms).calls 1).state = .idle := idle_of_check (run_check ran (by decide +kernel))
  exact ⟨s, t, ran, ranOn, @read_own_write Unit Unit remoteParties (fun _ => "missing field") emptyRouter remoteStart
    _ s _ t remote_readBack ran ranOn 0 1 changeCall getCall _ _ returned rfl idle returned' rfl⟩

end Conversation

end Ocpp.ChargePoint.Peers
