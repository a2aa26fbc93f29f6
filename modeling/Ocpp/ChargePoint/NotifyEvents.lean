import Ocpp.ChargePoint.MonitorTrips
import Ocpp.Library.Tickets
import Ocpp.Types.Error

/-!
# Events of tripped monitors

`NotifyEvent` of `lib.rs`: `trip_variable_monitor` and the consumer of the trips that `SetVariables` queues share
`emit_monitor_notify_event`, which passes the reporting level, draws an `eventId` for each event and a `seqNo`, and
calls. Any number of emissions overlap, and each ends wherever its future is dropped.
-/

namespace Ocpp.ChargePoint
open Library

variable (toLowercase : String → String) (parseF64 : List Char → Option UInt64)

inductive EventTriggerEnumType
  | alerting
  | delta
  | periodic
deriving DecidableEq

inductive EventNotificationEnumType
  | hardWiredNotification
  | hardWiredMonitor
  | preconfiguredMonitor
  | customMonitor
deriving DecidableEq

structure EventDataType where
  eventId : Int32
  timestamp : String
  trigger : EventTriggerEnumType
  actualValue : String
  eventNotificationType : EventNotificationEnumType
  component : ComponentType
  variable_ : VariableType
  cause : Option Int
  techCode : Option String
  techInfo : Option String
  cleared : Option Bool
  transactionId : Option String
  variableMonitoringId : Option Int
  customData : Option CustomDataType
deriving DecidableEq

structure NotifyEventRequest where
  generatedAt : String
  seqNo : Int32
  eventData : List EventDataType
  tbc : Option Bool
  customData : Option CustomDataType
deriving DecidableEq

inductive MonitorTripOutcome
  | noMonitor
  | emitted (events : ℕ) (seqNo : Int32)
deriving DecidableEq

def v201EventTriggerForMonitor : MonitorEnumType → EventTriggerEnumType
  | .upperThreshold | .lowerThreshold => .alerting
  | .delta => .delta
  | .periodic | .periodicClockAligned => .periodic

def v201MonitorEventData (eventId : Int32) (timestamp : String) (monitorKind : MonitorEnumType) (actualValue : String)
    (component : ComponentType) (variable_ : VariableType) (variableMonitoringId : Int) : EventDataType where
  eventId
  timestamp
  trigger := v201EventTriggerForMonitor monitorKind
  actualValue
  eventNotificationType := .customMonitor
  component
  variable_
  cause := none
  techCode := none
  techInfo := none
  cleared := none
  transactionId := none
  variableMonitoringId := some variableMonitoringId
  customData := none

def v201NotifyEventRequest (generatedAt : String) (seqNo : Int32) (eventData : List EventDataType) :
    NotifyEventRequest where
  generatedAt
  seqNo
  eventData
  tbc := none
  customData := none

/-- `iteration` is the order in which the map gives its monitors. -/
def V201DeviceModel.monitorsForVariable (iteration : List (Σ _ : Int, MonitorEntry)) (component variable_ : String) :
    List TrippedMonitor :=
  let key := monitorLookupKey toLowercase component variable_
  let matches_ := ((iteration.map (·.2)).filter (·.key = key)).map (·.toTripped)
  sortByKey (·.id) matches_

/-! ## Emissions -/

inductive Emitter
  | call (n : ℕ)
  | consumer
deriving DecidableEq

/-- What the reporting level has let through of a trip, and when. -/
structure Decision where
  emitter : Emitter
  trip : V201MonitorTrip
  activeLevel : Int
  generatedAt : String
deriving DecidableEq

def Decision.reportable (decision : Decision) : List TrippedMonitor :=
  decision.trip.monitors.filter (·.severity ≤ decision.activeLevel)

def Decision.event (decision : Decision) (eventId : Int32) (monitor : TrippedMonitor) : EventDataType :=
  v201MonitorEventData eventId decision.generatedAt monitor.kind decision.trip.actualValue monitor.component
    monitor.variable_ monitor.id

/-- A request that has got its numbers, and whether it was sent. -/
structure Notification where
  decision : Decision
  request : NotifyEventRequest
  sent : Bool

inductive Stage
  | idle
  | matched (trip : V201MonitorTrip)
  | numbering (decision : Decision) (eventData : List EventDataType)
  | calling (decision : Decision) (request : NotifyEventRequest)
  | awaiting (request : NotifyEventRequest)
  | returned (outcome : Except OcppError MonitorTripOutcome)
  | dropped

/-- The station, and what it has queued, decided and called so far. -/
structure NotifyEvents where
  model : V201DeviceModel
  activeMonitoringLevel : Int
  commands : List V201MonitorTrip
  consuming : Bool
  nextNotifyEventSeqNo : Int32
  nextNotifyEventId : Int32
  stages : Emitter → Stage
  queued : List V201MonitorTrip
  decisions : List Decision
  log : List Notification

namespace NotifyEvents

def new : NotifyEvents where
  model := .new
  activeMonitoringLevel := 9
  commands := []
  consuming := true
  nextNotifyEventSeqNo := 0
  nextNotifyEventId := 1
  stages _ := .idle
  queued := []
  decisions := []
  log := []

inductive Action
  | seed (component variable_ : String) (attribute_ : AttributeEnumType) (value : String) (policy : WritePolicy)
  | setVariables (iteration : List (Σ _ : Int, MonitorEntry)) (setVariableData : List SetVariableDataType)
  | setVariableMonitoring (data : List SetMonitoringDataType)
  | clearVariableMonitoring (ids : List Int)
  | setMonitoringLevel (severity : Int)
  | stopConsumer
  | tripVariableMonitor (n : ℕ) (iteration : List (Σ _ : Int, MonitorEntry)) (component variable_ actualValue : String)
  | dequeue
  | gate (e : Emitter) (now : String)
  | claimEventId (e : Emitter)
  | claimSeqNo (e : Emitter)
  | send (e : Emitter)
  | refuse (e : Emitter) (error : OcppError)
  | settle (e : Emitter) (outcome : Except OcppError Unit)
  | drop (e : Emitter)

def setMonitoringLevel (s : NotifyEvents) (severity : Int) : Bool × NotifyEvents :=
  if 0 ≤ severity ∧ severity ≤ 9 then (true, { s with activeMonitoringLevel := severity }) else (false, s)

def put (s : NotifyEvents) (e : Emitter) (stage : Stage) : NotifyEvents :=
  { s with stages := Function.update s.stages e stage }

/-- The commands go into the queue, unless its receiver is gone. -/
def enqueue (s : NotifyEvents) (trips : List V201MonitorTrip) : NotifyEvents :=
  if s.consuming then { s with commands := s.commands ++ trips, queued := s.queued ++ trips } else s

/-- The call of the emitter ends before the request is sent. -/
def unsent (s : NotifyEvents) (e : Emitter) (stage : Stage) (decision : Decision) (request : NotifyEventRequest) :
    NotifyEvents :=
  { s.put e stage with log := s.log ++ [⟨decision, request, false⟩] }

/-- The future that the emitter runs is dropped, at one of its `await`s. -/
def drop (s : NotifyEvents) (e : Emitter) : Option NotifyEvents :=
  match s.stages e with
  | .idle | .returned _ | .dropped => some s
  | .matched _ | .awaiting _ => some (s.put e .dropped)
  | .calling decision request => some (s.unsent e .dropped decision request)
  -- the numbers are drawn without an `await`
  | .numbering _ _ => none

def step (s : NotifyEvents) : Action → Option NotifyEvents
  | .seed component variable_ attribute_ value policy =>
      some { s with model := s.model.seedStationVariable toLowercase component variable_ attribute_ value policy }
  | .setVariables iteration setVariableData =>
      if iteration.Perm s.model.monitors.entries then
        let handled := SetVariables.handle toLowercase parseF64 iteration s.model setVariableData
        some ({ s with model := handled.model }.enqueue handled.trips)
      else none
  | .setVariableMonitoring data => some { s with model := (s.model.installMonitors toLowercase data).2 }
  | .clearVariableMonitoring ids => some { s with model := (s.model.clearMonitors ids).2 }
  | .setMonitoringLevel severity => some (s.setMonitoringLevel severity).2
  | .stopConsumer =>
      (s.drop .consumer).map fun t => { t with commands := [], consuming := false }
  | .tripVariableMonitor n iteration component variable_ actualValue =>
      match s.stages (.call n) with
      | .idle =>
          if iteration.Perm s.model.monitors.entries then
            let matched := V201DeviceModel.monitorsForVariable toLowercase iteration component variable_
            some (s.put (.call n)
              (if matched.isEmpty then .returned (.ok .noMonitor) else .matched ⟨matched, actualValue⟩))
          else none
      | _ => none
  | .dequeue =>
      match s.stages .consumer, s.commands with
      | .idle, trip :: rest | .returned _, trip :: rest =>
          some { s.put .consumer (.matched trip) with commands := rest }
      | _, _ => none
  | .gate e now =>
      match s.stages e with
      | .matched trip =>
          let decision : Decision := ⟨e, trip, s.activeMonitoringLevel, now⟩
          some { s.put e (if decision.reportable.isEmpty then .returned (.ok .noMonitor) else .numbering decision [])
            with decisions := s.decisions ++ [decision] }
      | _ => none
  | .claimEventId e =>
      match s.stages e with
      | .numbering decision eventData =>
          (decision.reportable[eventData.length]?).map fun monitor =>
            { s.put e (.numbering decision (eventData ++ [decision.event s.nextNotifyEventId monitor])) with
              nextNotifyEventId := s.nextNotifyEventId + 1 }
      | _ => none
  | .claimSeqNo e =>
      match s.stages e with
      | .numbering decision eventData =>
          if eventData.length = decision.reportable.length then
            some { s.put e (.calling decision (v201NotifyEventRequest decision.generatedAt s.nextNotifyEventSeqNo
                eventData)) with
              nextNotifyEventSeqNo := s.nextNotifyEventSeqNo + 1 }
          else none
      | _ => none
  | .send e =>
      match s.stages e with
      | .calling decision request =>
          some { s.put e (.awaiting request) with log := s.log ++ [⟨decision, request, true⟩] }
      | _ => none
  | .refuse e error =>
      match s.stages e with
      | .calling decision request => some (s.unsent e (.returned (.error error)) decision request)
      | _ => none
  | .settle e outcome =>
      match s.stages e with
      | .awaiting request =>
          some (s.put e (.returned (outcome.map fun _ => .emitted request.eventData.length request.seqNo)))
      | _ => none
  | .drop e => if e = .consumer then none else s.drop e

def Action.claimsEventId : Action → Bool
  | .claimEventId _ => true
  | _ => false

def Action.claimsSeqNo : Action → Bool
  | .claimSeqNo _ => true
  | _ => false

/-- What a step can do. -/
inductive Moved (s : NotifyEvents) : Action → NotifyEvents → Prop
  | managed {a : Action} {model : V201DeviceModel} {activeMonitoringLevel : Int}
      (silent : a.claimsEventId = false ∧ a.claimsSeqNo = false)
      (watched : s.model.Watched toLowercase → model.Watched toLowercase) :
      Moved s a { s with model, activeMonitoringLevel }
  | written {iteration : List (Σ _ : Int, MonitorEntry)} (data : List SetVariableDataType)
      (same : iteration.Perm s.model.monitors.entries) :
      Moved s (.setVariables iteration data)
        ({ s with model := (SetVariables.handle toLowercase parseF64 iteration s.model data).model }.enqueue
          (SetVariables.handle toLowercase parseF64 iteration s.model data).trips)
  | stopped {t : NotifyEvents} (dropped : s.drop .consumer = some t) :
      Moved s .stopConsumer { t with commands := [], consuming := false }
  | tripped {n : ℕ} {iteration : List (Σ _ : Int, MonitorEntry)} {component variable_ actualValue : String}
      (idle : s.stages (.call n) = .idle) (same : iteration.Perm s.model.monitors.entries) :
      Moved s (.tripVariableMonitor n iteration component variable_ actualValue)
        (s.put (.call n)
          (if (V201DeviceModel.monitorsForVariable toLowercase iteration component variable_).isEmpty then
            .returned (.ok .noMonitor)
          else .matched ⟨V201DeviceModel.monitorsForVariable toLowercase iteration component variable_, actualValue⟩))
  | dequeued {trip : V201MonitorTrip} {rest : List V201MonitorTrip}
      (ready : s.stages .consumer = .idle ∨ ∃ outcome, s.stages .consumer = .returned outcome)
      (waiting : s.commands = trip :: rest) :
      Moved s .dequeue { s.put .consumer (.matched trip) with commands := rest }
  | gated {e : Emitter} {trip : V201MonitorTrip} (now : String) (matched : s.stages e = .matched trip) :
      Moved s (.gate e now)
        { s.put e (if Decision.reportable ⟨e, trip, s.activeMonitoringLevel, now⟩ = [] then .returned (.ok .noMonitor)
            else .numbering ⟨e, trip, s.activeMonitoringLevel, now⟩ []) with
          decisions := s.decisions ++ [⟨e, trip, s.activeMonitoringLevel, now⟩] }
  | claimedEventId {e : Emitter} {decision : Decision} {eventData : List EventDataType} {monitor : TrippedMonitor}
      (numbering : s.stages e = .numbering decision eventData)
      (later : decision.reportable[eventData.length]? = some monitor) :
      Moved s (.claimEventId e)
        { s.put e (.numbering decision (eventData ++ [decision.event s.nextNotifyEventId monitor])) with
          nextNotifyEventId := s.nextNotifyEventId + 1 }
  | claimedSeqNo {e : Emitter} {decision : Decision} {eventData : List EventDataType}
      (numbering : s.stages e = .numbering decision eventData)
      (whole : eventData.length = decision.reportable.length) :
      Moved s (.claimSeqNo e)
        { s.put e (.calling decision
            (v201NotifyEventRequest decision.generatedAt s.nextNotifyEventSeqNo eventData)) with
          nextNotifyEventSeqNo := s.nextNotifyEventSeqNo + 1 }
  | sent {e : Emitter} {decision : Decision} {request : NotifyEventRequest}
      (calling : s.stages e = .calling decision request) :
      Moved s (.send e) { s.put e (.awaiting request) with log := s.log ++ [⟨decision, request, true⟩] }
  | refused {e : Emitter} {decision : Decision} {request : NotifyEventRequest} (error : OcppError)
      (calling : s.stages e = .calling decision request) :
      Moved s (.refuse e error) (s.unsent e (.returned (.error error)) decision request)
  | settled {e : Emitter} {request : NotifyEventRequest} (outcome : Except OcppError Unit)
      (awaiting : s.stages e = .awaiting request) :
      Moved s (.settle e outcome)
        (s.put e (.returned (outcome.map fun _ => .emitted request.eventData.length request.seqNo)))
  | dropped {e : Emitter} {t : NotifyEvents} (call : e ≠ .consumer) (dropped : s.drop e = some t) :
      Moved s (.drop e) t

variable {toLowercase parseF64}

theorem step_moved {s t : NotifyEvents} {a : Action} (stepped : step toLowercase parseF64 s a = some t) :
    Moved toLowercase parseF64 s a t := by
  cases a with
  | seed component variable_ attribute_ value policy =>
      obtain rfl := Option.some.inj stepped
      exact .managed ⟨rfl, rfl⟩ fun watched => watched.seed component variable_ attribute_ value policy
  | setVariables iteration data =>
      obtain ⟨same, moved⟩ := Option.ite_none_right_eq_some.mp stepped
      obtain rfl := Option.some.inj moved
      exact .written data same
  | setVariableMonitoring data =>
      obtain rfl := Option.some.inj stepped
      apply Moved.managed ⟨rfl, rfl⟩
      intro watched
      have installed := Monitoring.watched_installMonitors (s := ⟨s.model, [], []⟩) watched data
      rwa [Monitoring.installMonitors_model] at installed
  | clearVariableMonitoring ids =>
      obtain rfl := Option.some.inj stepped
      exact .managed ⟨rfl, rfl⟩ fun watched => watched.clear ids
  | setMonitoringLevel severity =>
      obtain rfl := Option.some.inj stepped
      rw [setMonitoringLevel]
      split_ifs
      · exact .managed ⟨rfl, rfl⟩ id
      · exact .managed ⟨rfl, rfl⟩ id
  | stopConsumer =>
      obtain ⟨u, dropped, rfl⟩ := Option.map_eq_some_iff.mp stepped
      exact .stopped dropped
  | tripVariableMonitor n iteration component variable_ actualValue =>
      simp only [step] at stepped
      split at stepped
      · obtain ⟨same, moved⟩ := Option.ite_none_right_eq_some.mp stepped
        obtain rfl := Option.some.inj moved
        exact .tripped ‹_› same
      · cases stepped
  | dequeue =>
      simp only [step] at stepped
      split at stepped
      · obtain rfl := Option.some.inj stepped
        exact .dequeued (.inl ‹_›) ‹_›
      · obtain rfl := Option.some.inj stepped
        exact .dequeued (.inr ⟨_, ‹_›⟩) ‹_›
      · cases stepped
  | gate e now =>
      simp only [step] at stepped
      split at stepped
      · obtain rfl := Option.some.inj stepped
        simp only [List.isEmpty_iff]
        exact .gated now ‹_›
      · cases stepped
  | claimEventId e =>
      simp only [step] at stepped
      split at stepped
      · obtain ⟨monitor, later, rfl⟩ := Option.map_eq_some_iff.mp stepped
        exact .claimedEventId ‹_› later
      · cases stepped
  | claimSeqNo e =>
      simp only [step] at stepped
      split at stepped
      · obtain ⟨whole, moved⟩ := Option.ite_none_right_eq_some.mp stepped
        obtain rfl := Option.some.inj moved
        exact .claimedSeqNo ‹_› whole
      · cases stepped
  | send e =>
      simp only [step] at stepped
      split at stepped
      · obtain rfl := Option.some.inj stepped
        exact .sent ‹_›
      · cases stepped
  | refuse e error =>
      simp only [step] at stepped
      split at stepped
      · obtain rfl := Option.some.inj stepped
        exact .refused error ‹_›
      · cases stepped
  | settle e outcome =>
      simp only [step] at stepped
      split at stepped
      · obtain rfl := Option.some.inj stepped
        exact .settled outcome ‹_›
      · cases stepped
  | drop e =>
      obtain ⟨call, dropped⟩ := Option.ite_none_left_eq_some.mp stepped
      exact .dropped call dropped

/-- The future of an emitter is dropped where it holds no numbers, or with a request that is not sent. -/
theorem drop_cases {s t : NotifyEvents} {e : Emitter} (dropped : s.drop e = some t) :
    (t = s ∧ (s.stages e = .idle ∨ (∃ outcome, s.stages e = .returned outcome) ∨ s.stages e = .dropped)) ∨
      (t = s.put e .dropped ∧
        ((∃ trip, s.stages e = .matched trip) ∨ ∃ request, s.stages e = .awaiting request)) ∨
      ∃ decision request, s.stages e = .calling decision request ∧ t = s.unsent e .dropped decision request := by
  cases stage : s.stages e with
  | idle | dropped =>
      simp only [drop, stage, Option.some.injEq] at dropped
      exact .inl ⟨dropped.symm, by simp⟩
  | returned outcome =>
      simp only [drop, stage, Option.some.injEq] at dropped
      exact .inl ⟨dropped.symm, .inr (.inl ⟨outcome, rfl⟩)⟩
  | matched trip =>
      simp only [drop, stage, Option.some.injEq] at dropped
      exact .inr (.inl ⟨dropped.symm, .inl ⟨trip, rfl⟩⟩)
  | awaiting request =>
      simp only [drop, stage, Option.some.injEq] at dropped
      exact .inr (.inl ⟨dropped.symm, .inr ⟨request, rfl⟩⟩)
  | calling decision request =>
      simp only [drop, stage, Option.some.injEq] at dropped
      exact .inr (.inr ⟨decision, request, rfl, dropped.symm⟩)
  | numbering decision eventData =>
      simp only [drop, stage] at dropped
      cases dropped

end NotifyEvents

/-! ## Numbers -/

variable {toLowercase parseF64}

def Stage.eventIds : Stage → List Int32
  | .numbering _ eventData => eventData.map (·.eventId)
  | .calling _ request => request.eventData.map (·.eventId)
  | _ => []

def Stage.seqNos : Stage → List Int32
  | .calling _ request => [request.seqNo]
  | _ => []

namespace NotifyEvents

def heldEventIds (s : NotifyEvents) (e : Emitter) : List Int32 :=
  (s.stages e).eventIds

def heldSeqNos (s : NotifyEvents) (e : Emitter) : List Int32 :=
  (s.stages e).seqNos

def loggedEventIds (s : NotifyEvents) : List Int32 :=
  s.log.flatMap fun entry => entry.request.eventData.map (·.eventId)

def loggedSeqNos (s : NotifyEvents) : List Int32 :=
  s.log.map (·.request.seqNo)

structure Counted (actions : List Action) (s : NotifyEvents) : Prop where
  eventIds : Tickets.Counter 1 (actions.countP (·.claimsEventId)) s.nextNotifyEventId s.heldEventIds s.loggedEventIds
  seqNos : Tickets.Counter 0 (actions.countP (·.claimsSeqNo)) s.nextNotifyEventSeqNo s.heldSeqNos s.loggedSeqNos

theorem counted_new : Counted [] new :=
  ⟨Tickets.counter_new 1, Tickets.counter_new 0⟩

theorem put_stages (s : NotifyEvents) (e e' : Emitter) (stage : Stage) :
    (s.put e stage).stages e' = if e' = e then stage else s.stages e' :=
  Function.update_apply ..

theorem heldEventIds_put (s : NotifyEvents) (e : Emitter) (stage : Stage) :
    (s.put e stage).heldEventIds = Function.update s.heldEventIds e stage.eventIds := by
  funext e'
  rw [heldEventIds, put_stages, Function.update_apply, apply_ite Stage.eventIds, heldEventIds]

theorem heldSeqNos_put (s : NotifyEvents) (e : Emitter) (stage : Stage) :
    (s.put e stage).heldSeqNos = Function.update s.heldSeqNos e stage.seqNos := by
  funext e'
  rw [heldSeqNos, put_stages, Function.update_apply, apply_ite Stage.seqNos, heldSeqNos]

theorem heldEventIds_kept {s : NotifyEvents} {e : Emitter} {stage : Stage}
    (same : stage.eventIds = (s.stages e).eventIds) : (s.put e stage).heldEventIds = s.heldEventIds := by
  rw [heldEventIds_put, same]
  exact Function.update_eq_self e _

theorem heldSeqNos_kept {s : NotifyEvents} {e : Emitter} {stage : Stage}
    (same : stage.seqNos = (s.stages e).seqNos) : (s.put e stage).heldSeqNos = s.heldSeqNos := by
  rw [heldSeqNos_put, same]
  exact Function.update_eq_self e _

namespace Counted

variable {before : List Action} {s t : NotifyEvents} {a : Action} (counted : Counted before s)
include counted

/-- A step that draws no number and calls nothing. -/
theorem quiet (silent : a.claimsEventId = false ∧ a.claimsSeqNo = false)
    (nextId : t.nextNotifyEventId = s.nextNotifyEventId) (nextSeqNo : t.nextNotifyEventSeqNo = s.nextNotifyEventSeqNo)
    (log : t.log = s.log) (eventIds : t.heldEventIds = s.heldEventIds) (seqNos : t.heldSeqNos = s.heldSeqNos) :
    Counted (before ++ [a]) t := by
  constructor
  · rw [List.countP_append, List.countP_singleton, silent.1, nextId, eventIds, loggedEventIds, log]
    exact counted.eventIds
  · rw [List.countP_append, List.countP_singleton, silent.2, nextSeqNo, seqNos, loggedSeqNos, log]
    exact counted.seqNos

theorem put {e : Emitter} {stage : Stage} (silent : a.claimsEventId = false ∧ a.claimsSeqNo = false)
    (eventIds : stage.eventIds = (s.stages e).eventIds) (seqNos : stage.seqNos = (s.stages e).seqNos) :
    Counted (before ++ [a]) (s.put e stage) :=
  counted.quiet silent rfl rfl rfl (heldEventIds_kept eventIds) (heldSeqNos_kept seqNos)

/-- A call takes the numbers of its request out of the hands of the emitter. -/
theorem call {e : Emitter} {decision : Decision} {request : NotifyEventRequest} {stage : Stage} {sent : Bool}
    (silent : a.claimsEventId = false ∧ a.claimsSeqNo = false) (calling : s.stages e = .calling decision request)
    (eventIds : stage.eventIds = []) (seqNos : stage.seqNos = []) :
    Counted (before ++ [a]) { s.put e stage with log := s.log ++ [⟨decision, request, sent⟩] } := by
  constructor
  · have used := counted.eventIds.use e
    have held : s.heldEventIds e = request.eventData.map (·.eventId) := by rw [heldEventIds, calling, Stage.eventIds]
    rw [List.countP_append, List.countP_singleton, silent.1, loggedEventIds, List.flatMap_append,
      List.flatMap_singleton, ← held]
    rw [← eventIds, ← heldEventIds_put] at used
    exact used
  · have used := counted.seqNos.use e
    have held : s.heldSeqNos e = [request.seqNo] := by rw [heldSeqNos, calling, Stage.seqNos]
    rw [List.countP_append, List.countP_singleton, silent.2, loggedSeqNos, List.map_append, List.map_singleton, ← held]
    rw [← seqNos, ← heldSeqNos_put] at used
    exact used

theorem drop {e : Emitter} (silent : a.claimsEventId = false ∧ a.claimsSeqNo = false) (dropped : s.drop e = some t) :
    Counted (before ++ [a]) t := by
  obtain ⟨rfl, -⟩ | ⟨rfl, before⟩ | ⟨decision, request, calling, rfl⟩ := drop_cases dropped
  · exact counted.quiet silent rfl rfl rfl rfl rfl
  · apply counted.put silent
    all_goals obtain ⟨_, stage⟩ | ⟨_, stage⟩ := before <;> rw [stage] <;> rfl
  · exact counted.call silent calling rfl rfl

theorem step (moved : Moved toLowercase parseF64 s a t) : Counted (before ++ [a]) t := by
  cases moved with
  | managed silent => exact counted.quiet silent rfl rfl rfl rfl rfl
  | written data same =>
      rw [enqueue]
      split_ifs
      · exact counted.quiet ⟨rfl, rfl⟩ rfl rfl rfl rfl rfl
      · exact counted.quiet ⟨rfl, rfl⟩ rfl rfl rfl rfl rfl
  | stopped dropped =>
      have ended : Counted (before ++ [.stopConsumer]) _ := counted.drop ⟨rfl, rfl⟩ dropped
      exact ⟨ended.eventIds, ended.seqNos⟩
  | tripped idle =>
      apply counted.put ⟨rfl, rfl⟩
      all_goals rw [idle]; split_ifs <;> rfl
  | dequeued ready waiting =>
      refine counted.quiet ⟨rfl, rfl⟩ rfl rfl rfl (heldEventIds_kept ?_) (heldSeqNos_kept ?_)
      all_goals obtain stage | ⟨_, stage⟩ := ready <;> rw [stage] <;> rfl
  | gated now matched =>
      refine counted.quiet ⟨rfl, rfl⟩ rfl rfl rfl (heldEventIds_kept ?_) (heldSeqNos_kept ?_)
      all_goals rw [matched]; split_ifs <;> rfl
  | @claimedEventId e decision eventData monitor numbering later =>
      constructor
      · have drawn := counted.eventIds.draw e
        have held : s.heldEventIds e ++ [s.nextNotifyEventId] =
            (Stage.numbering decision (eventData ++ [decision.event s.nextNotifyEventId monitor])).eventIds := by
          rw [heldEventIds, numbering, Stage.eventIds, Stage.eventIds, List.map_append]
          rfl
        rw [held, ← heldEventIds_put] at drawn
        rw [List.countP_append]
        exact drawn
      · have kept : (s.put e (.numbering decision
            (eventData ++ [decision.event s.nextNotifyEventId monitor]))).heldSeqNos = s.heldSeqNos :=
          heldSeqNos_kept (by rw [numbering]; rfl)
        have same := counted.seqNos
        rw [← kept] at same
        rw [List.countP_append]
        exact same
  | @claimedSeqNo e decision eventData numbering whole =>
      constructor
      · have kept : (s.put e (.calling decision (v201NotifyEventRequest decision.generatedAt s.nextNotifyEventSeqNo
            eventData))).heldEventIds = s.heldEventIds := heldEventIds_kept (by rw [numbering]; rfl)
        have same := counted.eventIds
        rw [← kept] at same
        rw [List.countP_append]
        exact same
      · have drawn := counted.seqNos.draw e
        have held : s.heldSeqNos e ++ [s.nextNotifyEventSeqNo] = (Stage.calling decision (v201NotifyEventRequest
            decision.generatedAt s.nextNotifyEventSeqNo eventData)).seqNos := by
          rw [heldSeqNos, numbering]
          rfl
        rw [held, ← heldSeqNos_put] at drawn
        rw [List.countP_append]
        exact drawn
  | sent calling => exact counted.call ⟨rfl, rfl⟩ calling rfl rfl
  | refused error calling => exact counted.call ⟨rfl, rfl⟩ calling rfl rfl
  | settled outcome awaiting =>
      apply counted.put ⟨rfl, rfl⟩
      all_goals rw [awaiting]; rfl
  | dropped _ dropped => exact counted.drop ⟨rfl, rfl⟩ dropped

end Counted

/-- However the emissions overlap, every `seqNo` and every `eventId` that was drawn is in one request that was called,
or is held by the one emission that drew it. -/
theorem stream_gapless {actions : List Action} {s : NotifyEvents}
    (ran : run (step toLowercase parseF64) new actions = some s)
    (fewSeqNos : actions.countP (·.claimsSeqNo) ≤ 2 ^ 32) (fewEventIds : actions.countP (·.claimsEventId) ≤ 2 ^ 32) :
    Tickets.Gapless 0 (actions.countP (·.claimsSeqNo)) s.loggedSeqNos s.heldSeqNos ∧
      Tickets.Gapless 1 (actions.countP (·.claimsEventId)) s.loggedEventIds s.heldEventIds := by
  have counted : Counted actions s :=
    run_history counted_new (fun _ _ _ _ _ counted stepped => counted.step (step_moved stepped)) ran
  exact ⟨counted.seqNos.gapless fewSeqNos, counted.eventIds.gapless fewEventIds⟩

section

def powerEntry (id severity : Int) : MonitorEntry :=
  let data := Monitoring.powerMonitor none severity
  ⟨.fromRequest (fun name => name) data.component data.variable_, data.component, data.variable_, data.monitor id⟩

def powerMonitors : List (Σ _ : Int, MonitorEntry) :=
  [⟨1, powerEntry 1 1⟩, ⟨2, powerEntry 2 5⟩]

def installedPower : NotifyEvents :=
  { new with
    model := (V201DeviceModel.installMonitors id
      (.seedStationVariable id .new "controller" "power" .actual "0" ⟨false, false⟩)
      [Monitoring.powerMonitor none 1, Monitoring.powerMonitor none 5]).2 }

def trippedPower (s : NotifyEvents) (n : ℕ) (actualValue : String) : NotifyEvents :=
  s.put (.call n) (.matched ⟨[(powerEntry 1 1).toTripped, (powerEntry 2 5).toTripped], actualValue⟩)

theorem powerMonitors_found : V201DeviceModel.monitorsForVariable id powerMonitors "controller" "power" =
    [(powerEntry 1 1).toTripped, (powerEntry 2 5).toTripped] :=
  List.mergeSort_of_pairwise (by decide)

def overlappingTrips : List Action :=
  [.seed "controller" "power" .actual "0" ⟨false, false⟩,
    .setVariableMonitoring [Monitoring.powerMonitor none 1, Monitoring.powerMonitor none 5],
    .tripVariableMonitor 0 powerMonitors "controller" "power" "15000",
    .tripVariableMonitor 1 powerMonitors "controller" "power" "20000",
    .gate (.call 0) "12:00", .claimEventId (.call 0), .setMonitoringLevel 3, .gate (.call 1) "12:01",
    .claimEventId (.call 1), .claimSeqNo (.call 1), .claimEventId (.call 0), .send (.call 1), .claimSeqNo (.call 0),
    .send (.call 0), .settle (.call 0) (.ok ()), .settle (.call 1) (.ok ())]

theorem step_trippedPower (s : NotifyEvents) (n : ℕ) (actualValue : String) (idle : s.stages (.call n) = .idle)
    (model : s.model = installedPower.model) :
    step id (fun _ => none) s (.tripVariableMonitor n powerMonitors "controller" "power" actualValue) =
      some (trippedPower s n actualValue) := by
  simp only [step, powerMonitors_found, idle, model]
  exact if_pos (by decide +kernel)

theorem overlappingTrips_run : ∃ s, run (step id fun _ => none) new overlappingTrips = some s ∧
    s.loggedSeqNos = [0, 1] ∧ s.loggedEventIds = [2, 1, 3] := by
  have first := step_trippedPower installedPower 0 "15000" rfl rfl
  have second := step_trippedPower (trippedPower installedPower 0 "15000") 1 "20000" rfl rfl
  have rest : (run (step id fun _ => none) (trippedPower (trippedPower installedPower 0 "15000") 1 "20000")
      (overlappingTrips.drop 4)).any fun s => s.loggedSeqNos = [0, 1] ∧ s.loggedEventIds = [2, 1, 3] := by
    decide +kernel
  obtain ⟨s, ran, logged⟩ := Option.any_eq_true _ _ |>.mp rest
  refine ⟨s, ?_, of_decide_eq_true logged⟩
  calc run (step id fun _ => none) new overlappingTrips
      = run (step id fun _ => none) installedPower (overlappingTrips.drop 2) := rfl
    _ = run (step id fun _ => none) (trippedPower installedPower 0 "15000") (overlappingTrips.drop 3) :=
        run_cons first _
    _ = run (step id fun _ => none) (trippedPower (trippedPower installedPower 0 "15000") 1 "20000")
          (overlappingTrips.drop 4) := run_cons second _
    _ = some s := ran

end

theorem overlappingTrips_gapless : ∃ s, run (step id fun _ => none) new overlappingTrips = some s ∧
    s.loggedSeqNos = [0, 1] ∧ s.loggedEventIds = [2, 1, 3] ∧
    Tickets.Gapless 0 2 s.loggedSeqNos s.heldSeqNos ∧ Tickets.Gapless 1 3 s.loggedEventIds s.heldEventIds := by
  obtain ⟨s, ran, seqNos, eventIds⟩ := overlappingTrips_run
  exact ⟨s, ran, seqNos, eventIds, stream_gapless ran (by decide) (by decide)⟩

end NotifyEvents

/-! ## What is reported -/

variable (toLowercase) in
/-- The monitors are those on the variable, each once, by their ids. -/
def V201DeviceModel.Watching (model : V201DeviceModel) (component variable_ : String) (monitors : List TrippedMonitor) :
    Prop :=
  monitors.Pairwise (fun m m' => m.id < m'.id) ∧ ∀ tripped, tripped ∈ monitors ↔
    ∃ id entry, model.monitors.lookup id = some entry ∧ entry.toTripped = tripped ∧
      entry.key = monitorLookupKey toLowercase component variable_

theorem V201DeviceModel.monitorsForVariable_watching {model : V201DeviceModel}
    {iteration : List (Σ _ : Int, MonitorEntry)} (inv : model.Watched toLowercase)
    (same : iteration.Perm model.monitors.entries) (component variable_ : String) :
    model.Watching toLowercase component variable_
      (monitorsForVariable toLowercase iteration component variable_) := by
  constructor
  · rw [monitorsForVariable]
    generalize sorted : sortByKey TrippedMonitor.id _ = monitors
    have distinct : (monitors.map (·.id)).Nodup := by
      rw [← sorted, ((sortByKey_perm _ _).map _).nodup_iff, List.map_map]
      exact (inv.ids_nodup same).sublist (List.filter_sublist.map _)
    have ascending : monitors.Pairwise fun m m' => m.id ≤ m'.id := by
      rw [← sorted]
      exact sortByKey_sorted _ _
    exact (ascending.and (List.pairwise_map.mp distinct)).imp fun ⟨le, ne⟩ => lt_of_le_of_ne le ne
  · intro tripped
    simp only [monitorsForVariable, (sortByKey_perm _ _).mem_iff, List.mem_map, List.mem_filter, decide_eq_true_iff]
    constructor
    · rintro ⟨_, ⟨⟨⟨id, entry⟩, member, rfl⟩, here⟩, shown⟩
      exact ⟨id, entry, HashMap.mem_entries.mp (same.mem_iff.mp member), shown, here⟩
    · rintro ⟨id, entry, held, shown, here⟩
      exact ⟨entry, ⟨⟨⟨id, entry⟩, same.mem_iff.mpr (HashMap.mem_entries.mpr held), rfl⟩, here⟩, shown⟩

/-- The request carries the events of the decision, under some numbers. -/
def Decision.Reports (decision : Decision) (request : NotifyEventRequest) : Prop :=
  ∃ (eventIds : List Int32) (seqNo : Int32), eventIds.length = decision.reportable.length ∧
    request = v201NotifyEventRequest decision.generatedAt seqNo (eventIds.zipWith decision.event decision.reportable)

def Stage.decisions : Stage → List Decision
  | .numbering decision _ | .calling decision _ => [decision]
  | _ => []

def Stage.trips : Stage → List V201MonitorTrip
  | .matched trip => [trip]
  | _ => []

namespace NotifyEvents

def decided (s : NotifyEvents) (e : Emitter) : List Decision :=
  s.decisions.filter (·.emitter = e)

def called (s : NotifyEvents) (e : Emitter) : List Notification :=
  s.log.filter (·.decision.emitter = e)

/-- What an emitter has called and is to call, by its decisions. -/
def line (s : NotifyEvents) (e : Emitter) : List Decision :=
  (s.called e).map (·.decision) ++ (s.stages e).decisions

/-- What the consumer has decided, has in hand and has not taken yet is what was queued, but for what is lost when it
stops. -/
def InOrder (s : NotifyEvents) : Prop :=
  ∃ lost, (s.decided .consumer).map (·.trip) ++ (s.stages .consumer).trips ++ s.commands ++ lost = s.queued ∧
    (s.consuming → lost = [])

section

variable (toLowercase parseF64) (actions : List Action)

/-- A call of `trip_variable_monitor` found the monitors on its variable. -/
def Injected (n : ℕ) (trip : V201MonitorTrip) : Prop :=
  Occurred (step toLowercase parseF64) new (fun t a => ∃ iteration component variable_,
    a = .tripVariableMonitor n iteration component variable_ trip.actualValue ∧
      t.model.Watching toLowercase component variable_ trip.monitors) actions

/-- The writes of a `SetVariables` tripped the monitors. -/
def Written (trip : V201MonitorTrip) : Prop :=
  Occurred (step toLowercase parseF64) new (fun t a => ∃ iteration data, a = .setVariables iteration data ∧
    trip ∈ (SetVariables.handle toLowercase parseF64 iteration t.model data).trips) actions

/-- The decision was made when the reporting level was the one it names. -/
def Passed (decision : Decision) : Prop :=
  Occurred (step toLowercase parseF64) new (fun t a => a = .gate decision.emitter decision.generatedAt ∧
    t.activeMonitoringLevel = decision.activeLevel) actions

/-- What a call of `trip_variable_monitor` in the stage has had sent, and what it says of it. -/
def Told (s : NotifyEvents) (n : ℕ) : Stage → Prop
  | .idle | .matched _ | .numbering _ _ | .calling _ _ => s.called (.call n) = []
  | .awaiting request => ∃ decision, s.called (.call n) = [⟨decision, request, true⟩]
  | .returned (.ok .noMonitor) => s.called (.call n) = [] ∧
      ((∃ actualValue, Injected toLowercase parseF64 actions n ⟨[], actualValue⟩) ∨
        ∃ decision ∈ s.decided (.call n), decision.reportable = [])
  | .returned (.ok (.emitted events seqNo)) => ∃ decision request,
      s.called (.call n) = [⟨decision, request, true⟩] ∧ request.eventData.length = events ∧ request.seqNo = seqNo
  | .returned (.error _) => ∃ entry, s.called (.call n) = [entry]
  | .dropped => (s.called (.call n)).length ≤ 1

/-- What trips is decided on once, and what is decided is called once, in its order and with the monitors and the text
of the trip. -/
structure Delivered (s : NotifyEvents) : Prop where
  written : ∀ trip ∈ s.queued, Written toLowercase parseF64 actions trip
  decided : ∀ decision ∈ s.decisions, Passed toLowercase parseF64 actions decision ∧
    ∀ n, decision.emitter = .call n → Injected toLowercase parseF64 actions n decision.trip
  inOrder : InOrder s
  once : ∀ e, s.line e = (s.decided e).filter (·.reportable ≠ [])
  reports : ∀ entry ∈ s.log, entry.decision.Reports entry.request
  told : ∀ n, Told toLowercase parseF64 actions s n (s.stages (.call n))

end

/-! ### Where decisions come from -/

variable (toLowercase parseF64) in
structure Traced (actions : List Action) (s : NotifyEvents) : Prop where
  watched : s.model.Watched toLowercase
  written : ∀ trip ∈ s.queued, Written toLowercase parseF64 actions trip
  matched : ∀ n trip, s.stages (.call n) = .matched trip → Injected toLowercase parseF64 actions n trip
  decided : ∀ decision ∈ s.decisions, Passed toLowercase parseF64 actions decision ∧
    ∀ n, decision.emitter = .call n → Injected toLowercase parseF64 actions n decision.trip

theorem traced_new : Traced toLowercase parseF64 [] new := by
  constructor
  · constructor <;> simp [new, V201DeviceModel.new]
  · simp [new]
  · simp [new]
  · simp [new]

namespace Traced

variable {before : List Action} {s t : NotifyEvents} {a : Action}
  (traced : Traced toLowercase parseF64 before s)
include traced

/-- What a step adds has occurred with it. -/
theorem next (watched : t.model.Watched toLowercase)
    (written : ∀ trip ∈ t.queued, trip ∈ s.queued ∨ Written toLowercase parseF64 (before ++ [a]) trip)
    (matched : ∀ n trip, t.stages (.call n) = .matched trip →
      s.stages (.call n) = .matched trip ∨ Injected toLowercase parseF64 (before ++ [a]) n trip)
    (decided : ∀ decision ∈ t.decisions, decision ∈ s.decisions ∨ Passed toLowercase parseF64 (before ++ [a]) decision ∧
      ∀ n, decision.emitter = .call n → s.stages (.call n) = .matched decision.trip) :
    Traced toLowercase parseF64 (before ++ [a]) t where
  watched := watched
  written trip member := (written trip member).elim (fun old => (traced.written trip old).snoc a) id
  matched n trip found := (matched n trip found).elim (fun old => (traced.matched n trip old).snoc a) id
  decided := by
    intro decision member
    obtain old | ⟨passed, found⟩ := decided decision member
    · obtain ⟨passed, injected⟩ := traced.decided decision old
      exact ⟨passed.snoc a, fun n own => (injected n own).snoc a⟩
    · exact ⟨passed, fun n own => (traced.matched n _ (found n own)).snoc a⟩

/-- A step that has a stage replaced by one without a trip. -/
theorem put {e : Emitter} {stage : Stage} (model : t.model = s.model) (queued : t.queued = s.queued)
    (decisions : t.decisions = s.decisions) (stages : t.stages = (s.put e stage).stages) (none_ : stage.trips = []) :
    Traced toLowercase parseF64 (before ++ [a]) t := by
  apply traced.next (model ▸ traced.watched)
  · exact fun trip member => .inl (queued ▸ member)
  · intro n trip found
    rw [stages, put_stages] at found
    split_ifs at found
    · rw [found] at none_
      cases none_
    · exact .inl found
  · exact fun decision member => .inl (decisions ▸ member)

theorem drop {e : Emitter} (dropped : s.drop e = some t) :
    Traced toLowercase parseF64 (before ++ [a]) t := by
  obtain ⟨rfl, -⟩ | ⟨rfl, -⟩ | ⟨decision, request, -, rfl⟩ := drop_cases dropped
  · exact traced.next traced.watched (fun _ => .inl) (fun _ _ => .inl) fun _ => .inl
  · exact traced.put rfl rfl rfl rfl rfl
  · exact traced.put rfl rfl rfl rfl rfl

theorem step (ran : run (NotifyEvents.step toLowercase parseF64) new before = some s)
    (moved : Moved toLowercase parseF64 s a t) :
    Traced toLowercase parseF64 (before ++ [a]) t := by
  cases moved with
  | managed silent watched =>
      exact traced.next (watched traced.watched) (fun _ => .inl) (fun _ _ => .inl) fun _ => .inl
  | @written iteration data same =>
      have watched : (SetVariables.handle toLowercase parseF64 iteration s.model data).model.Watched toLowercase :=
        (SetVariables.handle_watched traced.watched data).1
      rw [enqueue]
      split_ifs with consuming
      · refine traced.next watched ?_ (fun _ _ => .inl) fun _ => .inl
        intro trip member
        obtain old | new := List.mem_append.mp member
        · exact .inl old
        · exact .inr (occurred_last ran ⟨iteration, data, rfl, new⟩)
      · exact traced.next watched (fun _ => .inl) (fun _ _ => .inl) fun _ => .inl
  | stopped dropped =>
      have ended := traced.drop (a := .stopConsumer) dropped
      exact ⟨ended.watched, ended.written, ended.matched, ended.decided⟩
  | @tripped n iteration component variable_ actualValue idle same =>
      refine traced.next traced.watched (fun _ => .inl) ?_ fun _ => .inl
      intro n' trip found
      rw [put_stages] at found
      split_ifs at found with own none_
      · obtain rfl := Stage.matched.inj found
        obtain rfl := Emitter.call.inj own
        exact .inr (occurred_last ran ⟨iteration, component, variable_, rfl,
          V201DeviceModel.monitorsForVariable_watching traced.watched same component variable_⟩)
      · exact .inl found
  | @dequeued trip rest ready waiting =>
      refine traced.next traced.watched (fun _ => .inl) ?_ fun _ => .inl
      intro n trip' found
      have stage := (put_stages s .consumer (.call n) (.matched trip)).symm.trans found
      rw [if_neg (by simp)] at stage
      exact .inl stage
  | @gated e trip now matched =>
      refine traced.next traced.watched (fun _ => .inl) ?_ ?_
      · intro n trip' found
        have stage := (put_stages ..).symm.trans found
        split_ifs at stage
        exact .inl stage
      · intro decision member
        obtain old | new := List.mem_append.mp member
        · exact .inl old
        · obtain rfl := List.mem_singleton.mp new
          exact .inr ⟨occurred_last ran ⟨rfl, rfl⟩, fun n own => own ▸ matched⟩
  | claimedEventId numbering later => exact traced.put rfl rfl rfl rfl rfl
  | claimedSeqNo numbering whole => exact traced.put rfl rfl rfl rfl rfl
  | sent calling => exact traced.put rfl rfl rfl rfl rfl
  | refused error calling => exact traced.put rfl rfl rfl rfl rfl
  | settled outcome awaiting => exact traced.put rfl rfl rfl rfl rfl
  | dropped _ dropped => exact traced.drop dropped

end Traced

/-! ### What becomes of decisions -/

structure Followed (s : NotifyEvents) : Prop where
  own : ∀ e, ∀ decision ∈ (s.stages e).decisions, decision.emitter = e
  once : ∀ e, s.line e = (s.decided e).filter (·.reportable ≠ [])

theorem followed_new : Followed new := by
  constructor
  · simp [new, Stage.decisions]
  · simp [new, line, called, decided, Stage.decisions]

theorem called_log {s t : NotifyEvents} {entry : Notification} (log : t.log = s.log ++ [entry]) (e : Emitter) :
    t.called e = if entry.decision.emitter = e then s.called e ++ [entry] else s.called e := by
  rw [called, log, List.filter_append, called]
  split_ifs with own <;> simp [own]

theorem decided_decisions {s t : NotifyEvents} {decision : Decision}
    (decisions : t.decisions = s.decisions ++ [decision]) (e : Emitter) :
    t.decided e = if decision.emitter = e then s.decided e ++ [decision] else s.decided e := by
  rw [decided, decisions, List.filter_append, decided]
  split_ifs with own <;> simp [own]

theorem decided_later {s t : NotifyEvents} {decision : Decision} (decisions : t.decisions = s.decisions ++ [decision])
    (e : Emitter) : ∀ decision ∈ s.decided e, decision ∈ t.decided e := by
  intro decision' member
  rw [decided_decisions decisions]
  split_ifs
  · exact List.mem_append_left _ member
  · exact member

namespace Followed

variable {s t : NotifyEvents} (followed : Followed s)
include followed

theorem own_calling {e : Emitter} {decision : Decision} {request : NotifyEventRequest}
    (calling : s.stages e = .calling decision request) : decision.emitter = e := by
  apply followed.own e
  rw [calling]
  exact List.mem_singleton.mpr rfl

/-- A step that has a stage replaced by one with the same decision. -/
theorem put {e : Emitter} {stage : Stage} (stages : t.stages = (s.put e stage).stages) (log : t.log = s.log)
    (decisions : t.decisions = s.decisions) (same : stage.decisions = (s.stages e).decisions) : Followed t := by
  have kept : ∀ e', (t.stages e').decisions = (s.stages e').decisions := by
    intro e'
    rw [stages, put_stages]
    split_ifs with own
    · rw [own, same]
    · rfl
  constructor
  · intro e' decision member
    exact followed.own e' decision (kept e' ▸ member)
  · intro e'
    rw [line, kept, called, log, decided, decisions]
    exact followed.once e'

/-- A step that has the decision of a stage called. -/
theorem call {e : Emitter} {decision : Decision} {request : NotifyEventRequest} {stage : Stage} {sent : Bool}
    (calling : s.stages e = .calling decision request) (stages : t.stages = (s.put e stage).stages)
    (log : t.log = s.log ++ [⟨decision, request, sent⟩]) (decisions : t.decisions = s.decisions)
    (none_ : stage.decisions = []) : Followed t := by
  have own := followed.own_calling calling
  constructor
  · intro e' decision' member
    rw [stages, put_stages] at member
    split_ifs at member
    · rw [none_] at member
      cases member
    · exact followed.own e' decision' member
  · intro e'
    have once := followed.once e'
    rw [decided, decisions, ← decided, ← once, line, line, called_log log, stages, put_stages]
    split_ifs with here there there
    · rw [there, none_, calling]
      simp [Stage.decisions]
    · exact absurd (own.symm.trans here).symm there
    · exact absurd (there ▸ own) here
    · rfl

theorem drop {e : Emitter} (dropped : s.drop e = some t) : Followed t := by
  obtain ⟨rfl, -⟩ | ⟨rfl, before⟩ | ⟨decision, request, calling, rfl⟩ := drop_cases dropped
  · exact followed
  · apply followed.put rfl rfl rfl
    obtain ⟨_, stage⟩ | ⟨_, stage⟩ := before <;> rw [stage] <;> rfl
  · exact followed.call calling rfl rfl rfl rfl

theorem step {a : Action} (moved : Moved toLowercase parseF64 s a t) : Followed t := by
  cases moved with
  | managed silent watched => exact ⟨followed.own, followed.once⟩
  | written data same =>
      rw [enqueue]
      split_ifs
      · exact ⟨followed.own, followed.once⟩
      · exact ⟨followed.own, followed.once⟩
  | stopped dropped =>
      have ended := followed.drop dropped
      exact ⟨ended.own, ended.once⟩
  | tripped idle same =>
      apply followed.put rfl rfl rfl
      rw [idle]
      split_ifs <;> rfl
  | dequeued ready waiting =>
      refine followed.put (e := .consumer) rfl rfl rfl ?_
      obtain stage | ⟨_, stage⟩ := ready <;> rw [stage] <;> rfl
  | @gated e trip now matched =>
      constructor
      · intro e' decision member
        have member : decision ∈ ((s.put e _).stages e').decisions := member
        rw [put_stages] at member
        split_ifs at member with own none_
        · cases member
        · exact List.mem_singleton.mp member ▸ own.symm
        · exact followed.own e' decision member
      · intro e'
        have once := followed.once e'
        rw [line] at once ⊢
        rw [decided_decisions (s := s) rfl]
        change (s.called e').map _ ++ ((s.put e _).stages e').decisions = _
        rw [put_stages]
        by_cases own : e' = e
        · rw [own, matched] at once
          rw [if_pos own, if_pos own.symm, own, List.filter_append, ← once]
          split_ifs with none_
          · simp [none_, Stage.decisions]
          · simp [none_, Stage.decisions]
        · rw [if_neg own, if_neg (Ne.symm own), once]
  | claimedEventId numbering later =>
      refine followed.put rfl rfl rfl ?_
      rw [numbering]
      rfl
  | claimedSeqNo numbering whole =>
      refine followed.put rfl rfl rfl ?_
      rw [numbering]
      rfl
  | sent calling => exact followed.call calling rfl rfl rfl rfl
  | refused error calling => exact followed.call calling rfl rfl rfl rfl
  | settled outcome awaiting =>
      apply followed.put rfl rfl rfl
      rw [awaiting]
      rfl
  | dropped _ dropped => exact followed.drop dropped

end Followed

/-! ### The order of the queue -/

namespace InOrder

variable {s t : NotifyEvents} (inOrder : InOrder s)
include inOrder

theorem put {e : Emitter} {stage : Stage} (stages : t.stages = (s.put e stage).stages)
    (decided : t.decided .consumer = s.decided .consumer) (commands : t.commands = s.commands)
    (queued : t.queued = s.queued) (consuming : t.consuming = s.consuming)
    (same : e = .consumer → stage.trips = (s.stages e).trips) : InOrder t := by
  have kept : (t.stages .consumer).trips = (s.stages .consumer).trips := by
    rw [stages, put_stages]
    split_ifs with own
    · rw [same own.symm, own]
    · rfl
  rw [InOrder, decided, kept, commands, queued, consuming]
  exact inOrder

/-- The consumer stops: what it has in hand and what waits is lost. -/
theorem stop (dropped : s.drop .consumer = some t) : InOrder { t with commands := [], consuming := false } := by
  obtain ⟨lost, whole, -⟩ := inOrder
  have shown : ∃ more, (s.decided .consumer).map (·.trip) ++ (t.stages .consumer).trips ++ more =
      (s.decided .consumer).map (·.trip) ++ (s.stages .consumer).trips := by
    obtain ⟨rfl, -⟩ | ⟨rfl, -⟩ | ⟨decision, request, calling, rfl⟩ := drop_cases dropped
    · exact ⟨[], List.append_nil _⟩
    · refine ⟨(s.stages .consumer).trips, ?_⟩
      rw [put_stages, if_pos rfl]
      simp [Stage.trips]
    · refine ⟨[], ?_⟩
      rw [calling, unsent]
      simp [put_stages, Stage.trips]
  have same : t.decided .consumer = s.decided .consumer ∧ t.queued = s.queued := by
    obtain ⟨rfl, -⟩ | ⟨rfl, -⟩ | ⟨decision, request, calling, rfl⟩ := drop_cases dropped
    · exact ⟨rfl, rfl⟩
    · exact ⟨rfl, rfl⟩
    · exact ⟨rfl, rfl⟩
  obtain ⟨more, shown⟩ := shown
  refine ⟨more ++ s.commands ++ lost, ?_, fun consuming => absurd consuming (by simp)⟩
  change (t.decided .consumer).map (·.trip) ++ (t.stages .consumer).trips ++ [] ++ _ = t.queued
  rw [same.1, same.2, ← whole, List.append_nil, ← shown]
  simp only [List.append_assoc]

theorem step {a : Action} (moved : Moved toLowercase parseF64 s a t) : InOrder t := by
  cases moved with
  | managed silent watched => exact inOrder
  | written data same =>
      obtain ⟨lost, whole, none_⟩ := inOrder
      rw [enqueue]
      split_ifs with consuming
      · obtain rfl := none_ consuming
        refine ⟨[], ?_, fun _ => rfl⟩
        rw [← whole]
        simp only [List.append_nil, ← List.append_assoc]
        rfl
      · exact ⟨lost, whole, none_⟩
  | stopped dropped => exact inOrder.stop dropped
  | tripped idle same => exact inOrder.put rfl rfl rfl rfl rfl (by simp)
  | @dequeued trip rest ready waiting =>
      obtain ⟨lost, whole, none_⟩ := inOrder
      refine ⟨lost, ?_, none_⟩
      have held : (s.stages .consumer).trips = [] := by
        obtain stage | ⟨_, stage⟩ := ready <;> rw [stage] <;> rfl
      change (s.decided .consumer).map (·.trip) ++ ((s.put .consumer _).stages .consumer).trips ++ rest ++ lost =
        s.queued
      rw [← whole, held, waiting]
      simp [put_stages, Stage.trips]
  | @gated e trip now matched =>
      by_cases own : e = .consumer
      · subst own
        obtain ⟨lost, whole, none_⟩ := inOrder
        refine ⟨lost, ?_, none_⟩
        rw [decided_decisions (s := s) rfl, if_pos rfl]
        change _ ++ ((s.put .consumer _).stages .consumer).trips ++ s.commands ++ lost = s.queued
        rw [← whole, matched]
        split_ifs <;> simp [put_stages, Stage.trips]
      · refine inOrder.put rfl ?_ rfl rfl rfl fun consumer => absurd consumer own
        rw [decided_decisions (s := s) rfl, if_neg own]
  | claimedEventId numbering later => exact inOrder.put rfl rfl rfl rfl rfl fun _ => by rw [numbering]; rfl
  | claimedSeqNo numbering whole => exact inOrder.put rfl rfl rfl rfl rfl fun _ => by rw [numbering]; rfl
  | sent calling => exact inOrder.put rfl rfl rfl rfl rfl fun _ => by rw [calling]; rfl
  | refused error calling => exact inOrder.put rfl rfl rfl rfl rfl fun _ => by rw [calling]; rfl
  | settled outcome awaiting => exact inOrder.put rfl rfl rfl rfl rfl fun _ => by rw [awaiting]; rfl
  | dropped call dropped =>
      obtain ⟨rfl, -⟩ | ⟨rfl, -⟩ | ⟨decision, request, calling, rfl⟩ := drop_cases dropped
      · exact inOrder
      · exact inOrder.put rfl rfl rfl rfl rfl fun consumer => absurd consumer call
      · exact inOrder.put rfl rfl rfl rfl rfl fun consumer => absurd consumer call

end InOrder

/-! ### What the requests carry -/

theorem zipWith_concat {α β γ : Type} {f : α → β → γ} {xs : List α} {ys : List β} {y : β}
    (later : ys[xs.length]? = some y) (x : α) : (xs ++ [x]).zipWith f ys = xs.zipWith f ys ++ [f x y] := by
  induction xs generalizing ys with
  | nil =>
      obtain ⟨tail, rfl⟩ : ∃ tail, ys = y :: tail := by
        cases ys with
        | nil => cases later
        | cons first tail => exact ⟨tail, congrArg (· :: tail) (Option.some.inj later)⟩
      rfl
  | cons first rest ih =>
      cases ys with
      | nil => cases later
      | cons first' rest' => exact congrArg (f first first' :: ·) (ih later)

/-- The events so far are those of the first monitors of the decision. -/
def Begun (decision : Decision) (eventData : List EventDataType) : Prop :=
  ∃ eventIds : List Int32, eventIds.length = eventData.length ∧
    eventData = eventIds.zipWith decision.event decision.reportable

structure Worded (s : NotifyEvents) : Prop where
  numbering : ∀ e decision eventData, s.stages e = .numbering decision eventData → Begun decision eventData
  calling : ∀ e decision request, s.stages e = .calling decision request → decision.Reports request
  log : ∀ entry ∈ s.log, entry.decision.Reports entry.request

theorem worded_new : Worded new := by
  constructor <;> simp [new]

namespace Worded

variable {s t : NotifyEvents} (worded : Worded s)
include worded

theorem put {e : Emitter} {stage : Stage} (stages : t.stages = (s.put e stage).stages)
    (numbering : ∀ decision eventData, stage = .numbering decision eventData → Begun decision eventData)
    (calling : ∀ decision request, stage = .calling decision request → decision.Reports request)
    (log : ∀ entry ∈ t.log, entry ∈ s.log ∨ s.stages e = .calling entry.decision entry.request) : Worded t := by
  constructor
  · intro e' decision eventData found
    rw [stages, put_stages] at found
    split_ifs at found
    · exact numbering decision eventData found
    · exact worded.numbering e' decision eventData found
  · intro e' decision request found
    rw [stages, put_stages] at found
    split_ifs at found
    · exact calling decision request found
    · exact worded.calling e' decision request found
  · intro entry member
    obtain old | called := log entry member
    · exact worded.log entry old
    · exact worded.calling e _ _ called

theorem call {e : Emitter} {decision : Decision} {request : NotifyEventRequest} {stage : Stage} {sent : Bool}
    (called : s.stages e = .calling decision request) (stages : t.stages = (s.put e stage).stages)
    (log : t.log = s.log ++ [⟨decision, request, sent⟩]) (none_ : stage.decisions = []) : Worded t := by
  apply worded.put stages
  · rintro _ _ rfl
    cases none_
  · rintro _ _ rfl
    cases none_
  · intro entry member
    rw [log] at member
    obtain old | new := List.mem_append.mp member
    · exact .inl old
    · obtain rfl := List.mem_singleton.mp new
      exact .inr called

theorem drop {e : Emitter} (dropped : s.drop e = some t) : Worded t := by
  obtain ⟨rfl, -⟩ | ⟨rfl, -⟩ | ⟨decision, request, calling, rfl⟩ := drop_cases dropped
  · exact worded
  · exact worded.put rfl (by simp) (by simp) fun _ => .inl
  · exact worded.call calling rfl rfl rfl

theorem step {a : Action} (moved : Moved toLowercase parseF64 s a t) : Worded t := by
  cases moved with
  | managed silent watched => exact ⟨worded.numbering, worded.calling, worded.log⟩
  | written data same =>
      rw [enqueue]
      split_ifs <;> exact ⟨worded.numbering, worded.calling, worded.log⟩
  | stopped dropped =>
      have ended := worded.drop dropped
      exact ⟨ended.numbering, ended.calling, ended.log⟩
  | tripped idle same => refine worded.put rfl ?_ ?_ fun _ => .inl <;> split_ifs <;> simp
  | dequeued ready waiting => exact worded.put (e := .consumer) rfl (by simp) (by simp) fun _ => .inl
  | gated now matched =>
      refine worded.put rfl ?_ ?_ fun _ => .inl
      · intro decision eventData numbering
        split_ifs at numbering
        obtain ⟨rfl, rfl⟩ := Stage.numbering.inj numbering
        exact ⟨[], rfl, rfl⟩
      · split_ifs <;> simp
  | @claimedEventId e decision eventData monitor numbering later =>
      refine worded.put rfl ?_ (by simp) fun _ => .inl
      rintro _ _ ⟨⟩
      obtain ⟨eventIds, same, begun⟩ := worded.numbering e decision eventData numbering
      refine ⟨eventIds ++ [s.nextNotifyEventId], by simp [same], ?_⟩
      rw [zipWith_concat (same ▸ later), ← begun]
  | @claimedSeqNo e decision eventData numbering whole =>
      refine worded.put rfl (by simp) ?_ fun _ => .inl
      rintro _ _ ⟨⟩
      obtain ⟨eventIds, same, begun⟩ := worded.numbering e decision eventData numbering
      exact ⟨eventIds, s.nextNotifyEventSeqNo, same.trans whole, by rw [← begun]⟩
  | sent calling => exact worded.call calling rfl rfl rfl
  | refused error calling => exact worded.call calling rfl rfl rfl
  | settled outcome awaiting => exact worded.put rfl (by simp) (by simp) fun _ => .inl
  | dropped _ dropped => exact worded.drop dropped

end Worded

/-! ### What the calls are told -/

theorem Told.mono {before after : List Action} {s t : NotifyEvents} {n : ℕ} {stage : Stage}
    (told : Told toLowercase parseF64 before s n stage)
    (injected : ∀ trip, Injected toLowercase parseF64 before n trip → Injected toLowercase parseF64 after n trip)
    (called : t.called (.call n) = s.called (.call n))
    (decided : ∀ decision ∈ s.decided (.call n), decision ∈ t.decided (.call n)) :
    Told toLowercase parseF64 after t n stage := by
  cases stage with
  | idle | matched trip | numbering decision eventData | calling decision request => exact called.trans told
  | awaiting request =>
      obtain ⟨decision, logged⟩ := told
      exact ⟨decision, called.trans logged⟩
  | dropped =>
      change (t.called (.call n)).length ≤ 1
      rw [called]
      exact told
  | returned outcome =>
      cases outcome with
      | error error =>
          obtain ⟨entry, logged⟩ := told
          exact ⟨entry, called.trans logged⟩
      | ok outcome =>
          cases outcome with
          | emitted events seqNo =>
              obtain ⟨decision, request, logged, counted⟩ := told
              exact ⟨decision, request, called.trans logged, counted⟩
          | noMonitor =>
              obtain ⟨logged, ⟨actualValue, found⟩ | ⟨decision, member, none_⟩⟩ := told
              · exact ⟨called.trans logged, .inl ⟨actualValue, injected _ found⟩⟩
              · exact ⟨called.trans logged, .inr ⟨decision, decided decision member, none_⟩⟩

theorem told_later {before : List Action} {s t : NotifyEvents} {n : ℕ} {stage : Stage} (a : Action)
    (told : Told toLowercase parseF64 before s n stage) (called : t.called (.call n) = s.called (.call n))
    (decided : ∀ decision ∈ s.decided (.call n), decision ∈ t.decided (.call n)) :
    Told toLowercase parseF64 (before ++ [a]) t n stage :=
  told.mono (fun _ injected => injected.snoc a) called decided

variable (toLowercase parseF64) in
def Answered (actions : List Action) (s : NotifyEvents) : Prop :=
  ∀ n, Told toLowercase parseF64 actions s n (s.stages (.call n))

namespace Answered

variable {before : List Action} {s t : NotifyEvents} {a : Action} (answered : Answered toLowercase parseF64 before s)
include answered

theorem put {e : Emitter} {stage : Stage} (stages : t.stages = (s.put e stage).stages) (log : t.log = s.log)
    (decided : ∀ n, ∀ decision ∈ s.decided (.call n), decision ∈ t.decided (.call n))
    (told : ∀ n, e = .call n → Told toLowercase parseF64 (before ++ [a]) t n stage) :
    Answered toLowercase parseF64 (before ++ [a]) t := by
  intro n
  rw [stages, put_stages]
  split_ifs with own
  · exact told n own.symm
  · exact told_later a (answered n) (by rw [called, log, called]) (decided n)

/-- A call has the decision of its emitter logged, once. -/
theorem call {e : Emitter} {decision : Decision} {request : NotifyEventRequest} {stage : Stage} {sent : Bool}
    (calling : s.stages e = .calling decision request) (own : decision.emitter = e)
    (stages : t.stages = (s.put e stage).stages) (log : t.log = s.log ++ [⟨decision, request, sent⟩])
    (decisions : t.decisions = s.decisions)
    (told : ∀ n, t.called (.call n) = [⟨decision, request, sent⟩] →
      Told toLowercase parseF64 (before ++ [a]) t n stage) : Answered toLowercase parseF64 (before ++ [a]) t := by
  intro n
  have called := called_log log (.call n)
  rw [stages, put_stages]
  split_ifs with here
  · apply told n
    have none_ : s.called (.call n) = [] := by
      have before_ := answered n
      rwa [here, calling] at before_
    rw [called, if_pos (own.trans here.symm), none_, List.nil_append]
  · rw [if_neg fun same => here (same.symm.trans own)] at called
    apply told_later a (answered n) called
    rw [decided, decided, decisions]
    exact fun _ => id

theorem drop {e : Emitter} (followed : Followed s) (dropped : s.drop e = some t) :
    Answered toLowercase parseF64 (before ++ [a]) t := by
  obtain ⟨rfl, -⟩ | ⟨rfl, stage⟩ | ⟨decision, request, calling, rfl⟩ := drop_cases dropped
  · exact fun n => told_later a (answered n) rfl fun _ => id
  · refine answered.put rfl rfl (fun _ _ => id) ?_
    rintro n rfl
    have told := answered n
    change (s.called (.call n)).length ≤ 1
    obtain ⟨trip, matched⟩ | ⟨request, awaiting⟩ := stage
    · rw [matched] at told
      exact told ▸ Nat.zero_le 1
    · rw [awaiting] at told
      obtain ⟨decision, logged⟩ := told
      exact logged ▸ le_rfl
  · refine answered.call calling (followed.own_calling calling) rfl rfl rfl ?_
    exact fun n logged => le_of_eq (congrArg List.length logged)

theorem step (ran : run (NotifyEvents.step toLowercase parseF64) new before = some s)
    (traced : Traced toLowercase parseF64 before s) (followed : Followed s)
    (moved : Moved toLowercase parseF64 s a t) : Answered toLowercase parseF64 (before ++ [a]) t := by
  cases moved with
  | managed silent watched => exact fun n => told_later a (answered n) rfl fun _ => id
  | written data same =>
      rw [enqueue]
      split_ifs
      · exact fun n => told_later _ (answered n) rfl fun _ => id
      · exact fun n => told_later _ (answered n) rfl fun _ => id
  | stopped dropped =>
      have ended := answered.drop (a := .stopConsumer) followed dropped
      exact fun n => (ended n).mono (fun _ => id) rfl fun _ => id
  | @tripped n iteration component variable_ actualValue idle same =>
      refine answered.put rfl rfl (fun _ _ => id) ?_
      rintro n' own
      obtain rfl := Emitter.call.inj own
      have none_ : s.called (.call n) = [] := by
        have told := answered n
        rwa [idle] at told
      split_ifs with unwatched
      · refine ⟨none_, .inl ⟨actualValue, ?_⟩⟩
        apply occurred_last ran
        refine ⟨iteration, component, variable_, rfl, ?_⟩
        rw [← List.isEmpty_iff.mp unwatched]
        exact V201DeviceModel.monitorsForVariable_watching traced.watched same component variable_
      · exact none_
  | dequeued ready waiting => exact answered.put (e := .consumer) rfl rfl (fun _ _ => id) (by simp)
  | @gated e trip now matched =>
      refine answered.put rfl rfl (fun n => decided_later rfl (.call n)) ?_
      rintro n rfl
      have none_ : s.called (.call n) = [] := by
        have told := answered n
        rwa [matched] at told
      split_ifs with unreported
      · refine ⟨none_, .inr ⟨_, ?_, unreported⟩⟩
        rw [decided_decisions (s := s) rfl, if_pos rfl]
        exact List.mem_append_right _ (List.mem_singleton.mpr rfl)
      · exact none_
  | claimedEventId numbering later =>
      refine answered.put rfl rfl (fun _ _ => id) ?_
      rintro n rfl
      have told := answered n
      rw [numbering] at told
      exact told
  | claimedSeqNo numbering whole =>
      refine answered.put rfl rfl (fun _ _ => id) ?_
      rintro n rfl
      have told := answered n
      rw [numbering] at told
      exact told
  | @sent e decision request calling =>
      exact answered.call calling (followed.own_calling calling) rfl rfl rfl fun n logged => ⟨decision, logged⟩
  | @refused e decision request error calling =>
      exact answered.call calling (followed.own_calling calling) rfl rfl rfl fun n logged => ⟨_, logged⟩
  | @settled e request outcome awaiting =>
      refine answered.put rfl rfl (fun _ _ => id) ?_
      rintro n rfl
      have told := answered n
      rw [awaiting] at told
      obtain ⟨decision, logged⟩ := told
      cases outcome with
      | error error => exact ⟨_, logged⟩
      | ok done => exact ⟨decision, request, logged, rfl, rfl⟩
  | dropped call dropped => exact answered.drop followed dropped

end Answered

theorem trips_delivered {actions : List Action} {s : NotifyEvents}
    (ran : run (step toLowercase parseF64) new actions = some s) : Delivered toLowercase parseF64 actions s := by
  have invariant : Traced toLowercase parseF64 actions s ∧ Followed s ∧ InOrder s ∧
      Worded s ∧ Answered toLowercase parseF64 actions s := by
    apply run_history _ _ ran
    · exact ⟨traced_new, followed_new, ⟨[], rfl, fun _ => rfl⟩, worded_new, fun n => rfl⟩
    · rintro before s a t ran ⟨traced, followed, inOrder, worded, answered⟩ stepped
      have moved := step_moved stepped
      exact ⟨traced.step ran moved, followed.step moved, inOrder.step moved, worded.step moved,
        answered.step ran traced followed moved⟩
  obtain ⟨traced, followed, inOrder, worded, answered⟩ := invariant
  exact ⟨traced.written, traced.decided, inOrder, followed.once, worded.log, answered⟩

theorem overlappingTrips_delivered : ∃ s, run (step id fun _ => none) new overlappingTrips = some s ∧
    Delivered id (fun _ => none) overlappingTrips s := by
  obtain ⟨s, ran, -⟩ := overlappingTrips_run
  exact ⟨s, ran, trips_delivered ran⟩

end NotifyEvents

end Ocpp.ChargePoint
