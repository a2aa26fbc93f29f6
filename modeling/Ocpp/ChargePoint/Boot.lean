import Mathlib.Data.Finset.Basic
import Ocpp.ChargePoint.Completed

/-!
# Sessions with the central system

Connecting, booting, resetting and stopping a charge point, each run to its end. The heartbeat and the meter
samplers are tasks of their own: a task lives until it is aborted through its handle, and dropping the handle
leaves it running.
-/

namespace Ocpp.ChargePoint
open Library Library.Program V16j V201

inductive RegistrationStatus
  | accepted
  | pending
  | rejected
  deriving DecidableEq, Repr

structure BootOutcome where
  status : RegistrationStatus
  interval : Int
  deriving DecidableEq, Repr

/-- Tasks are numbered in the order in which they are spawned; `heartbeats` and `samplers` are those alive. -/
structure Host where
  station : Station
  client : Bool
  registrationStatus : RegistrationStatus
  commandReceiver : Bool
  commandConsumer : Bool
  heartbeatHandle : Option Nat
  meterSamplerHandles : HashMap Int Nat
  heartbeats : Finset Nat
  samplers : Finset Nat
  spawned : Nat

namespace Host

def new : Host where
  station := .new
  client := false
  registrationStatus := .rejected
  commandReceiver := true
  commandConsumer := false
  heartbeatHandle := none
  meterSamplerHandles := ∅
  heartbeats := ∅
  samplers := ∅
  spawned := 0

variable (h : Host)

/-- The handle of another sampler of the transaction is replaced, and its task aborted. -/
def registerMeterSampler (transactionId : Int) : Host :=
  { h with
    meterSamplerHandles := h.meterSamplerHandles.insert transactionId h.spawned
    samplers := insert h.spawned (match h.meterSamplerHandles.lookup transactionId with
      | some previous => h.samplers.erase previous
      | none => h.samplers)
    spawned := h.spawned + 1 }

def stopMeterSampler (transactionId : Int) : Host :=
  match h.meterSamplerHandles.lookup transactionId with
  | some handle =>
      { h with
        meterSamplerHandles := h.meterSamplerHandles.erase transactionId
        samplers := h.samplers.erase handle }
  | none => h

def drainMeterSamplers : Host :=
  { h with
    meterSamplerHandles := ∅
    samplers := h.samplers.filter fun task => h.meterSamplerHandles.entries.all (·.2 ≠ task) }

/-- What an operation on the shared state does to the sampler tasks. -/
def track : Op → Host
  | .registerSampler transactionId _ => h.registerMeterSampler transactionId
  | .stopSampler transactionId => h.stopMeterSampler transactionId
  | .drainSamplers => h.drainMeterSamplers
  | _ => h

/-- The handle of the heartbeat before is overwritten. -/
def startHeartbeat : Host :=
  { h with
    heartbeatHandle := some h.spawned
    heartbeats := insert h.spawned h.heartbeats
    spawned := h.spawned + 1 }

def abortHeartbeat : Host :=
  match h.heartbeatHandle with
  | some handle => { h with heartbeatHandle := none, heartbeats := h.heartbeats.erase handle }
  | none => h

end Host

/-! ## Operations -/

inductive HostError
  | ocpp (error : OcppError)
  | transport (message : String)
  | other (message : String)

inductive HostOp
  | station (op : Op)
  | newClient
  | dropClient
  | spawnConsumer
  | abortConsumer
  | bootNotification
  | setRegistrationStatus (status : RegistrationStatus)
  | startHeartbeat (interval : Int)
  | abortHeartbeat
  | drainTimers

@[reducible] def HostOp.Result : HostOp → Type
  | station op => op.Result
  | newClient => Except String Unit
  | bootNotification => Except OcppError BootOutcome
  | _ => Unit

/-- What the environment decides: also whether a client connects, and how a boot is answered. -/
inductive HostChoice
  | none
  | station (choice : Choice)
  | connect (outcome : Except String Unit)
  | boot (answer : Except OcppError BootOutcome)

/-- Without a client every CALL is refused. -/
def Host.allows (h : Host) : Choice → Bool
  | .answer (.refused _) => true
  | .answer _ => h.client
  | _ => true

def hostExec (h : Host) : (op : HostOp) → HostChoice → Option (op.Result × Host)
  | .station op, .station choice =>
      if h.allows choice then
        (exec h.station op choice).map fun (result, station) => (result, { h.track op with station })
      else none
  | .station _, _ => none
  | .newClient, .connect (.ok ()) => some (.ok (), { h with client := true })
  | .newClient, .connect (.error message) => some (.error message, h)
  | .newClient, _ => none
  | .dropClient, .none => some ((), { h with client := false })
  | .spawnConsumer, .none =>
      some ((), if h.commandReceiver then { h with commandReceiver := false, commandConsumer := true } else h)
  | .abortConsumer, .none => some ((), { h with commandConsumer := false })
  | .bootNotification, .boot (.ok outcome) => if h.client then some (.ok outcome, h) else none
  | .bootNotification, .boot (.error error) => some (.error error, h)
  | .bootNotification, _ => none
  | .setRegistrationStatus status, .none => some ((), { h with registrationStatus := status })
  | .startHeartbeat _, .none => some ((), h.startHeartbeat)
  | .abortHeartbeat, .none => some ((), h.abortHeartbeat)
  | .drainTimers, .none => some ((), { h with station := h.station.removeTimers h.station.expiryTimers.keys })
  | _, _ => none

abbrev Hosted := Program HostOp.Result HostError

def perform (op : HostOp) : Hosted op.Result :=
  .perform op .ret

def onStation {α : Type} : Async α → Hosted α
  | .ret value => .ret value
  | .fail error => .fail (.ocpp error)
  | .perform op next => .perform (.station op) fun result => onStation (next result)

/-! ## Programs -/

variable (config : Config) (maxBootRetries : Nat)

/-- Only 1.6J announces the station itself, as connector 0. -/
def announcedConnectors : List Nat :=
  match config.protocolVersion with
  | .v16j => 0 :: config.connectors
  | .v201 => config.connectors

def announceConnectorsAvailable : Async Unit :=
  (announcedConnectors config).forM fun connectorId => sendStatusNotification connectorId .available

/-- What an attempt leads to once its answer is noted. -/
def bootRegistered (rejected : Hosted Unit) (response : BootOutcome) : Hosted Unit :=
  match response.status with
  | .accepted => do
      onStation (announceConnectorsAvailable config)
      perform (.startHeartbeat (max response.interval 1))
  | .pending => perform (.startHeartbeat (max response.interval 1))
  | .rejected => rejected

/-- One attempt of the boot, with what a rejection leads to. -/
def bootAttempt (rejected : Hosted Unit) : Hosted Unit := do
  match ← perform .bootNotification with
  | .error error => Program.fail (.ocpp error)
  | .ok response =>
      perform (.setRegistrationStatus response.status)
      bootRegistered config rejected response

def bootAttempts : (attempt retries : Nat) → Hosted Unit
  | attempt, 0 => bootAttempt config (Program.fail (.ocpp (.bootRejected attempt)))
  | attempt, retries + 1 => bootAttempt config (bootAttempts (attempt + 1) retries)

def bootSequence : Hosted Unit :=
  bootAttempts config 1 maxBootRetries

def establishSession : Hosted Unit := do
  match ← perform .newClient with
  | .error message => Program.fail (.transport message)
  | .ok () => bootSequence config maxBootRetries

def connect : Hosted Unit := do
  perform .spawnConsumer
  establishSession config maxBootRetries

def disconnect : Hosted Unit :=
  perform .dropClient

def handleBootNotificationResponse (response : BootOutcome) : Hosted Unit := do
  perform (.setRegistrationStatus response.status)
  match response.status with
  | .accepted => perform (.startHeartbeat (max response.interval 1))
  | .pending => pure ()
  | .rejected => Program.fail (.other "Boot notification rejected")

/-- The stops of the reset and the end of the samplers, then the end of the heartbeat and the boot. -/
def resetAndBoot (resetType : ResetType) : Hosted Unit := do
  onStation (performReset config resetType)
  perform .abortHeartbeat
  match resetType with
  | .soft => do
      let _ ← (bootSequence config maxBootRetries).attempt
  | .hard => do
      disconnect
      let _ ← (establishSession config maxBootRetries).attempt

def stop : Hosted Unit := do
  perform .abortHeartbeat
  onStation (act .drainSamplers)
  perform .abortConsumer
  perform .drainTimers
  disconnect
  config.connectors.forM fun connectorId => onStation (act (.setStatus connectorId .unavailable))

/-! ## Runs on the shared state -/

theorem hostExec_station {h t : Host} {op : Op} {choice : HostChoice} {result : op.Result}
    (performed : hostExec h (.station op) choice = some (result, t)) :
    ∃ choice' station, choice = .station choice' ∧ exec h.station op choice' = some (result, station) ∧
      t = { h.track op with station } := by
  cases choice with
  | station choice =>
      obtain ⟨-, performed⟩ := Option.ite_none_right_eq_some.mp performed
      obtain ⟨⟨result', station⟩, ran, ended⟩ := Option.map_eq_some_iff.mp performed
      cases ended
      exact ⟨choice, station, rfl, ran, rfl⟩
  | _ => cases performed

/-! ## Boots -/

def Smooth (choices : List HostChoice) : Prop :=
  ∀ answer, .station (.answer answer) ∈ choices → ¬answer.Fails

theorem smooth_nil : Smooth [] := by
  intro answer member
  cases member

theorem smooth_none : Smooth [.none] := by
  intro answer member
  cases List.mem_singleton.mp member

/-- Some BootNotification is not rejected, and no announcement fails. -/
def ComesUp (choices : List HostChoice) : Prop :=
  (∃ outcome, .boot (.ok outcome) ∈ choices ∧ outcome.status ≠ .rejected) ∧ Smooth choices

/-- The station has made CALLs, and nothing else of it has changed. -/
def Host.Called (h t : Host) (made : List (Request × Answer)) : Prop :=
  t = { h with station := { h.station with calls := h.station.calls ++ made } }

theorem Host.called_refl (h : Host) : h.Called h [] := by
  simp [Called]

def announcement (connectorId : Nat) : Request :=
  .statusNotification connectorId .available

section Announcement

variable {connectors : List Nat} {h u t : Host} {choices : List HostChoice}

theorem Host.Called.called {made : List (Request × Answer)} {request : Request} {choice : HostChoice}
    {result : Except OcppError Response} (called : h.Called u made)
    (performed : hostExec u (.station (.call request)) choice = some (result, t)) :
    ∃ answer, choice = .station (.answer answer) ∧ result = answer.outcome ∧
      h.Called t (made ++ [(request, answer)]) := by
  obtain ⟨choice, station, rfl, executed, rfl⟩ := hostExec_station performed
  cases choice with
  | answer answer =>
      cases executed
      refine ⟨answer, rfl, rfl, ?_⟩
      rw [called]
      simp [Host.Called, Host.track, Station.called]
  | _ => cases executed

/-- The announcements of some connectors. -/
def announce (connectors : List Nat) : Hosted Unit :=
  onStation (connectors.forM fun connectorId => sendStatusNotification connectorId .available)

theorem announce_cons (connectorId : Nat) (connectors : List Nat) :
    announce (connectorId :: connectors) =
      perform (.station (.call (announcement connectorId))) >>= fun
        | .ok _ => announce connectors
        | .error error => Program.fail (.ocpp error) := by
  apply congrArg (Program.perform _)
  funext result
  cases result with
  | error error => rfl
  | ok response => rfl

theorem announce_within (connectors : List Nat) :
    (announce connectors).Within fun op => ∃ request, op = .station (.call request) := by
  induction connectors with
  | nil => trivial
  | cons connectorId connectors ih =>
      rw [announce_cons]
      refine ⟨⟨_, rfl⟩, fun result => ?_⟩
      cases result with
      | error error => trivial
      | ok response => exact ih

theorem announce_states (visited : u ∈ (announce connectors).states hostExec choices h) :
    ∃ made, h.Called u made := by
  have kept : ∀ s op choice (result : HostOp.Result op) t, (∃ request, op = .station (.call request)) →
      (∃ made, h.Called s made) → hostExec s op choice = some (result, t) → ∃ made, h.Called t made := by
    rintro s _ choice result t ⟨request, rfl⟩ ⟨made, called⟩ performed
    obtain ⟨answer, -, -, later⟩ := called.called performed
    exact ⟨_, later⟩
  exact (announce_within connectors).states kept ⟨[], h.called_refl⟩ visited

theorem announce_told {outcome : Unit}
    (ran : (announce connectors).eval hostExec choices h = some (.ok outcome, t)) :
    Smooth choices ∧ ∃ made, h.Called t made ∧ made.map (·.1) = connectors.map announcement ∧
      ∀ entry ∈ made, entry.2.Sent := by
  induction connectors generalizing h choices with
  | nil =>
      cases choices with
      | nil =>
          cases ran
          exact ⟨fun _ member => absurd member List.not_mem_nil, [], t.called_refl, rfl,
            fun _ member => absurd member List.not_mem_nil⟩
      | cons choice choices => cases ran
  | cons connectorId connectors ih =>
      rw [announce_cons] at ran
      cases choices with
      | nil => cases ran
      | cons choice choices =>
          obtain ⟨⟨result, u⟩, found, later⟩ := Option.bind_eq_some_iff.mp ran
          obtain ⟨answer, rfl, rfl, called⟩ := h.called_refl.called found
          cases answer with
          | refused error | failed error =>
              cases choices with
              | nil => cases later
              | cons choice choices => cases later
          | replied response =>
              obtain ⟨smooth, made, rest, told, sent⟩ := ih later
              refine ⟨?_, (announcement connectorId, .replied response) :: made, ?_, ?_, ?_⟩
              · rintro answer (_ | ⟨_, member⟩)
                · exact id
                · exact smooth answer member
              · rw [Host.Called, rest, called]
                simp
              · simp [told]
              · rintro entry (_ | ⟨_, member⟩)
                · trivial
                · exact sent entry member

end Announcement

/-- A boot has registered the station and made announcements, and nothing else of it has changed. -/
def Host.Announced (h t : Host) (made : List (Request × Answer)) : Prop :=
  ∃ registrationStatus, { h with registrationStatus }.Called t made

/-- A boot that is not rejected starts a heartbeat; one that is accepted has told every connector. -/
def Host.Up (h : Host) (choices : List HostChoice) (t : Host) : Prop :=
  ComesUp choices ∧ ∃ u made, h.Announced u made ∧ t = u.startHeartbeat ∧
    ((∃ interval, .boot (.ok ⟨.pending, interval⟩) ∈ choices) ∨
      made.map (·.1) = (announcedConnectors config).map announcement ∧ ∀ entry ∈ made, entry.2.Sent)

theorem hostExec_bootNotification {h t : Host} {choice : HostChoice} {result : Except OcppError BootOutcome}
    (performed : hostExec h .bootNotification choice = some (result, t)) :
    choice = .boot result ∧ t = h := by
  cases choice with
  | boot answer =>
      cases answer with
      | error error => cases performed; exact ⟨rfl, rfl⟩
      | ok outcome =>
          obtain ⟨-, ended⟩ := Option.ite_none_right_eq_some.mp performed
          cases ended
          exact ⟨rfl, rfl⟩
  | _ => cases performed

theorem hostExec_newClient {h t : Host} {choice : HostChoice} {result : Except String Unit}
    (performed : hostExec h .newClient choice = some (result, t)) :
    choice = .connect result ∧ ∃ client, t = { h with client } := by
  cases choice with
  | connect outcome =>
      cases outcome with
      | error message => cases performed; exact ⟨rfl, h.client, rfl⟩
      | ok value => cases performed; exact ⟨rfl, true, rfl⟩
  | _ => cases performed

theorem hostExec_setRegistrationStatus {h t : Host} {status : RegistrationStatus} {choice : HostChoice}
    {result : Unit} (performed : hostExec h (.setRegistrationStatus status) choice = some (result, t)) :
    choice = .none ∧ t = { h with registrationStatus := status } := by
  cases choice <;> cases performed
  exact ⟨rfl, rfl⟩

theorem hostExec_startHeartbeat {h t : Host} {interval : Int} {choice : HostChoice}
    {result : Unit} (performed : hostExec h (.startHeartbeat interval) choice = some (result, t)) :
    choice = .none ∧ t = h.startHeartbeat := by
  cases choice <;> cases performed
  exact ⟨rfl, rfl⟩

/-- What a program that boots the station ends in and goes through, with the choices before it. -/
structure Boots (earlier : List HostChoice) (p : Hosted Unit) : Prop where
  ended : ∀ {h t choices outcome}, p.eval hostExec choices h = some (outcome, t) →
    outcome = .ok () ∧ h.Up config (earlier ++ choices) t ∨ ∃ made, h.Announced t made
  before : ∀ {h u t choices outcome}, p.eval hostExec choices h = some (outcome, t) →
    u ∈ p.states hostExec choices h → u = t ∨ ∃ made, h.Announced u made

section Boots

variable {earlier : List HostChoice}

theorem boots_fail (error : HostError) : Boots config earlier (Program.fail error) := by
  constructor
  · intro h t choices outcome ran
    cases choices with
    | nil =>
        cases ran
        exact .inr ⟨[], h.registrationStatus, h.called_refl⟩
    | cons choice choices => cases ran
  · intro h u t choices outcome ran visited
    cases choices with
    | nil =>
        cases ran
        exact .inl (List.mem_singleton.mp visited)
    | cons choice choices => cases ran

theorem Host.Called.announced {h u : Host} {made : List (Request × Answer)} (called : h.Called u made) :
    h.Announced u made :=
  ⟨h.registrationStatus, called⟩

theorem startHeartbeat_ended {h t : Host} {interval : Int} {choices : List HostChoice}
    {outcome : Except HostError Unit}
    (ran : (perform (.startHeartbeat interval)).eval hostExec choices h = some (outcome, t)) :
    choices = [.none] ∧ outcome = .ok () ∧ t = h.startHeartbeat ∧
      (perform (.startHeartbeat interval) : Hosted Unit).states hostExec choices h = [h, t] := by
  cases choices with
  | nil => cases ran
  | cons choice choices =>
      obtain ⟨⟨result, u⟩, found, later⟩ := Option.bind_eq_some_iff.mp ran
      obtain ⟨rfl, rfl⟩ := hostExec_startHeartbeat found
      cases choices with
      | nil => cases later; exact ⟨rfl, rfl, rfl, rfl⟩
      | cons choice choices => cases later

theorem Smooth.append {choices : List HostChoice} (smooth : Smooth earlier) (smoothly : Smooth choices) :
    Smooth (earlier ++ choices) := by
  intro answer member
  rcases List.mem_append.mp member with before | here
  · exact smooth answer before
  · exact smoothly answer here

theorem ComesUp.intro {response : BootOutcome} (answered : .boot (.ok response) ∈ earlier)
    (up : response.status ≠ .rejected) (smooth : Smooth earlier) {choices : List HostChoice}
    (smoothly : Smooth choices) : ComesUp (earlier ++ choices) :=
  ⟨⟨response, List.mem_append_left choices answered, up⟩, smooth.append smoothly⟩

theorem bootRegistered_boots {rejected : Hosted Unit} {response : BootOutcome}
    (answered : .boot (.ok response) ∈ earlier) (smooth : Smooth earlier)
    (again : Boots config earlier rejected) :
    Boots config earlier (bootRegistered config rejected response) := by
  obtain ⟨status, interval⟩ := response
  cases status with
  | rejected => exact again
  | pending =>
      constructor
      · intro h t choices outcome ran
        obtain ⟨rfl, rfl, rfl, -⟩ := startHeartbeat_ended ran
        refine .inl ⟨rfl, .intro answered nofun smooth smooth_none, h, [], h.called_refl.announced, rfl, .inl ?_⟩
        exact ⟨interval, List.mem_append_left _ answered⟩
      · intro h u t choices outcome ran visited
        obtain ⟨-, -, -, states⟩ := startHeartbeat_ended ran
        change u ∈ (perform (.startHeartbeat _) : Hosted Unit).states hostExec choices h at visited
        rw [states] at visited
        rcases List.mem_pair.mp visited with rfl | rfl
        · exact .inr ⟨[], u.called_refl.announced⟩
        · exact .inl rfl
  | accepted =>
      constructor
      · intro h t choices outcome ran
        obtain ⟨error, failed, -⟩ | ⟨first, rest, value, u, rfl, told, ran⟩ := eval_bind ran
        · obtain ⟨made, called⟩ := announce_states (mem_states_of_eval failed)
          exact .inr ⟨made, called.announced⟩
        · obtain ⟨rfl, rfl, rfl, -⟩ := startHeartbeat_ended ran
          obtain ⟨smoothly, made, called, all, sent⟩ := announce_told told
          refine .inl ⟨rfl, ?_, u, made, called.announced, rfl, .inr ⟨all, sent⟩⟩
          exact .intro answered nofun smooth (smoothly.append smooth_none)
      · intro h v t choices outcome ran visited
        obtain inside | ⟨first, rest, value, u, rfl, told, after⟩ := mem_states_bind visited
        · obtain ⟨made, called⟩ := announce_states inside
          exact .inr ⟨made, called.announced⟩
        · replace ran := (eval_bind_append told rest).symm.trans ran
          obtain ⟨-, -, -, states⟩ := startHeartbeat_ended ran
          rw [states] at after
          rcases List.mem_pair.mp after with rfl | rfl
          · obtain ⟨-, made, called, -⟩ := announce_told told
            exact .inr ⟨made, called.announced⟩
          · exact .inl rfl

theorem boots_perform {op : HostOp} {next : op.Result → Hosted Unit}
    (later : ∀ {h t choice result}, hostExec h op choice = some (result, t) →
      (∃ registrationStatus, t = { h with registrationStatus }) ∧
        Boots config (earlier ++ [choice]) (next result)) :
    Boots config earlier (.perform op next) := by
  constructor
  · intro h t choices outcome ran
    cases choices with
    | nil => cases ran
    | cons choice choices =>
        obtain ⟨⟨result, u⟩, found, rest⟩ := Option.bind_eq_some_iff.mp ran
        obtain ⟨⟨status, rfl⟩, boots⟩ := later found
        rw [List.append_cons]
        have ended := boots.ended rest
        exact ended
  · intro h v t choices outcome ran visited
    cases choices with
    | nil => cases ran
    | cons choice choices =>
        obtain ⟨⟨result, u⟩, found, rest⟩ := Option.bind_eq_some_iff.mp ran
        obtain rfl | after := List.mem_cons.mp visited
        · exact .inr ⟨[], v.called_refl.announced⟩
        obtain ⟨⟨status, rfl⟩, boots⟩ := later found
        rw [found] at after
        have before := boots.before rest after
        exact before

theorem bootAttempt_boots {rejected : Hosted Unit}
    (again : ∀ {earlier}, Smooth earlier → Boots config earlier rejected) (smooth : Smooth earlier) :
    Boots config earlier (bootAttempt config rejected) := by
  refine boots_perform config fun {h t choice result} performed => ?_
  obtain ⟨rfl, rfl⟩ := hostExec_bootNotification performed
  refine ⟨⟨t.registrationStatus, rfl⟩, ?_⟩
  cases result with
  | error error => exact boots_fail config _
  | ok response =>
      refine boots_perform config fun {h t choice result} performed => ?_
      obtain ⟨rfl, rfl⟩ := hostExec_setRegistrationStatus performed
      refine ⟨⟨response.status, rfl⟩, ?_⟩
      have smoothly : Smooth (earlier ++ [.boot (.ok response)] ++ [.none]) := by
        intro answer member
        simp only [List.append_assoc, List.mem_append, List.mem_singleton, reduceCtorEq, or_false] at member
        exact smooth answer member
      apply bootRegistered_boots config _ smoothly (again smoothly)
      simp

theorem bootAttempts_boots (attempt retries : Nat) (smooth : Smooth earlier) :
    Boots config earlier (bootAttempts config attempt retries) := by
  induction retries generalizing attempt earlier with
  | zero => exact bootAttempt_boots config (fun _ => boots_fail config _) smooth
  | succ retries ih => exact bootAttempt_boots config (fun smooth => ih (attempt + 1) smooth) smooth

end Boots

theorem bootSequence_boots {earlier : List HostChoice} (smooth : Smooth earlier) :
    Boots config earlier (bootSequence config maxBootRetries) :=
  bootAttempts_boots config 1 maxBootRetries smooth

end Ocpp.ChargePoint
