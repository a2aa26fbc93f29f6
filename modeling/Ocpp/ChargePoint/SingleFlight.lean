import Ocpp.ChargePoint.Commands
import Ocpp.Types.Certificate

/-!
# Single-flight uploads and rollouts

`GetLog` and `UpdateFirmware` with `v201_log_upload.rs` and `v201_firmware_update.rs`: the slot of each
names the request it serves, a newer request takes the slot over, and the consumer runs the queued streams
one at a time. A stream is named by the request that queued it, so that a `requestId` may come again. The
steps of the handlers and of the consumer come in any order.
-/

namespace Ocpp.ChargePoint.SingleFlight
open Library

inductive Service
  | logUpload
  | firmwareUpdate
deriving DecidableEq

inductive LogEnumType
  | diagnosticsLog
  | securityLog
deriving DecidableEq

inductive Request
  | getLog (logType : LogEnumType) (requestId : Int)
  | updateFirmware (requestId : Int) (signingCertificate : Option String)
deriving DecidableEq

def Request.service : Request → Service
  | .getLog _ _ => .logUpload
  | .updateFirmware _ _ => .firmwareUpdate

def Request.requestId : Request → Int
  | .getLog _ requestId | .updateFirmware requestId _ => requestId

/-! ## Decisions -/

inductive LogStatusEnumType
  | accepted
  | rejected
  | acceptedCanceled
deriving DecidableEq

inductive UpdateFirmwareStatusEnumType
  | accepted
  | rejected
  | acceptedCanceled
  | invalidCertificate
  | revokedCertificate
deriving DecidableEq

def v201LogFilename (logType : LogEnumType) (requestId : Int) : String :=
  let kind := match logType with
    | .diagnosticsLog => "diagnostics"
    | .securityLog => "security"
  kind ++ "_" ++ toString requestId ++ ".log"

def v201GetLogDecision (logType : LogEnumType) (requestId : Int) (inFlight : Option Int) :
    LogStatusEnumType × Option String :=
  let filename := v201LogFilename logType requestId
  let status := match inFlight with
    | none => .accepted
    | some current => if current = requestId then .accepted else .acceptedCanceled
  (status, some filename)

def v201UpdateFirmwareDecision (requestId : Int) (signingCertificate : Option String)
    (inFlight : Option Int) : UpdateFirmwareStatusEnumType :=
  if signingCertificate.any (v201InstallCertificateStatus · ≠ .accepted) then .invalidCertificate
  else match inFlight with
    | none => .accepted
    | some current => if current = requestId then .accepted else .acceptedCanceled

inductive Response
  | getLog (status : LogStatusEnumType) (filename : Option String)
  | updateFirmware (status : UpdateFirmwareStatusEnumType) (statusInfo : Option StatusInfoType)
deriving DecidableEq

def Response.accepts : Response → Bool
  | .getLog status _ => status = .accepted || status = .acceptedCanceled
  | .updateFirmware status _ => status = .accepted || status = .acceptedCanceled

def invalidCertificate : StatusInfoType :=
  ⟨"InvalidCertificate", "the firmware signing certificate is empty or not a usable PEM-encoded certificate"⟩

def decision : Request → Option Int → Response
  | .getLog logType requestId, inFlight =>
      let (status, filename) := v201GetLogDecision logType requestId inFlight
      .getLog status filename
  | .updateFirmware requestId signingCertificate, inFlight =>
      let status := v201UpdateFirmwareDecision requestId signingCertificate inFlight
      .updateFirmware status (if status = .invalidCertificate then some invalidCertificate else none)

/-! ## Streams -/

inductive UploadLogStatusEnumType
  | badMessage
  | idle
  | notSupportedOperation
  | permissionDenied
  | uploaded
  | uploadFailure
  | uploading
  | acceptedCanceled
deriving DecidableEq

inductive FirmwareStatusEnumType
  | downloaded
  | downloadFailed
  | downloading
  | downloadScheduled
  | downloadPaused
  | idle
  | installationFailed
  | installing
  | installed
  | installRebooting
  | installScheduled
  | installVerificationFailed
  | invalidSignature
  | signatureVerified
deriving DecidableEq

inductive Status
  | log (status : UploadLogStatusEnumType)
  | firmware (status : FirmwareStatusEnumType)
deriving DecidableEq

/-- A terminal status that is not the canceled one. -/
def Status.isOutcome : Status → Bool
  | .log status => status = .uploaded || status = .uploadFailure
  | .firmware status => status = .installed || status = .installationFailed || status = .downloadFailed

inductive FirmwareUpdateOutcome
  | succeed
  | downloadFailed
  | installationFailed
deriving DecidableEq

structure Settings where
  logUploadShouldFail : Bool
  firmwareUpdateOutcome : FirmwareUpdateOutcome

variable (settings : Settings)

/-- What a stream reports before it gives up its slot. -/
def progress : Service → List Status
  | .logUpload => [.log .uploading]
  | .firmwareUpdate =>
      if settings.firmwareUpdateOutcome = .downloadFailed then [.firmware .downloading]
      else [.firmware .downloading, .firmware .downloaded, .firmware .installing]

def v201LogUploadTerminalStatus (superseded shouldFail : Bool) : UploadLogStatusEnumType :=
  if superseded then .acceptedCanceled
  else if shouldFail then .uploadFailure
  else .uploaded

/-- What a stream reports last; a rollout that lost its slot goes quiet. -/
def terminal (stillOwner : Bool) : Service → Option Status
  | .logUpload => some (.log (v201LogUploadTerminalStatus (!stillOwner) settings.logUploadShouldFail))
  | .firmwareUpdate =>
      if stillOwner then
        match settings.firmwareUpdateOutcome with
        | .succeed => some (.firmware .installed)
        | .downloadFailed => some (.firmware .downloadFailed)
        | .installationFailed => some (.firmware .installationFailed)
      else none

theorem progress_isOutcome {service : Service} {status : Status}
    (member : status ∈ progress settings service) : status.isOutcome = false := by
  cases service with
  | logUpload => simp_all [progress, Status.isOutcome]
  | firmwareUpdate =>
      simp only [progress] at member
      split_ifs at member <;> simp only [List.mem_cons, List.not_mem_nil, or_false] at member
      · simp [member, Status.isOutcome]
      · obtain rfl | rfl | rfl := member <;> rfl

theorem terminal_any_isOutcome (stillOwner : Bool) (service : Service) :
    (terminal settings stillOwner service).any Status.isOutcome = stillOwner := by
  cases service with
  | logUpload =>
      cases stillOwner with
      | false => rfl
      | true => cases fails : settings.logUploadShouldFail <;> simp [terminal, fails] <;> rfl
  | firmwareUpdate =>
      cases stillOwner with
      | false => rfl
      | true => cases outcome : settings.firmwareUpdateOutcome <;> simp [terminal, outcome, Status.isOutcome]

/-! ## Handlers and consumer -/

structure Stream where
  request : Nat
  service : Service
  requestId : Int
deriving DecidableEq

/-- A handler reads the slot and decides, takes the slot, and queues its stream unless it was a retry. -/
inductive Handler
  | idle
  | decided (request : Request) (response : Response)
  | begun (request : Request) (displaced : Option Int) (response : Response)
  | answered (request : Request) (response : Response)
deriving DecidableEq

inductive Stage
  | reporting (statuses : List Status)
  | settling (terminal : Option Status)
deriving DecidableEq

/-- A stream that has given up its slot, with the latest accepted request of its service at that moment. -/
structure Completion where
  stream : Stream
  latest : Option Nat
deriving DecidableEq

structure State where
  inFlight : Service → Option Int
  handlers : Nat → Handler
  queue : List Stream
  running : Option (Stream × Stage)
  reports : List (Stream × Status)
  /-- The latest accepted request that was no retry. -/
  latest : Service → Option Nat
  completed : List Completion

def State.new : State where
  inFlight _ := none
  handlers _ := .idle
  queue := []
  running := none
  reports := []
  latest _ := none
  completed := []

def stream (h : Nat) (request : Request) : Stream :=
  ⟨h, request.service, request.requestId⟩

inductive Action
  | decide (h : Nat) (request : Request)
  | begin (h : Nat)
  | queue (h : Nat)
  | dequeue
  | report
  | complete
  | settle

/-- `begin`: the slot is replaced, and the request is a retry if it held its own id. -/
def State.begin (s : State) (h : Nat) (request : Request) (response : Response) : State :=
  let displaced := s.inFlight request.service
  { s with
    inFlight := Function.update s.inFlight request.service (some request.requestId)
    handlers := Function.update s.handlers h (.begun request displaced response)
    latest := if displaced = some request.requestId then s.latest
      else Function.update s.latest request.service (some h) }

/-- `complete`: the slot is cleared if it still holds the id of the stream. -/
def State.complete (s : State) (x : Stream) : State :=
  let stillOwner := decide (s.inFlight x.service = some x.requestId)
  { s with
    inFlight := if stillOwner then Function.update s.inFlight x.service none else s.inFlight
    running := some (x, .settling (terminal settings stillOwner x.service))
    completed := s.completed ++ [⟨x, s.latest x.service⟩] }

def step (s : State) : Action → Option State
  | .decide h request =>
      match s.handlers h with
      | .idle =>
          let response := decision request (s.inFlight request.service)
          some { s with handlers := Function.update s.handlers h (.decided request response) }
      | _ => none
  | .begin h =>
      match s.handlers h with
      | .decided request response =>
          if response.accepts then some (s.begin h request response)
          else some { s with handlers := Function.update s.handlers h (.answered request response) }
      | _ => none
  | .queue h =>
      match s.handlers h with
      | .begun request displaced response =>
          some { s with
            handlers := Function.update s.handlers h (.answered request response)
            queue := if displaced = some request.requestId then s.queue else s.queue ++ [stream h request] }
      | _ => none
  | .dequeue =>
      match s.running, s.queue with
      | none, x :: rest =>
          some { s with queue := rest, running := some (x, .reporting (progress settings x.service)) }
      | _, _ => none
  | .report =>
      match s.running with
      | some (x, .reporting (status :: statuses)) =>
          some { s with running := some (x, .reporting statuses), reports := s.reports ++ [(x, status)] }
      | _ => none
  | .complete =>
      match s.running with
      | some (x, .reporting []) => some (s.complete settings x)
      | _ => none
  | .settle =>
      match s.running with
      | some (x, .settling terminal) =>
          some { s with running := none, reports := s.reports ++ terminal.toList.map (x, ·) }
      | _ => none

/-! ## What the streams report -/

/-- The stream has reported a terminal status that is not the canceled one. -/
def Reported (s : State) (x : Stream) : Prop :=
  ∃ status, (x, status) ∈ s.reports ∧ status.isOutcome

def Quiet (s : State) : Prop :=
  ∀ h request displaced response, s.handlers h ≠ .begun request displaced response

structure Drained (s : State) : Prop where
  quiet : Quiet s
  queue : s.queue = []
  running : s.running = none

/-- A stream whose slot is not given up yet. -/
inductive Outstanding (s : State) : Stream → Prop
  | begun {h request displaced response} : s.handlers h = .begun request displaced response →
      displaced ≠ some request.requestId → Outstanding s (stream h request)
  | queued {x} : x ∈ s.queue → Outstanding s x
  | running {x statuses} : s.running = some (x, .reporting statuses) → Outstanding s x

/-- A completed stream reports an outcome iff the latest accepted request queued it; the stream of the last
accepted request reports one; and nothing is in flight once the queue is drained. -/
structure SettlesRight (s : State) : Prop where
  owner : ∀ c ∈ s.completed, s.running.map (·.1) ≠ some c.stream →
    (Reported s c.stream ↔ c.latest = some c.stream.request)
  last : Drained s → ∀ service r, s.latest service = some r →
    ∃ x, x.service = service ∧ x.request = r ∧ Reported s x
  idle : Drained s → ∀ service, s.inFlight service = none

/-- A request that is no retry takes the slot only while no outstanding stream of its service has its
`requestId`. -/
def Unreused (s : State) : Action → Prop
  | .begin h => ∀ request response, s.handlers h = .decided request response → response.accepts →
      s.inFlight request.service ≠ some request.requestId →
      ∀ x, Outstanding s x → x.service = request.service → x.requestId ≠ request.requestId
  | _ => True

/-! ## The line of streams -/

def State.active (s : State) : List Stream :=
  match s.running with
  | some (x, .reporting _) => [x]
  | _ => []

def State.line (s : State) : List Stream :=
  s.completed.map (·.stream) ++ s.active ++ s.queue

theorem mem_active {s : State} {x : Stream} :
    x ∈ s.active ↔ ∃ statuses, s.running = some (x, .reporting statuses) := by
  cases running : s.running with
  | none => simp [State.active, running]
  | some run =>
      obtain ⟨y, statuses | terminal⟩ := run
      · simp [State.active, running, eq_comm]
      · simp [State.active, running]

theorem Outstanding.cases {s : State} {x : Stream} (outstanding : Outstanding s x) :
    (∃ request displaced response, s.handlers x.request = .begun request displaced response ∧
      displaced ≠ some request.requestId ∧ x = stream x.request request) ∨ x ∈ s.active ++ s.queue := by
  cases outstanding with
  | begun handler fresh => exact .inl ⟨_, _, _, handler, fresh, rfl⟩
  | queued member => exact .inr (List.mem_append_right _ member)
  | running active => exact .inr (List.mem_append_left _ (mem_active.mpr ⟨_, active⟩))

theorem outstanding_of_mem {s : State} {x : Stream} (member : x ∈ s.active ++ s.queue) : Outstanding s x := by
  obtain active | queued := List.mem_append.mp member
  · obtain ⟨statuses, running⟩ := mem_active.mp active
    exact .running running
  · exact .queued queued

/-- Each stream was queued once, by a handler that has answered. -/
structure Lined (s : State) : Prop where
  once : s.line.Nodup
  answered : ∀ x ∈ s.line, ∃ request response, s.handlers x.request = .answered request response ∧
    x = stream x.request request

theorem Lined.unique {s : State} (inv : Lined s) {x y : Stream} (first : x ∈ s.line) (second : y ∈ s.line)
    (same : x.request = y.request) : x = y := by
  obtain ⟨request, response, handler, shape⟩ := inv.answered x first
  obtain ⟨request', response', handler', shape'⟩ := inv.answered y second
  rw [same, handler'] at handler
  cases handler
  rw [shape, shape', same]

theorem Lined.not_completed {s : State} (inv : Lined s) {x : Stream} (outstanding : Outstanding s x) :
    ∀ c ∈ s.completed, c.stream.request ≠ x.request := by
  intro c member same
  have done : c.stream ∈ s.line :=
    List.mem_append_left _ (List.mem_append_left _ (List.mem_map_of_mem member))
  obtain ⟨request, displaced, response, handler, -⟩ | waiting := outstanding.cases
  · obtain ⟨_, _, answered, -⟩ := inv.answered c.stream done
    rw [same, handler] at answered
    cases answered
  · rw [List.mem_append] at waiting
    have there : x ∈ s.line := by
      obtain active | queued := waiting
      · exact List.mem_append_left _ (List.mem_append_right _ active)
      · exact List.mem_append_right _ queued
    have equal := inv.unique done there same
    have apart := inv.once
    rw [State.line, List.append_assoc, List.nodup_append] at apart
    exact apart.2.2 c.stream (List.mem_map_of_mem member) x (List.mem_append.mpr waiting) equal

theorem Lined.outstanding_unique {s : State} (inv : Lined s) {x y : Stream} (first : Outstanding s x)
    (second : Outstanding s y) (same : x.request = y.request) : x = y := by
  have lined : ∀ {x}, x ∈ s.active ++ s.queue → x ∈ s.line := by
    intro x member
    rw [State.line, List.append_assoc]
    exact List.mem_append_right _ member
  obtain ⟨request, displaced, response, handler, -, shape⟩ | waiting := first.cases
  · obtain ⟨request', displaced', response', handler', -, shape'⟩ | waiting' := second.cases
    · rw [same, handler'] at handler
      cases handler
      rw [shape, shape', same]
    · obtain ⟨_, _, answered, -⟩ := inv.answered y (lined waiting')
      rw [← same, handler] at answered
      cases answered
  · obtain ⟨request', displaced', response', handler', -⟩ | waiting' := second.cases
    · obtain ⟨_, _, answered, -⟩ := inv.answered x (lined waiting)
      rw [same, handler'] at answered
      cases answered
    · exact inv.unique (lined waiting) (lined waiting') same

theorem Lined.of_handler {s t : State} (inv : Lined s) {h : Nat}
    (open_ : ∀ request response, s.handlers h ≠ .answered request response)
    (line : t.line = s.line) (others : ∀ h', h' ≠ h → t.handlers h' = s.handlers h') : Lined t := by
  constructor
  · rw [line]
    exact inv.once
  · intro x member
    rw [line] at member
    obtain ⟨request, response, handler, shape⟩ := inv.answered x member
    refine ⟨request, response, ?_, shape⟩
    rw [others x.request, handler]
    rintro rfl
    exact open_ request response handler

/-- The handler has taken the slot and has a stream to queue. -/
def Handler.Holds : Handler → Request → Prop
  | .begun request displaced _, request' => request = request' ∧ displaced ≠ some request.requestId
  | _, _ => False

theorem outstanding_iff {s : State} {x : Stream} : Outstanding s x ↔
    (∃ request, (s.handlers x.request).Holds request ∧ x = stream x.request request) ∨
      x ∈ s.active ++ s.queue := by
  constructor
  · intro outstanding
    obtain ⟨request, displaced, response, handler, fresh, shape⟩ | waiting := outstanding.cases
    · left
      refine ⟨request, ?_, shape⟩
      rw [handler]
      exact ⟨rfl, fresh⟩
    · exact .inr waiting
  · rintro (⟨request, holds, shape⟩ | waiting)
    · cases handler : s.handlers x.request with
      | begun request' displaced response =>
          rw [handler] at holds
          obtain ⟨rfl, fresh⟩ := holds
          rw [shape]
          exact .begun handler fresh
      | _ =>
          rw [handler] at holds
          exact holds.elim
    · exact outstanding_of_mem waiting

theorem outstanding_of_handler {s t : State} {h : Nat} (active : t.active = s.active)
    (queue : t.queue = s.queue) (others : ∀ h', h' ≠ h → t.handlers h' = s.handlers h')
    (own : ∀ request, (t.handlers h).Holds request ↔ (s.handlers h).Holds request) (x : Stream) :
    Outstanding t x ↔ Outstanding s x := by
  have holds : ∀ request, (t.handlers x.request).Holds request ↔ (s.handlers x.request).Holds request := by
    intro request
    by_cases same : x.request = h
    · rw [same]
      exact own request
    · rw [others x.request same]
  simp only [outstanding_iff, active, queue, holds]

/-! ## Ownership of the slot -/

/-- The outcomes that are reported, or about to be, are those of streams that completed as the latest. -/
structure Reporting (s : State) : Prop where
  progress : ∀ x statuses, s.running = some (x, .reporting statuses) →
    ∀ status ∈ statuses, status.isOutcome = false
  settling : ∀ x terminal, s.running = some (x, .settling terminal) → ∃ c ∈ s.completed, c.stream = x
  reported : ∀ x, Reported s x → ∃ c ∈ s.completed, c.stream = x
  owner : ∀ c ∈ s.completed, (Reported s c.stream ∨
    ∃ status, s.running = some (c.stream, .settling (some status)) ∧ status.isOutcome) ↔
      c.latest = some c.stream.request

/-- A slot that is taken is held by the stream of the latest accepted request, and no two outstanding
streams of a service share a `requestId`. -/
structure Owned (s : State) : Prop extends Lined s, Reporting s where
  slot : ∀ service id, s.inFlight service = some id →
    ∃ x, Outstanding s x ∧ x.service = service ∧ x.requestId = id ∧ s.latest service = some x.request
  latest : ∀ service r, s.latest service = some r →
    (∃ x, Outstanding s x ∧ x.service = service ∧ x.request = r ∧ s.inFlight service = some x.requestId) ∨
      ∃ c ∈ s.completed, c.stream.service = service ∧ c.stream.request = r ∧ c.latest = some r
  ids : ∀ x y, Outstanding s x → Outstanding s y → x.service = y.service → x.requestId = y.requestId → x = y

theorem owned_new : Owned .new where
  once := List.nodup_nil
  answered x member := by cases member
  progress x statuses running := by cases running
  settling x terminal running := by cases running
  reported x reported := by
    obtain ⟨status, member, -⟩ := reported
    cases member
  owner c member := by cases member
  slot service id held := by cases held
  latest service r accepted := by cases accepted
  ids x y first := by
    obtain ⟨_, _, _, handler, -⟩ | waiting := first.cases
    · cases handler
    · cases waiting

namespace Owned

variable {s t : State} {x : Stream} {settings}

theorem settlesRight (inv : Owned s) : SettlesRight s := by
  have empty : Drained s → ∀ x, ¬ Outstanding s x := by
    intro drained x outstanding
    cases outstanding with
    | begun handler _ => exact drained.quiet _ _ _ _ handler
    | queued member => simp [drained.queue] at member
    | running active => simp [drained.running] at active
  constructor
  · intro c member elsewhere
    rw [← inv.owner c member]
    constructor
    · exact Or.inl
    · intro reported
      obtain reported | ⟨status, running, -⟩ := reported
      · exact reported
      · exact absurd (by rw [running]; rfl) elsewhere
  · intro drained service r accepted
    obtain ⟨x, outstanding, -⟩ | ⟨c, member, here, own, latest⟩ := inv.latest service r accepted
    · exact absurd outstanding (empty drained x)
    · refine ⟨c.stream, here, own, ?_⟩
      have reported := (inv.owner c member).mpr (own ▸ latest)
      refine reported.resolve_right fun ⟨status, running, _⟩ => ?_
      rw [drained.running] at running
      cases running
  · intro drained service
    cases held : s.inFlight service with
    | none => rfl
    | some id =>
        obtain ⟨x, outstanding, -⟩ := inv.slot service id held
        exact absurd outstanding (empty drained x)

theorem of_outstanding (inv : Owned s) (lined : Lined t) (reporting : Reporting t)
    (slots : t.inFlight = s.inFlight) (latest : t.latest = s.latest) (completed : t.completed = s.completed)
    (outstanding : ∀ x, Outstanding t x ↔ Outstanding s x) : Owned t where
  toLined := lined
  toReporting := reporting
  slot := by simpa only [slots, latest, outstanding] using inv.slot
  latest := by simpa only [slots, latest, completed, outstanding] using inv.latest
  ids := by simpa only [outstanding] using inv.ids

theorem owner_iff (inv : Owned s) {x : Stream} (outstanding : Outstanding s x) :
    s.inFlight x.service = some x.requestId ↔ s.latest x.service = some x.request := by
  constructor
  · intro held
    obtain ⟨y, other, service, id, latest⟩ := inv.slot x.service x.requestId held
    obtain rfl := inv.ids y x other outstanding service id
    exact latest
  · intro latest
    obtain ⟨y, other, -, own, held⟩ | ⟨c, member, -, own, -⟩ := inv.latest x.service x.request latest
    · obtain rfl := inv.outstanding_unique other outstanding own
      exact held
    · exact absurd own (inv.not_completed outstanding c member)

theorem complete_line (running : s.running = some (x, .reporting [])) :
    (s.complete settings x).line = s.line := by
  simp [State.line, State.active, State.complete, running]

theorem complete_inFlight {service : Service} {id : Int}
    (held : (s.complete settings x).inFlight service = some id) :
    s.inFlight service = some id ∧ ¬ (service = x.service ∧ id = x.requestId) := by
  simp only [State.complete, decide_eq_true_eq] at held
  split_ifs at held with owner
  · rw [Function.update_apply] at held
    split_ifs at held with here
    exact ⟨held, fun same => here same.1⟩
  · refine ⟨held, fun same => owner ?_⟩
    rw [← same.1, ← same.2]
    exact held

theorem complete_outstanding (lined : Lined (s.complete settings x))
    (running : s.running = some (x, .reporting [])) (y : Stream) :
    Outstanding (s.complete settings x) y ↔ Outstanding s y ∧ y ≠ x := by
  constructor
  · intro outstanding
    constructor
    · cases outstanding with
      | begun handler fresh => exact .begun handler fresh
      | queued member => exact .queued member
      | running active => cases active
    · rintro rfl
      refine lined.not_completed outstanding ⟨y, s.latest y.service⟩ ?_ rfl
      exact List.mem_append_right _ (List.mem_singleton.mpr rfl)
  · rintro ⟨outstanding, other⟩
    cases outstanding with
    | begun handler fresh => exact .begun handler fresh
    | queued member => exact .queued member
    | running active =>
        rw [running] at active
        cases active
        exact absurd rfl other

theorem settles_outcome (settings : Settings) (s : State) (x : Stream) :
    (∃ status, (s.complete settings x).running = some (x, .settling (some status)) ∧ status.isOutcome) ↔
      s.inFlight x.service = some x.requestId := by
  have outcome := terminal_any_isOutcome settings (decide (s.inFlight x.service = some x.requestId)) x.service
  rw [Bool.eq_iff_iff, decide_eq_true_eq, Option.any_eq_true] at outcome
  rw [← outcome]
  simp only [State.complete, Option.some.injEq, Prod.mk.injEq, true_and, Stage.settling.injEq]

theorem complete_reporting (inv : Owned s) (running : s.running = some (x, .reporting [])) :
    Reporting (s.complete settings x) := by
  have incomplete := inv.not_completed (.running running)
  constructor
  · intro y statuses active
    cases active
  · intro y terminal active
    cases active
    exact ⟨⟨x, s.latest x.service⟩, List.mem_append_right _ (List.mem_singleton.mpr rfl), rfl⟩
  · intro y reported
    obtain ⟨c, member, same⟩ := inv.reported y reported
    exact ⟨c, List.mem_append_left _ member, same⟩
  · intro c member
    obtain member | member := List.mem_append.mp member
    · -- an earlier completion: the stream that now settles is another one
      rw [← inv.owner c member]
      apply or_congr Iff.rfl
      constructor
      · rintro ⟨status, active, -⟩
        have same : x = c.stream := congrArg Prod.fst (Option.some.inj active)
        exact absurd (congrArg Stream.request same.symm) (incomplete c member)
      · rintro ⟨status, active, -⟩
        rw [running] at active
        cases active
    · obtain rfl := List.mem_singleton.mp member
      have unreported : ¬ Reported (s.complete settings x) x := by
        intro reported
        obtain ⟨c, member, same⟩ := inv.reported x reported
        exact incomplete c member (same ▸ rfl)
      have outcome := settles_outcome settings s x
      rw [inv.owner_iff (.running running)] at outcome
      rw [← outcome]
      exact or_iff_right unreported

theorem complete (inv : Owned s) (running : s.running = some (x, .reporting [])) :
    Owned (s.complete settings x) := by
  have lined : Lined (s.complete settings x) := by
    constructor
    · rw [complete_line running]
      exact inv.once
    · rw [complete_line running]
      exact inv.answered
  have outstanding := complete_outstanding lined running
  constructor
  · exact lined
  · exact inv.complete_reporting running
  · intro service id held
    obtain ⟨held, other⟩ := complete_inFlight held
    obtain ⟨y, waiting, rfl, rfl, latest⟩ := inv.slot service id held
    refine ⟨y, (outstanding y).mpr ⟨waiting, ?_⟩, rfl, rfl, latest⟩
    rintro rfl
    exact other ⟨rfl, rfl⟩
  · intro service r accepted
    obtain ⟨y, waiting, rfl, rfl, held⟩ | ⟨c, member, rest⟩ := inv.latest service r accepted
    · by_cases same : y = x
      · subst same
        right
        refine ⟨⟨y, s.latest y.service⟩, ?_, rfl, rfl, accepted⟩
        exact List.mem_append_right _ (List.mem_singleton.mpr rfl)
      · left
        refine ⟨y, (outstanding y).mpr ⟨waiting, same⟩, rfl, rfl, ?_⟩
        simp only [State.complete, decide_eq_true_eq]
        split_ifs with owner
        · rw [Function.update_apply, if_neg, held]
          intro service
          rw [service, owner] at held
          exact same (inv.ids y x waiting (.running running) service (Option.some.inj held).symm)
        · exact held
    · right
      exact ⟨c, List.mem_append_left _ member, rest⟩
  · intro y z first second
    exact inv.ids y z ((outstanding y).mp first).1 ((outstanding z).mp second).1

theorem handler (inv : Owned s) {h : Nat} {state : Handler}
    (open_ : ∀ request response, s.handlers h ≠ .answered request response)
    (own : ∀ request, state.Holds request ↔ (s.handlers h).Holds request) :
    Owned { s with handlers := Function.update s.handlers h state } := by
  have others : ∀ h', h' ≠ h → Function.update s.handlers h state h' = s.handlers h' :=
    fun h' other => Function.update_of_ne other _ _
  refine inv.of_outstanding ?_ { inv.toReporting with } rfl rfl rfl ?_
  · exact inv.toLined.of_handler open_ rfl others
  · exact outstanding_of_handler (t := { s with handlers := Function.update s.handlers h state }) rfl rfl others
      (by simpa using own)

theorem retry (inv : Owned s) {h : Nat} {request : Request} {response : Response}
    (decided : s.handlers h = .decided request response)
    (held : s.inFlight request.service = some request.requestId) : Owned (s.begin h request response) := by
  have kept : Owned { s with
      handlers := Function.update s.handlers h (.begun request (some request.requestId) response) } :=
    inv.handler (by simp [decided]) (by simp [decided, Handler.Holds])
  have same : Function.update s.inFlight request.service (some request.requestId) = s.inFlight := by
    rw [← held, Function.update_eq_self]
  simpa [State.begin, held, same] using kept

theorem begin (inv : Owned s) {h : Nat} {request : Request} {response : Response}
    (decided : s.handlers h = .decided request response)
    (fresh : s.inFlight request.service ≠ some request.requestId)
    (unreused : ∀ x, Outstanding s x → x.service = request.service → x.requestId ≠ request.requestId) :
    Owned (s.begin h request response) := by
  have others : ∀ h', h' ≠ h → (s.begin h request response).handlers h' = s.handlers h' :=
    fun h' other => Function.update_of_ne other _ _
  have outstanding : ∀ x, Outstanding (s.begin h request response) x ↔
      Outstanding s x ∨ x = stream h request := by
    intro x
    simp only [outstanding_iff]
    by_cases same : x.request = h
    · have handler : (s.begin h request response).handlers x.request =
          .begun request (s.inFlight request.service) response := by
        rw [same]
        exact Function.update_self ..
      rw [handler, show s.handlers x.request = .decided request response from same ▸ decided]
      constructor
      · rintro (⟨_, ⟨rfl, -⟩, shape⟩ | waiting)
        · exact .inr (same ▸ shape)
        · exact .inl (.inr waiting)
      · rintro ((⟨_, holds, -⟩ | waiting) | rfl)
        · exact holds.elim
        · exact .inr waiting
        · exact .inl ⟨request, ⟨rfl, fresh⟩, rfl⟩
    · rw [others x.request same]
      constructor
      · exact .inl
      · rintro (before | rfl)
        · exact before
        · exact absurd rfl same
  have latest : (s.begin h request response).latest = Function.update s.latest request.service (some h) := by
    simp [State.begin, fresh]
  constructor
  · exact inv.toLined.of_handler (by simp [decided]) rfl others
  · exact { inv.toReporting with }
  · intro service id held
    rw [latest]
    simp only [State.begin] at held
    by_cases here : service = request.service
    · subst here
      rw [Function.update_self] at held
      refine ⟨stream h request, (outstanding _).mpr (.inr rfl), rfl, Option.some.inj held, ?_⟩
      exact Function.update_self ..
    · rw [Function.update_of_ne here] at held
      obtain ⟨x, waiting, rest⟩ := inv.slot service id held
      rw [Function.update_of_ne here]
      exact ⟨x, (outstanding x).mpr (.inl waiting), rest⟩
  · intro service r accepted
    rw [latest] at accepted
    by_cases here : service = request.service
    · subst here
      rw [Function.update_self] at accepted
      left
      refine ⟨stream h request, (outstanding _).mpr (.inr rfl), rfl, Option.some.inj accepted, ?_⟩
      exact Function.update_self ..
    · rw [Function.update_of_ne here] at accepted
      obtain ⟨x, waiting, rfl, own, held⟩ | done := inv.latest service r accepted
      · left
        refine ⟨x, (outstanding x).mpr (.inl waiting), rfl, own, ?_⟩
        exact (Function.update_of_ne here ..).trans held
      · exact .inr done
  · intro x y first second service id
    obtain first | rfl := (outstanding x).mp first
    · obtain second | rfl := (outstanding y).mp second
      · exact inv.ids x y first second service id
      · exact absurd id (unreused x first service)
    · obtain second | rfl := (outstanding y).mp second
      · exact absurd id.symm (unreused y second service.symm)
      · rfl

theorem queue (inv : Owned s) {h : Nat} {request : Request} {displaced : Option Int} {response : Response}
    (begun : s.handlers h = .begun request displaced response) (fresh : displaced ≠ some request.requestId) :
    Owned { s with
      handlers := Function.update s.handlers h (.answered request response)
      queue := s.queue ++ [stream h request] } := by
  have others : ∀ h', h' ≠ h → Function.update s.handlers h (.answered request response) h' = s.handlers h' :=
    fun h' other => Function.update_of_ne other _ _
  have elsewhere : ∀ x ∈ s.line, x.request ≠ h := by
    rintro x member rfl
    obtain ⟨_, _, answered, -⟩ := inv.answered x member
    rw [begun] at answered
    cases answered
  refine inv.of_outstanding ?_ { inv.toReporting with } rfl rfl rfl ?_
  · have line : State.line { s with
        handlers := Function.update s.handlers h (.answered request response)
        queue := s.queue ++ [stream h request] } = s.line ++ [stream h request] := by
      simp [State.line, State.active]
    constructor
    · rw [line, List.nodup_append]
      refine ⟨inv.once, List.nodup_singleton _, ?_⟩
      rintro x member _ new rfl
      rw [List.mem_singleton.mp new] at member
      exact elsewhere _ member rfl
    · rw [line]
      intro x member
      obtain member | new := List.mem_append.mp member
      · obtain ⟨request', response', handler, shape⟩ := inv.answered x member
        exact ⟨request', response', (others x.request (elsewhere x member)).trans handler, shape⟩
      · rw [List.mem_singleton.mp new]
        exact ⟨request, response, Function.update_self .., rfl⟩
  · intro x
    simp only [outstanding_iff, State.active, List.mem_append, List.mem_singleton]
    by_cases same : x.request = h
    · rw [same, begun, Function.update_self]
      constructor
      · rintro (⟨_, holds, -⟩ | active | queued | shape)
        · exact holds.elim
        · exact .inr (.inl active)
        · exact .inr (.inr queued)
        · exact .inl ⟨request, ⟨rfl, fresh⟩, shape⟩
      · rintro (⟨_, ⟨rfl, -⟩, shape⟩ | active | queued)
        · exact .inr (.inr (.inr shape))
        · exact .inr (.inl active)
        · exact .inr (.inr (.inl queued))
    · rw [others x.request same]
      have different : x ≠ stream h request := by
        rintro rfl
        exact same rfl
      simp only [different, or_false]

theorem consumer (inv : Owned s) (reporting : Reporting t) (slots : t.inFlight = s.inFlight)
    (handlers : t.handlers = s.handlers) (latest : t.latest = s.latest) (completed : t.completed = s.completed)
    (waiting : t.active ++ t.queue = s.active ++ s.queue) : Owned t := by
  have line : t.line = s.line := by
    rw [State.line, List.append_assoc, waiting, completed, State.line, List.append_assoc]
  refine inv.of_outstanding ⟨?_, ?_⟩ reporting slots latest completed ?_
  · rw [line]
    exact inv.once
  · rw [line, handlers]
    exact inv.answered
  · simp only [outstanding_iff, handlers, waiting, implies_true]

theorem dequeue (inv : Owned s) {rest : List Stream} (idle : s.running = none) (next : s.queue = x :: rest) :
    Owned { s with queue := rest, running := some (x, .reporting (progress settings x.service)) } := by
  refine inv.consumer ?_ rfl rfl rfl rfl (by simp [State.active, idle, next])
  constructor
  · intro y statuses active status member
    cases active
    exact progress_isOutcome settings member
  · intro y terminal active
    cases active
  · exact inv.reported
  · intro c member
    have before := inv.owner c member
    simp only [idle, reduceCtorEq, false_and, exists_false, or_false] at before
    refine Iff.trans (or_iff_left ?_) before
    rintro ⟨status, active, -⟩
    cases active

theorem report (inv : Owned s) {status : Status} {statuses : List Status}
    (running : s.running = some (x, .reporting (status :: statuses))) :
    Owned { s with running := some (x, .reporting statuses), reports := s.reports ++ [(x, status)] } := by
  have ordinary := inv.progress x _ running
  have reported : ∀ y, Reported { s with
      running := some (x, .reporting statuses), reports := s.reports ++ [(x, status)] } y ↔ Reported s y := by
    intro y
    constructor
    · rintro ⟨status', member, outcome⟩
      obtain member | new := List.mem_append.mp member
      · exact ⟨status', member, outcome⟩
      · cases List.mem_singleton.mp new
        rw [ordinary status List.mem_cons_self] at outcome
        cases outcome
    · rintro ⟨status', member, outcome⟩
      exact ⟨status', List.mem_append_left _ member, outcome⟩
  refine inv.consumer ?_ rfl rfl rfl rfl (by simp [State.active, running])
  constructor
  · intro y statuses' active status' member
    cases active
    exact ordinary status' (List.mem_cons_of_mem _ member)
  · intro y terminal active
    cases active
  · intro y done
    exact inv.reported y ((reported y).mp done)
  · intro c member
    rw [reported, ← inv.owner c member]
    apply or_congr Iff.rfl
    simp [running]

theorem settle (inv : Owned s) {terminal : Option Status} (running : s.running = some (x, .settling terminal)) :
    Owned { s with running := none, reports := s.reports ++ terminal.toList.map (x, ·) } := by
  have reported : ∀ y, Reported { s with
      running := none, reports := s.reports ++ terminal.toList.map (x, ·) } y ↔
      Reported s y ∨ ∃ status, s.running = some (y, .settling (some status)) ∧ status.isOutcome := by
    intro y
    simp only [Reported, List.mem_append, List.mem_map, Option.mem_toList, Prod.mk.injEq, or_and_right, exists_or,
      running, Option.some.injEq, Stage.settling.injEq]
    apply or_congr Iff.rfl
    constructor
    · rintro ⟨status, ⟨_, final, rfl, rfl⟩, outcome⟩
      exact ⟨_, ⟨rfl, final⟩, outcome⟩
    · rintro ⟨status, ⟨rfl, final⟩, outcome⟩
      exact ⟨status, ⟨status, final, rfl, rfl⟩, outcome⟩
  refine inv.consumer ?_ rfl rfl rfl rfl (by simp [State.active, running])
  constructor
  · intro y statuses active
    cases active
  · intro y terminal' active
    cases active
  · intro y done
    obtain before | ⟨status, active, -⟩ := (reported y).mp done
    · exact inv.reported y before
    · exact inv.settling y _ active
  · intro c member
    rw [reported, ← inv.owner c member]
    simp

theorem step (inv : Owned s) {action : Action} (unreused : Unreused s action)
    (stepped : SingleFlight.step settings s action = some t) : Owned t := by
  revert stepped
  fun_cases SingleFlight.step settings s action <;> intro stepped <;> cases stepped
  case case1 h request idle response =>
    exact inv.handler (by simp [idle]) (by simp [idle, Handler.Holds])
  case case3 h request response decided accepts =>
    by_cases held : s.inFlight request.service = some request.requestId
    · exact inv.retry decided held
    · exact inv.begin decided held (unreused request response decided accepts held)
  case case4 h request response decided refuses =>
    exact inv.handler (by simp [decided]) (by simp [decided, Handler.Holds])
  case case6 h request displaced response begun =>
    by_cases retried : displaced = some request.requestId
    · rw [if_pos retried]
      exact inv.handler (by simp [begun]) (by simp [begun, retried, Handler.Holds])
    · rw [if_neg retried]
      exact inv.queue begun retried
  case case8 x rest next idle => exact inv.dequeue idle next
  case case10 x status statuses running => exact inv.report running
  case case12 x running => exact inv.complete running
  case case14 x terminal running => exact inv.settle running

end Owned

/-! ## Draining the queue -/

def CanDrain (s : State) : Prop :=
  ∃ actions t, run (step settings) s actions = some t ∧ t.queue = [] ∧ t.running = none ∧
    t.handlers = s.handlers ∧ t.latest = s.latest ∧ (Owned s → Owned t)

variable {settings}

theorem CanDrain.of_step {s t : State} {action : Action} (stepped : step settings s action = some t)
    (unreused : Unreused s action) (handlers : t.handlers = s.handlers) (latest : t.latest = s.latest)
    (rest : CanDrain settings t) : CanDrain settings s := by
  obtain ⟨actions, u, ran, queue, running, handlers', latest', owned⟩ := rest
  refine ⟨action :: actions, u, ?_, queue, running, handlers'.trans handlers, latest'.trans latest, ?_⟩
  · rw [run_cons stepped, ran]
  · exact fun inv => owned (inv.step unreused stepped)

theorem canDrain_of_idle {queue : List Stream}
    (idle : ∀ s : State, s.queue = queue → s.running = none → CanDrain settings s) {s : State}
    (queued : s.queue = queue) : CanDrain settings s := by
  have settled : ∀ (s : State) x terminal, s.queue = queue → s.running = some (x, .settling terminal) →
      CanDrain settings s := by
    intro s x terminal queued running
    have stepped : step settings s .settle =
        some { s with running := none, reports := s.reports ++ terminal.toList.map (x, ·) } := by
      simp only [step, running]
    exact .of_step stepped trivial rfl rfl (idle _ queued rfl)
  have reported : ∀ (statuses : List Status) (s : State) x, s.queue = queue →
      s.running = some (x, .reporting statuses) → CanDrain settings s := by
    intro statuses
    induction statuses with
    | nil =>
        intro s x queued running
        have stepped : step settings s .complete = some (s.complete settings x) := by
          simp only [step, running]
        exact .of_step stepped trivial rfl rfl (settled (s.complete settings x) x _ queued rfl)
    | cons status statuses ih =>
        intro s x queued running
        have stepped : step settings s .report = some { s with
            running := some (x, .reporting statuses), reports := s.reports ++ [(x, status)] } := by
          simp only [step, running]
        exact .of_step stepped trivial rfl rfl (ih _ x queued rfl)
  cases running : s.running with
  | none => exact idle s queued running
  | some run =>
      obtain ⟨x, statuses | terminal⟩ := run
      · exact reported statuses s x queued running
      · exact settled s x terminal queued running

theorem canDrain (s : State) : CanDrain settings s := by
  suffices ∀ (queue : List Stream) (s : State), s.queue = queue → CanDrain settings s from this _ s rfl
  intro queue
  induction queue with
  | nil =>
      intro s queued
      exact canDrain_of_idle (fun s queued running => ⟨[], s, rfl, queued, running, rfl, rfl, id⟩) queued
  | cons x rest ih =>
      intro s queued
      refine canDrain_of_idle (fun s queued running => ?_) queued
      have stepped : step settings s .dequeue = some { s with
          queue := rest, running := some (x, .reporting (progress settings x.service)) } := by
        simp only [step, running, queued]
      exact .of_step stepped trivial rfl rfl (ih _ rfl)

/-! ## Whole runs -/

/-- In every run without a reused `requestId` the streams settle the right requests, and whenever no handler
is between taking a slot and queueing, the consumer gets to the outcome of the last accepted requests. -/
theorem streams_settle_right {actions : List Action} {s : State}
    (unreused : Along (step settings) Unreused .new actions)
    (ran : run (step settings) .new actions = some s) :
    SettlesRight s ∧ (Quiet s → ∃ later t, run (step settings) s later = some t ∧ Drained t ∧
      ∀ service r, s.latest service = some r → ∃ x, x.service = service ∧ x.request = r ∧ Reported t x) := by
  have inv : Owned s :=
    run_invariant (fun _ _ _ inv now stepped => Owned.step inv now stepped) owned_new unreused ran
  refine ⟨inv.settlesRight, fun quiet => ?_⟩
  obtain ⟨later, t, ran, queue, running, handlers, latest, owned⟩ :=
    (canDrain s : CanDrain settings s)
  have drained : Drained t := ⟨by rwa [Quiet, handlers], queue, running⟩
  refine ⟨later, t, ran, drained, ?_⟩
  rw [← latest]
  exact (owned inv).settlesRight.last drained

def reliable : Settings where
  logUploadShouldFail := false
  firmwareUpdateOutcome := .succeed

def supersededUpload : List Action :=
  [.decide 0 (.getLog .securityLog 1), .begin 0, .queue 0, .dequeue, .report,
    .decide 1 (.getLog .securityLog 2), .begin 1, .queue 1, .complete, .settle, .dequeue, .report, .complete,
    .settle]

theorem supersededUpload_settles :
    ∃ s, run (step reliable) .new supersededUpload = some s ∧
      s.reports.map (·.2) =
        [.log .uploading, .log .acceptedCanceled, .log .uploading, .log .uploaded] ∧
      SettlesRight s := by
  have unreused : Along (step reliable) Unreused .new supersededUpload := by
    refine .cons trivial rfl (.cons ?_ rfl ?_)
    · rintro _ _ ⟨⟩ - - x outstanding
      obtain ⟨request, holds, -⟩ | waiting := outstanding_iff.mp outstanding
      · match h : x.request with
        | 0 | h + 1 => exact (h ▸ holds).elim
      · cases waiting
    · refine .cons trivial rfl (.cons trivial rfl (.cons trivial rfl (.cons trivial rfl (.cons ?_ rfl ?_))))
      · rintro _ _ ⟨⟩ - - x outstanding
        obtain ⟨request, holds, -⟩ | waiting := outstanding_iff.mp outstanding
        · match h : x.request with
          | 0 | 1 | h + 2 => exact (h ▸ holds).elim
        · obtain rfl := List.mem_singleton.mp waiting
          exact fun _ => by decide
      · iterate 7 refine .cons trivial rfl ?_
        trivial
  exact ⟨_, rfl, rfl, (streams_settle_right unreused rfl).1⟩

/-- The id of the first upload comes again after the second one has taken its slot. -/
def reusedRequestId : List Action :=
  [.decide 0 (.getLog .securityLog 1), .begin 0, .queue 0, .decide 1 (.getLog .securityLog 2), .begin 1,
    .queue 1, .decide 2 (.getLog .securityLog 1), .begin 2, .queue 2, .dequeue, .report, .complete, .settle,
    .dequeue, .report, .complete, .settle, .dequeue, .report, .complete, .settle]

/-- The first stream settles as the owner, and the one of the last accepted request is canceled. -/
theorem reusedRequestId_settles_wrong :
    ∃ s, run (step reliable) .new reusedRequestId = some s ∧
      s.reports.map (·.2) = [.log .uploading, .log .uploaded, .log .uploading, .log .acceptedCanceled,
        .log .uploading, .log .acceptedCanceled] ∧ ¬ SettlesRight s := by
  refine ⟨_, rfl, rfl, fun right => ?_⟩
  have first := (right.owner ⟨⟨0, .logUpload, 1⟩, some 2⟩ (by decide) (by decide)).mp
    ⟨.log .uploaded, by decide, rfl⟩
  cases first

end Ocpp.ChargePoint.SingleFlight
