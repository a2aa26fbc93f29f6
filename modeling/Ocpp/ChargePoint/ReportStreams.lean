import Mathlib.Algebra.Ring.Int.Defs
import Mathlib.Algebra.Ring.Nat
import Mathlib.Data.Finset.Basic
import Ocpp.ChargePoint.Commands
import Ocpp.Types.Certificate

/-!
# Report streams

`CustomerInformation` and `PublishFirmware` with `v201_customer_information.rs` and
`v201_publish_firmware.rs`: the set of each holds the ids whose stream is in flight, a request for an id of
the set is a retry that queues nothing, and the consumer takes an id out of the set after it has sent the
last message of its stream. The steps of the handlers and of the consumer come in any order.
-/

namespace Ocpp.ChargePoint.ReportStreams
open Library V201

inductive Service
  | customerInformation
  | publishFirmware
deriving DecidableEq

inductive HashAlgorithmEnumType
  | sha256
  | sha384
  | sha512
deriving DecidableEq

structure CertificateHashDataType where
  hashAlgorithm : HashAlgorithmEnumType
  issuerNameHash : String
  issuerKeyHash : String
  serialNumber : String
deriving DecidableEq

structure CustomerInformationRequest where
  requestId : Int
  report : Bool
  clear : Bool
  customerCertificate : Option CertificateHashDataType
  idToken : Option IdTokenType
  customerIdentifier : Option String
deriving DecidableEq

structure PublishFirmwareRequest where
  requestId : Int
  location : String
  checksum : String
deriving DecidableEq

inductive Request
  | customerInformation (request : CustomerInformationRequest)
  | publishFirmware (request : PublishFirmwareRequest)
deriving DecidableEq

abbrev Stream := Service × Int

def Request.stream : Request → Stream
  | .customerInformation request => (.customerInformation, request.requestId)
  | .publishFirmware request => (.publishFirmware, request.requestId)

/-! ## Decisions -/

inductive CustomerInformationStatusEnumType
  | accepted
  | rejected
  | invalid
deriving DecidableEq

inductive GenericStatusEnumType
  | accepted
  | rejected
deriving DecidableEq

def v201CustomerInformationDecision (request : CustomerInformationRequest) :
    CustomerInformationStatusEnumType :=
  let namesACustomer :=
    request.customerCertificate.isSome || request.idToken.isSome || request.customerIdentifier.isSome
  let requestsAnAction := request.report || request.clear
  if namesACustomer && requestsAnAction then .accepted else .invalid

def isAsciiHexdigit (c : Char) : Bool :=
  ('0' ≤ c && c ≤ '9') || ('a' ≤ c && c ≤ 'f') || ('A' ≤ c && c ≤ 'F')

def v201PublishFirmwareDecision (request : PublishFirmwareRequest) : GenericStatusEnumType :=
  let hasLocation := !(Text.trim request.location.toList).isEmpty
  let wellShapedChecksum :=
    request.checksum.utf8ByteSize = 32 && request.checksum.toList.all isAsciiHexdigit
  if hasLocation && wellShapedChecksum then .accepted else .rejected

inductive Response
  | customerInformation (status : CustomerInformationStatusEnumType) (statusInfo : Option StatusInfoType)
  | publishFirmware (status : GenericStatusEnumType) (statusInfo : Option StatusInfoType)
deriving DecidableEq

def invalidCustomerInformation : StatusInfoType :=
  ⟨"InvalidRequest",
    "CustomerInformation named no usable customer selector, or requested neither report nor clear"⟩

def invalidPublishFirmware : StatusInfoType :=
  ⟨"InvalidRequest", "PublishFirmware requires a non-empty location and a 32-char hex checksum"⟩

def decision : Request → Response
  | .customerInformation request =>
      let status := v201CustomerInformationDecision request
      .customerInformation status (if status = .invalid then some invalidCustomerInformation else none)
  | .publishFirmware request =>
      let status := v201PublishFirmwareDecision request
      .publishFirmware status (if status = .rejected then some invalidPublishFirmware else none)

/-- An accepted request that is owed a stream: `CustomerInformation` only if it asks for a report. -/
def owed : Request → Response → Bool
  | .customerInformation request, .customerInformation status _ => status = .accepted && request.report
  | .publishFirmware _, .publishFirmware status _ => status = .accepted
  | _, _ => false

/-! ## Messages -/

structure NotifyCustomerInformationRequest where
  data : String
  tbc : Option Bool
  seqNo : Int
  generatedAt : String
  requestId : Int
deriving DecidableEq

inductive PublishFirmwareStatusEnumType
  | idle
  | downloadScheduled
  | downloading
  | downloaded
  | published
  | downloadFailed
  | downloadPaused
  | invalidChecksum
  | checksumVerified
  | publishFailed
deriving DecidableEq

structure PublishFirmwareStatusNotificationRequest where
  status : PublishFirmwareStatusEnumType
  location : Option (List String)
  requestId : Option Int
deriving DecidableEq

inductive Message
  | customerInformation (page : NotifyCustomerInformationRequest)
  | publishFirmware (notification : PublishFirmwareStatusNotificationRequest)
deriving DecidableEq

/-- The final page, or the `Published` status, of the stream. -/
def Message.IsFinalOf : Message → Stream → Prop
  | .customerInformation page, x => page.tbc = none ∧ x = (.customerInformation, page.requestId)
  | .publishFirmware notification, x =>
      notification.status = .published ∧ ∃ id, notification.requestId = some id ∧ x = (.publishFirmware, id)

def v201SimulatedCustomerInformationPages : List String :=
  ["ocpp-rs charge point simulator: simulated CustomerInformation report. This " ++
      "station holds no real customer data store (no PII).",
    "customerData: <none on record>. Emitted deterministically to exercise the " ++
      "NotifyCustomerInformation report/clear flow."]

def v201NotifyCustomerInformationPages (requestId : Int) (generatedAt : String) (dataPages : List String) :
    List NotifyCustomerInformationRequest :=
  let last := dataPages.length - 1
  dataPages.zipIdx.map fun (data, i) =>
    { data
      tbc := if i < last then some true else none
      seqNo := if i < 2 ^ 31 then i else 2 ^ 31 - 1
      generatedAt
      requestId }

def v201SimulatedPublishFirmwareLocations : List String :=
  ["http://local-controller.lan/firmware/published.bin", "ftp://local-controller.lan/firmware/published.bin"]

def progression : List PublishFirmwareStatusEnumType :=
  [.idle, .downloadScheduled, .downloading, .downloaded, .published]

/-- What a stream sends, with the time at which it starts. -/
def messages (generatedAt : String) : Stream → List Message
  | (.customerInformation, requestId) =>
      (v201NotifyCustomerInformationPages requestId generatedAt v201SimulatedCustomerInformationPages).map
        .customerInformation
  | (.publishFirmware, requestId) =>
      progression.map fun status => .publishFirmware
        { status
          location := if status = .published then some v201SimulatedPublishFirmwareLocations else none
          requestId := some requestId }

/-- The last message of the list, if there is one, is the final one of the stream. -/
def EndsFinal (x : Stream) : List Message → Prop
  | [] => True
  | [message] => message.IsFinalOf x
  | _ :: rest => EndsFinal x rest

theorem messages_endFinal (generatedAt : String) (x : Stream) : EndsFinal x (messages generatedAt x) := by
  obtain ⟨service | service, requestId⟩ := x
  · exact ⟨rfl, rfl⟩
  · exact ⟨rfl, requestId, rfl, rfl⟩

theorem messages_ne_nil (generatedAt : String) (x : Stream) : messages generatedAt x ≠ [] := by
  obtain ⟨service | service, requestId⟩ := x <;> exact List.cons_ne_nil _ _

/-! ## Handlers and consumer -/

/-- A handler decides, puts its id into the set, and queues a stream if it was not there. -/
inductive Handler
  | idle
  | decided (request : Request) (response : Response)
  | begun (request : Request) (response : Response)
  | answered (response : Response)
deriving DecidableEq

/-- A request that was accepted and is owed a stream, with the number of messages sent before. -/
structure Acceptance where
  stream : Stream
  position : Nat
deriving DecidableEq

structure State where
  inFlight : Service → Finset Int
  handlers : Nat → Handler
  queue : List Stream
  running : Option (Stream × List Message)
  sent : List Message
  accepted : List Acceptance

def State.new : State where
  inFlight _ := ∅
  handlers _ := .idle
  queue := []
  running := none
  sent := []
  accepted := []

namespace State

variable (s : State)

def setHandler (h : Nat) (handler : Handler) : State :=
  { s with handlers := Function.update s.handlers h handler }

def accept (x : Stream) : State :=
  { s with accepted := s.accepted ++ [⟨x, s.sent.length⟩] }

def insert (x : Stream) : State :=
  { s with inFlight := Function.update s.inFlight x.1 (Insert.insert x.2 (s.inFlight x.1)) }

def remove (x : Stream) : State :=
  { s with inFlight := Function.update s.inFlight x.1 ((s.inFlight x.1).erase x.2) }

theorem mem_insert {x y : Stream} :
    y.2 ∈ (s.insert x).inFlight y.1 ↔ y = x ∨ y.2 ∈ s.inFlight y.1 := by
  by_cases service : y.1 = x.1
  · simp [insert, service, Prod.ext_iff]
  · simp [insert, service, Prod.ext_iff]

theorem mem_remove {x y : Stream} :
    y.2 ∈ (s.remove x).inFlight y.1 ↔ y ≠ x ∧ y.2 ∈ s.inFlight y.1 := by
  by_cases service : y.1 = x.1
  · simp [remove, service, Prod.ext_iff]
  · simp [remove, service, Prod.ext_iff]

end State

inductive Action
  | decide (h : Nat) (request : Request)
  | begin (h : Nat)
  | queue (h : Nat)
  | dequeue (generatedAt : String)
  | send
  | complete

/-- A handler is done with its `begin` if that found the id in the set. -/
def step (s : State) : Action → Option State
  | .decide h request =>
      match s.handlers h with
      | .idle => some (s.setHandler h (.decided request (decision request)))
      | _ => none
  | .begin h =>
      match s.handlers h with
      | .decided request response =>
          if owed request response then
            if request.stream.2 ∈ s.inFlight request.stream.1 then
              some (s.setHandler h (.answered response) |>.accept request.stream)
            else some (s.setHandler h (.begun request response) |>.insert request.stream)
          else some (s.setHandler h (.answered response))
      | _ => none
  | .queue h =>
      match s.handlers h with
      | .begun request response =>
          some { s.setHandler h (.answered response) |>.accept request.stream with
            queue := s.queue ++ [request.stream] }
      | _ => none
  | .dequeue generatedAt =>
      match s.running, s.queue with
      | none, x :: rest => some { s with queue := rest, running := some (x, messages generatedAt x) }
      | _, _ => none
  | .send =>
      match s.running with
      | some (x, message :: rest) => some { s with running := some (x, rest), sent := s.sent ++ [message] }
      | _ => none
  | .complete =>
      match s.running with
      | some (x, []) => some { s.remove x with running := none }
      | _ => none

/-! ## What the sets and the queue hold -/

/-- The streams that are queued or run and not completed. -/
def State.waiting (s : State) : List Stream :=
  s.running.toList.map (·.1) ++ s.queue

/-- The handler has put the id into the set and has not queued the stream yet. -/
def Holds (s : State) (h : Nat) (x : Stream) : Prop :=
  ∃ request response, s.handlers h = .begun request response ∧ request.stream = x

def Quiet (s : State) : Prop :=
  ∀ h request response, s.handlers h ≠ .begun request response

structure Drained (s : State) : Prop where
  quiet : Quiet s
  queue : s.queue = []
  running : s.running = none

/-- The final message of the stream was sent after the request was accepted. -/
def Answered (s : State) (a : Acceptance) : Prop :=
  ∃ message ∈ s.sent.drop a.position, message.IsFinalOf a.stream

/-- Between the steps of the handlers the sets hold the ids of the waiting streams, each of them once, and
every accepted request is answered when the queue has drained. -/
structure AllServed (s : State) : Prop where
  exact : Quiet s → ∀ service id, id ∈ s.inFlight service ↔ (service, id) ∈ s.waiting
  once : Quiet s → s.waiting.Nodup
  answered : Drained s → ∀ a ∈ s.accepted, Answered s a

/-- No request puts its id into the set while a stream with that id has sent its last message and is not
completed. -/
def Punctual (s : State) : Action → Prop
  | .begin h => ∀ request response, s.handlers h = .decided request response → owed request response →
      s.running ≠ some (request.stream, [])
  | _ => True

structure Tracked (s : State) : Prop where
  exact : ∀ x : Stream, x.2 ∈ s.inFlight x.1 ↔ x ∈ s.waiting ∨ ∃ h, Holds s h x
  once : s.waiting.Nodup
  unheld : ∀ h x, Holds s h x → x ∉ s.waiting
  single : ∀ h h' x, Holds s h x → Holds s h' x → h = h'
  ends : ∀ x rest, s.running = some (x, rest) → EndsFinal x rest
  positions : ∀ a ∈ s.accepted, a.position ≤ s.sent.length
  served : ∀ a ∈ s.accepted, Answered s a ∨ (∃ h, Holds s h a.stream) ∨ a.stream ∈ s.queue ∨
    ∃ message rest, s.running = some (a.stream, message :: rest)

theorem tracked_new : Tracked .new := by
  constructor <;> simp [State.new, State.waiting, Holds]

theorem Quiet.not_holds {s : State} (quiet : Quiet s) (h : Nat) (x : Stream) : ¬ Holds s h x := by
  rintro ⟨request, response, begun, -⟩
  exact quiet h request response begun

theorem holds_setHandler {s : State} {h : Nat} {handler : Handler} {h' : Nat} {x : Stream} :
    Holds (s.setHandler h handler) h' x ↔
      if h' = h then ∃ request response, handler = .begun request response ∧ request.stream = x
      else Holds s h' x := by
  simp only [Holds, State.setHandler, Function.update_apply]
  split_ifs <;> rfl

namespace Tracked

variable {s t : State}

theorem allServed (inv : Tracked s) : AllServed s := by
  constructor
  · intro quiet service id
    refine (inv.exact (service, id)).trans (or_iff_left ?_)
    rintro ⟨h, holds⟩
    exact quiet.not_holds h _ holds
  · exact fun _ => inv.once
  · intro drained a member
    obtain answered | ⟨h, holds⟩ | queued | ⟨message, rest, running⟩ := inv.served a member
    · exact answered
    · exact absurd holds (drained.quiet.not_holds h _)
    · simp [drained.queue] at queued
    · simp [drained.running] at running

theorem setHandler (inv : Tracked s) {h : Nat} {handler : Handler} (before : ∀ x, ¬ Holds s h x)
    (after : ∀ request response, handler ≠ .begun request response) : Tracked (s.setHandler h handler) := by
  have holds : ∀ h' x, Holds (s.setHandler h handler) h' x ↔ Holds s h' x := by
    intro h' x
    rw [holds_setHandler]
    split_ifs with same
    · subst same
      constructor
      · rintro ⟨request, response, begun, -⟩
        exact absurd begun (after request response)
      · exact fun holds => absurd holds (before x)
    · rfl
  constructor
  · simp only [holds]
    exact inv.exact
  · exact inv.once
  · simp only [holds]
    exact inv.unheld
  · simp only [holds]
    exact inv.single
  · exact inv.ends
  · exact inv.positions
  · simp only [holds]
    exact inv.served

theorem accept (inv : Tracked s) {x : Stream} (pending : (∃ h, Holds s h x) ∨ x ∈ s.queue ∨
    ∃ message rest, s.running = some (x, message :: rest)) : Tracked (s.accept x) := by
  refine { inv with positions := ?_, served := ?_ }
  · intro a member
    obtain member | new := List.mem_append.mp member
    · exact inv.positions a member
    · rw [List.mem_singleton.mp new]
      rfl
  · intro a member
    obtain member | new := List.mem_append.mp member
    · exact inv.served a member
    · rw [List.mem_singleton.mp new]
      exact .inr pending

theorem insert (inv : Tracked s) {h : Nat} {request : Request} {response : Response}
    (before : ∀ x, ¬ Holds s h x) (new : request.stream.2 ∉ s.inFlight request.stream.1) :
    Tracked (s.setHandler h (.begun request response) |>.insert request.stream) := by
  have absent : request.stream ∉ s.waiting ∧ ∀ h', ¬ Holds s h' request.stream := by
    rw [inv.exact, not_or, not_exists] at new
    exact new
  have holds : ∀ h' x, Holds (s.setHandler h (.begun request response) |>.insert request.stream) h' x ↔
      Holds s h' x ∨ h' = h ∧ x = request.stream := by
    intro h' x
    refine holds_setHandler.trans ?_
    split_ifs with same
    · subst same
      simp [before, eq_comm]
    · simp [same]
  constructor
  · intro x
    refine (State.mem_insert _).trans ?_
    simp only [holds]
    change x = request.stream ∨ x.2 ∈ s.inFlight x.1 ↔ x ∈ s.waiting ∨ _
    rw [inv.exact, exists_or, or_left_comm]
    simp [or_comm]
  · exact inv.once
  · intro h' x held
    obtain held | ⟨-, rfl⟩ := (holds h' x).mp held
    · exact inv.unheld h' x held
    · exact absent.1
  · intro h₁ h₂ x first second
    obtain before₁ | ⟨here₁, own⟩ := (holds h₁ x).mp first
    · obtain before₂ | ⟨-, own⟩ := (holds h₂ x).mp second
      · exact inv.single h₁ h₂ x before₁ before₂
      · exact absurd (own ▸ before₁) (absent.2 h₁)
    · obtain before₂ | ⟨here₂, -⟩ := (holds h₂ x).mp second
      · exact absurd (own ▸ before₂) (absent.2 h₂)
      · exact here₁.trans here₂.symm
  · exact inv.ends
  · exact inv.positions
  · intro a member
    obtain answered | ⟨h', held⟩ | rest := inv.served a member
    · exact .inl answered
    · exact .inr (.inl ⟨h', (holds h' _).mpr (.inl held)⟩)
    · exact .inr (.inr rest)

theorem queue (inv : Tracked s) {h : Nat} {request : Request} {response : Response}
    (begun : s.handlers h = .begun request response) :
    Tracked { s.setHandler h (.answered response) |>.accept request.stream with
      queue := s.queue ++ [request.stream] } := by
  have own : Holds s h request.stream := ⟨request, response, begun, rfl⟩
  have held : ∀ x, Holds s h x → x = request.stream := by
    rintro x ⟨request', response', begun', rfl⟩
    rw [begun] at begun'
    cases begun'
    rfl
  have holds : ∀ h' x, Holds { s.setHandler h (.answered response) |>.accept request.stream with
      queue := s.queue ++ [request.stream] } h' x ↔ Holds s h' x ∧ h' ≠ h := by
    intro h' x
    refine holds_setHandler.trans ?_
    split_ifs with same
    · simp [same]
    · simp [same]
  have waiting : State.waiting { s.setHandler h (.answered response) |>.accept request.stream with
      queue := s.queue ++ [request.stream] } = s.waiting ++ [request.stream] := by
    simp [State.waiting, State.accept, State.setHandler]
  constructor
  · intro x
    rw [waiting, List.mem_append, List.mem_singleton]
    simp only [holds]
    refine (inv.exact x).trans ?_
    constructor
    · rintro (member | ⟨h', before⟩)
      · exact .inl (.inl member)
      · by_cases same : h' = h
        · exact .inl (.inr (held x (same ▸ before)))
        · exact .inr ⟨h', before, same⟩
    · rintro ((member | rfl) | ⟨h', before, -⟩)
      · exact .inl member
      · exact .inr ⟨h, own⟩
      · exact .inr ⟨h', before⟩
  · rw [waiting, List.nodup_append]
    refine ⟨inv.once, List.nodup_singleton _, ?_⟩
    rintro x member _ new rfl
    rw [List.mem_singleton.mp new] at member
    exact inv.unheld h _ own member
  · intro h' x after
    obtain ⟨before, other⟩ := (holds h' x).mp after
    rw [waiting, List.mem_append, List.mem_singleton, not_or]
    refine ⟨inv.unheld h' x before, ?_⟩
    rintro rfl
    exact other (inv.single h' h _ before own)
  · intro h₁ h₂ x first second
    exact inv.single h₁ h₂ x ((holds h₁ x).mp first).1 ((holds h₂ x).mp second).1
  · exact inv.ends
  · intro a member
    obtain member | new := List.mem_append.mp member
    · exact inv.positions a member
    · rw [List.mem_singleton.mp new]
      exact le_rfl
  · intro a member
    obtain member | new := List.mem_append.mp member
    · obtain answered | ⟨h', before⟩ | queued | running := inv.served a member
      · exact .inl answered
      · by_cases same : h' = h
        · rw [held a.stream (same ▸ before)]
          exact .inr (.inr (.inl (List.mem_append_right _ (List.mem_singleton.mpr rfl))))
        · exact .inr (.inl ⟨h', (holds h' _).mpr ⟨before, same⟩⟩)
      · exact .inr (.inr (.inl (List.mem_append_left _ queued)))
      · exact .inr (.inr (.inr running))
    · rw [List.mem_singleton.mp new]
      exact .inr (.inr (.inl (List.mem_append_right _ (List.mem_singleton.mpr rfl))))

theorem consumer (inv : Tracked s) (slots : t.inFlight = s.inFlight) (handlers : t.handlers = s.handlers)
    (waiting : t.waiting = s.waiting) (ends : ∀ x rest, t.running = some (x, rest) → EndsFinal x rest)
    (positions : ∀ a ∈ t.accepted, a.position ≤ t.sent.length)
    (served : ∀ a ∈ t.accepted, Answered t a ∨ (∃ h, Holds t h a.stream) ∨ a.stream ∈ t.queue ∨
      ∃ message rest, t.running = some (a.stream, message :: rest)) : Tracked t where
  exact := by
    simp only [slots, Holds, handlers, waiting]
    exact inv.exact
  once := waiting ▸ inv.once
  unheld := by
    simp only [Holds, handlers, waiting]
    exact inv.unheld
  single := by
    simp only [Holds, handlers]
    exact inv.single
  ends := ends
  positions := positions
  served := served

theorem dequeue (inv : Tracked s) {x : Stream} {rest : List Stream} (generatedAt : String)
    (idle : s.running = none) (next : s.queue = x :: rest) :
    Tracked { s with queue := rest, running := some (x, messages generatedAt x) } := by
  refine inv.consumer rfl rfl (by simp [State.waiting, idle, next]) ?_ ?_ ?_
  · rintro y _ ⟨⟩
    exact messages_endFinal generatedAt x
  · exact inv.positions
  · intro a member
    obtain answered | held | queued | ⟨message, rest', running⟩ := inv.served a member
    · exact .inl answered
    · exact .inr (.inl held)
    · rw [next] at queued
      obtain same | queued := List.mem_cons.mp queued
      · obtain ⟨message, later, sends⟩ := List.exists_cons_of_ne_nil (messages_ne_nil generatedAt x)
        exact .inr (.inr (.inr ⟨message, later, by rw [same, sends]⟩))
      · exact .inr (.inr (.inl queued))
    · rw [idle] at running
      cases running

theorem answered_sent {s : State} {a : Acceptance} (answered : Answered s a) (message : Message) :
    ∃ m ∈ (s.sent ++ [message]).drop a.position, m.IsFinalOf a.stream := by
  obtain ⟨m, member, final⟩ := answered
  refine ⟨m, ?_, final⟩
  rw [List.drop_append]
  exact List.mem_append_left _ member

theorem send (inv : Tracked s) {x : Stream} {message : Message} {rest : List Message}
    (running : s.running = some (x, message :: rest)) :
    Tracked { s with running := some (x, rest), sent := s.sent ++ [message] } := by
  have ending := inv.ends x _ running
  refine inv.consumer rfl rfl (by simp [State.waiting, running]) ?_ ?_ ?_
  · rintro y _ ⟨⟩
    cases rest with
    | nil => trivial
    | cons next later => exact ending
  · intro a member
    exact (inv.positions a member).trans (by simp)
  · intro a member
    obtain answered | held | queued | ⟨message', rest', active⟩ := inv.served a member
    · exact .inl (answered_sent answered message)
    · exact .inr (.inl held)
    · exact .inr (.inr (.inl queued))
    · rw [running] at active
      cases active
      cases rest with
      | nil =>
          -- the last message of the stream goes out after the acceptance
          left
          refine ⟨message, ?_, ending⟩
          rw [List.drop_append_of_le_length (inv.positions a member)]
          exact List.mem_append_right _ (List.mem_singleton.mpr rfl)
      | cons next later => exact .inr (.inr (.inr ⟨next, later, rfl⟩))

theorem complete (inv : Tracked s) {x : Stream} (running : s.running = some (x, [])) :
    Tracked { s.remove x with running := none } := by
  have waiting : s.waiting = x :: s.queue := by simp [State.waiting, running]
  have once := inv.once
  rw [waiting, List.nodup_cons] at once
  have unheld : ∀ h, ¬ Holds s h x := by
    intro h held
    apply inv.unheld h x held
    rw [waiting]
    exact List.mem_cons_self
  constructor
  · intro y
    refine (s.mem_remove).trans ?_
    change y ≠ x ∧ y.2 ∈ s.inFlight y.1 ↔ y ∈ s.queue ∨ ∃ h, Holds s h y
    rw [inv.exact, waiting, List.mem_cons]
    by_cases same : y = x
    · subst same
      simp [once.1, unheld]
    · simp [same]
  · exact once.2
  · intro h y held queued
    apply inv.unheld h y held
    rw [waiting]
    exact List.mem_cons_of_mem _ queued
  · exact inv.single
  · rintro y _ ⟨⟩
  · exact inv.positions
  · intro a member
    obtain answered | held | queued | ⟨message, rest, active⟩ := inv.served a member
    · exact .inl answered
    · exact .inr (.inl held)
    · exact .inr (.inr (.inl queued))
    · rw [running] at active
      cases active

theorem pending (inv : Tracked s) {x : Stream} (member : x.2 ∈ s.inFlight x.1)
    (unsent : s.running ≠ some (x, [])) : (∃ h, Holds s h x) ∨ x ∈ s.queue ∨
      ∃ message rest, s.running = some (x, message :: rest) := by
  obtain waiting | held := (inv.exact x).mp member
  · obtain running | queued := List.mem_append.mp waiting
    · obtain ⟨⟨y, messages⟩, active, rfl⟩ := List.mem_map.mp running
      rw [Option.mem_toList] at active
      cases messages with
      | nil => exact absurd active unsent
      | cons message rest => exact .inr (.inr ⟨message, rest, active⟩)
    · exact .inr (.inl queued)
  · exact .inl held

theorem step (inv : Tracked s) {action : Action} (punctual : Punctual s action)
    (stepped : ReportStreams.step s action = some t) : Tracked t := by
  have unheld : ∀ {h} {handler : Handler}, s.handlers h = handler →
      (∀ request response, handler ≠ .begun request response) → ∀ x, ¬ Holds s h x := by
    rintro h _ rfl other x ⟨request, response, begun, -⟩
    exact other request response begun
  revert stepped
  fun_cases ReportStreams.step s action <;> intro stepped <;> cases stepped
  case case1 h request idle => exact inv.setHandler (unheld idle (by simp)) (by simp)
  case case3 h request response decided asks member =>
    have answered : Tracked (s.setHandler h (.answered response)) :=
      inv.setHandler (unheld decided (by simp)) (by simp)
    exact answered.accept (answered.pending member (punctual request response decided asks))
  case case4 h request response decided asks new => exact inv.insert (unheld decided (by simp)) new
  case case5 h request response decided refused => exact inv.setHandler (unheld decided (by simp)) (by simp)
  case case7 h request response begun => exact inv.queue begun
  case case9 generatedAt x rest idle next => exact inv.dequeue generatedAt next idle
  case case11 x message rest running => exact inv.send running
  case case13 x running => exact inv.complete running

end Tracked

/-! ## Whole runs -/

/-- In every run in which no request comes between the last message of a stream and its completion, the
sets are exact and every accepted request is answered. -/
theorem report_requests_served {actions : List Action} {s : State}
    (punctual : Along step Punctual .new actions) (ran : run step .new actions = some s) : AllServed s := by
  have inv : Tracked s :=
    run_invariant (fun _ _ _ inv now stepped => Tracked.step inv now stepped) tracked_new punctual ran
  exact inv.allServed

def customerReport (requestId : Int) : Request :=
  .customerInformation
    { requestId, report := true, clear := false, customerCertificate := none, idToken := none,
      customerIdentifier := some "C1" }

def retriedReport : List Action :=
  [.decide 0 (customerReport 5), .begin 0, .queue 0, .dequeue "now", .send, .decide 1 (customerReport 5),
    .begin 1, .send, .complete]

theorem retriedReport_served :
    ∃ s, run step .new retriedReport = some s ∧ s.accepted.length = 2 ∧ AllServed s := by
  have punctual : Along step Punctual .new retriedReport := by
    refine .cons trivial rfl (.cons ?_ rfl (.cons trivial rfl (.cons trivial rfl (.cons trivial rfl ?_))))
    · rintro _ _ - - ⟨⟩
    · refine .cons trivial rfl (.cons ?_ rfl (.cons trivial rfl (.cons trivial rfl trivial)))
      intro request response _ _ running
      have unsent : some 1 = some 0 := congrArg (·.map (·.2.length)) running
      cases unsent
  exact ⟨_, rfl, rfl, report_requests_served punctual rfl⟩

/-- The retry comes after the final page and before the completion. -/
def lateRetry : List Action :=
  [.decide 0 (customerReport 5), .begin 0, .queue 0, .dequeue "now", .send, .send,
    .decide 1 (customerReport 5), .begin 1, .complete]

theorem lateRetry_unserved :
    ∃ s, run step .new lateRetry = some s ∧ s.accepted.length = 2 ∧ ¬ AllServed s := by
  refine ⟨_, rfl, rfl, fun served => ?_⟩
  have answered := served.answered ⟨?_, rfl, rfl⟩ ⟨(.customerInformation, 5), 2⟩ (by decide)
  · obtain ⟨message, member, -⟩ := answered
    cases member
  · intro h request response begun
    cases h with
    | zero => cases begun
    | succ h =>
        cases h with
        | zero => cases begun
        | succ h => cases begun

end Ocpp.ChargePoint.ReportStreams
