import Mathlib.Algebra.Ring.Nat
import Mathlib.Logic.Function.Basic
import Ocpp.ChargePoint.Commands
import Ocpp.Types.Certificate

/-!
# The pending certificate signing request

`v201_pending_csr.rs` with `request_sign_certificate` and the `CertificateSigned` handler of a 2.0.1
station. The receive loop delivers the ack of a request to its call, which later takes a sequence number
and then writes its marker into the slot; the same loop handles the `CertificateSigned` calls in between.
-/

namespace Ocpp.ChargePoint.Csr
open Library

inductive CertificateSigningUseEnumType
  | chargingStationCertificate
  | v2gCertificate
deriving DecidableEq

inductive GenericStatusEnumType
  | accepted
  | rejected
deriving DecidableEq

structure PendingCsr where
  certificateType : Option CertificateSigningUseEnumType
  seq : Nat
deriving DecidableEq

inductive CsrCorrelation
  | solicited (marker : PendingCsr)
  | unsolicited
deriving DecidableEq

/-- Where a `request_sign_certificate` is: its request is on the wire, its ack has been delivered, it has
taken its sequence number, it has returned. -/
inductive CallState
  | idle
  | sent (certificateType : Option CertificateSigningUseEnumType)
  | acked (certificateType : Option CertificateSigningUseEnumType) (status : GenericStatusEnumType)
  | numbered (marker : PendingCsr)
  | returned (result : Except OcppError GenericStatusEnumType)

/-- The ack was `Accepted` and the marker is not written yet. -/
def CallState.recording : CallState → Bool
  | .acked _ .accepted | .numbered _ => true
  | _ => false

def CallState.acknowledged : CallState → Bool
  | .acked _ .accepted | .numbered _ | .returned (.ok .accepted) => true
  | _ => false

structure State where
  pending : Option PendingCsr
  nextSeq : Nat
  calls : Nat → CallState
  /-- The call whose marker is in the slot. -/
  recordedBy : Option Nat
  /-- The calls whose `Accepted` ack came after the last accepted `CertificateSigned`. -/
  ackedSince : Nat → Bool
  /-- The calls whose chain has been accepted. -/
  answered : List Nat

def State.new : State where
  pending := none
  nextSeq := 0
  calls _ := .idle
  recordedBy := none
  ackedSince _ := false
  answered := []

def State.setCall (s : State) (c : Nat) (state : CallState) : State :=
  { s with calls := Function.update s.calls c state }

def correlateAccepted : Option PendingCsr → CsrCorrelation
  | some marker => .solicited marker
  | none => .unsolicited

inductive Action
  | send (c : Nat) (certificateType : Option CertificateSigningUseEnumType)
  | ack (c : Nat) (status : GenericStatusEnumType)
  | fail (c : Nat) (error : OcppError)
  | number (c : Nat)
  | write (c : Nat)
  /-- A `CertificateSigned`, for the request of a call or for none. -/
  | certificateSigned (csr : Option Nat) (certificateChain : String)

/-- `fetch_add` on an `AtomicU64` wraps around. -/
def fetchAdd (n : Nat) : Nat :=
  (n + 1) % 2 ^ 64

def step (s : State) : Action → Option State
  | .send c certificateType =>
      match s.calls c with
      | .idle => some (s.setCall c (.sent certificateType))
      | _ => none
  | .ack c status =>
      match s.calls c with
      | .sent certificateType =>
          some { s.setCall c (.acked certificateType status) with
            ackedSince := if status = .accepted then Function.update s.ackedSince c true else s.ackedSince }
      | _ => none
  | .fail c error =>
      match s.calls c with
      | .sent _ => some (s.setCall c (.returned (.error error)))
      | _ => none
  | .number c =>
      match s.calls c with
      | .acked certificateType .accepted =>
          some { s.setCall c (.numbered ⟨certificateType, s.nextSeq⟩) with nextSeq := fetchAdd s.nextSeq }
      | .acked _ .rejected => some (s.setCall c (.returned (.ok .rejected)))
      | _ => none
  | .write c =>
      match s.calls c with
      | .numbered marker =>
          some { s.setCall c (.returned (.ok .accepted)) with pending := some marker, recordedBy := some c }
      | _ => none
  -- the CSMS sends a chain for a request only after its `Accepted` ack
  | .certificateSigned csr certificateChain =>
      if csr.all fun c => (s.calls c).acknowledged then
        match v201CertificateSignedStatus certificateChain with
        | .accepted =>
            some { s with
              pending := none
              recordedBy := none
              ackedSince := fun _ => false
              answered := s.answered ++ csr.toList }
        | .rejected => some s
      else none

/-! ## Order of the wire -/

/-- An accepted `CertificateSigned` after an `Accepted` ack, with no other in between, is solicited. -/
def Solicits (s : State) : Action → Prop
  | .certificateSigned _ certificateChain => v201CertificateSignedStatus certificateChain = .accepted →
      (∃ c, s.ackedSince c) → ∃ marker, correlateAccepted s.pending = .solicited marker
  | _ => True

/-- The slot does not go from a marker to one with a smaller number. -/
def Rises (s : State) (action : Action) : Prop :=
  ∀ t marker marker', step s action = some t → s.pending = some marker → t.pending = some marker' →
    marker.seq ≤ marker'.seq

/-- Once every call has returned, the slot holds no marker of a request whose chain was accepted. -/
def Settled (s : State) : Prop :=
  (∀ c, s.calls c = .idle ∨ ∃ result, s.calls c = .returned result) →
    ∀ c marker, s.pending = some marker → s.recordedBy = some c → c ∉ s.answered

/-- A chain is accepted only while the call it is for has its marker written, and while the slot is empty
only if no call with an `Accepted` ack since the last accepted chain has its marker to write. A number is
taken only while no other call has a number and no marker, and before the counter wraps below the slot. -/
def Sequential (s : State) : Action → Prop
  | .certificateSigned csr certificateChain =>
      v201CertificateSignedStatus certificateChain = .accepted →
        (∀ c ∈ csr, (s.calls c).recording = false) ∧
          (s.pending = none → ∀ c, s.ackedSince c → (s.calls c).recording = false)
  | .number c => ∀ certificateType, s.calls c = .acked certificateType .accepted →
      (∀ c' marker, s.calls c' ≠ .numbered marker) ∧ ∀ marker ∈ s.pending, marker.seq ≤ s.nextSeq
  | _ => True

structure Ordered (s : State) : Prop where
  acked : ∀ c, s.ackedSince c → (s.calls c).recording ∨ s.pending ≠ none
  answered : ∀ c ∈ s.answered, ∃ result, s.calls c = .returned result
  unanswered : ∀ c, s.recordedBy = some c → c ∉ s.answered
  alone : ∀ c c' marker marker', s.calls c = .numbered marker → s.calls c' = .numbered marker' → c = c'
  rising : ∀ c marker marker', s.calls c = .numbered marker → s.pending = some marker' →
    marker'.seq ≤ marker.seq

theorem ordered_new : Ordered .new := by
  constructor <;> simp [State.new]

namespace Ordered

variable {s t : State}

theorem settled (inv : Ordered s) : Settled s :=
  fun _ c _ _ recorded => inv.unanswered c recorded

theorem solicits (inv : Ordered s) {action : Action} (sequential : Sequential s action) :
    Solicits s action := by
  cases action with
  | certificateSigned csr certificateChain =>
      intro usable acked
      obtain ⟨c, since⟩ := acked
      cases held : s.pending with
      | some marker => exact ⟨marker, rfl⟩
      | none =>
          obtain recording | some := inv.acked c since
          · rw [(sequential usable).2 held c since] at recording
            cases recording
          · exact absurd held some
  | _ => trivial

theorem rises (inv : Ordered s) (action : Action) : Rises s action := by
  intro t marker marker' stepped before after
  have kept : t.pending = s.pending → marker.seq ≤ marker'.seq := by
    intro same
    rw [same, before] at after
    cases after
    rfl
  revert stepped
  fun_cases step s action <;> intro stepped <;> cases stepped
  case case10 c written numbered =>
    cases after
    exact inv.rising c _ marker numbered before
  case case12 => cases after
  all_goals exact kept rfl

theorem setCall (inv : Ordered s) {c : Nat} {state : CallState}
    (running : ∀ result, s.calls c ≠ .returned result)
    (unnumbered : ∀ marker, state ≠ .numbered marker)
    (records : (s.calls c).recording → state.recording) : Ordered (s.setCall c state) := by
  have calls : ∀ c', (s.setCall c state).calls c' = if c' = c then state else s.calls c' :=
    Function.update_apply _ _ _
  constructor
  · intro c' since
    obtain recording | held := inv.acked c' since
    · left
      rw [calls]
      split_ifs with same
      · exact records (same ▸ recording)
      · exact recording
    · exact .inr held
  · intro c' member
    obtain ⟨result, returned⟩ := inv.answered c' member
    refine ⟨result, ?_⟩
    rw [calls, if_neg, returned]
    rintro rfl
    exact running result returned
  · exact inv.unanswered
  · intro c₁ c₂ marker₁ marker₂ first second
    rw [calls] at first second
    split_ifs at first second
    · exact absurd first (unnumbered marker₁)
    · exact absurd first (unnumbered marker₁)
    · exact absurd second (unnumbered marker₂)
    · exact inv.alone c₁ c₂ marker₁ marker₂ first second
  · intro c' marker marker' numbered held
    rw [calls] at numbered
    split_ifs at numbered
    · exact absurd numbered (unnumbered marker)
    · exact inv.rising c' marker marker' numbered held

theorem ack (inv : Ordered s) {c : Nat} {certificateType : Option CertificateSigningUseEnumType}
    (sent : s.calls c = .sent certificateType) (status : GenericStatusEnumType) :
    Ordered { s.setCall c (.acked certificateType status) with
      ackedSince := if status = .accepted then Function.update s.ackedSince c true else s.ackedSince } := by
  have acked : Ordered (s.setCall c (.acked certificateType status)) :=
    inv.setCall (by simp [sent]) (by simp) (by simp [sent, CallState.recording])
  refine { acked with acked := ?_ }
  intro c' since
  by_cases own : status = .accepted ∧ c' = c
  · left
    simp [State.setCall, own, CallState.recording]
  · have before : s.ackedSince c' := by
      by_cases accepted : status = .accepted
      · have other : c' ≠ c := fun same => own ⟨accepted, same⟩
        simpa [accepted, other] using since
      · simpa [accepted] using since
    exact acked.acked c' before

theorem number (inv : Ordered s) {c : Nat} {certificateType : Option CertificateSigningUseEnumType}
    (accepted : s.calls c = .acked certificateType .accepted) (sequential : Sequential s (.number c)) :
    Ordered { s.setCall c (.numbered ⟨certificateType, s.nextSeq⟩) with nextSeq := fetchAdd s.nextSeq } := by
  obtain ⟨none, unwrapped⟩ := sequential certificateType accepted
  have calls : ∀ c', (s.setCall c (.numbered ⟨certificateType, s.nextSeq⟩)).calls c' =
      if c' = c then .numbered ⟨certificateType, s.nextSeq⟩ else s.calls c' := Function.update_apply _ _ _
  constructor
  · intro c' since
    obtain recording | held := inv.acked c' since
    · left
      refine (congrArg CallState.recording (calls c')).trans ?_
      split_ifs
      · rfl
      · exact recording
    · exact .inr held
  · intro c' member
    obtain ⟨result, returned⟩ := inv.answered c' member
    refine ⟨result, (calls c').trans ?_⟩
    rw [if_neg, returned]
    rintro rfl
    rw [accepted] at returned
    cases returned
  · exact inv.unanswered
  · intro c₁ c₂ marker₁ marker₂ first second
    have first := (calls c₁).symm.trans first
    have second := (calls c₂).symm.trans second
    split_ifs at first second with here₁ here₂ here₂
    · exact here₁.trans here₂.symm
    · exact absurd second (none c₂ marker₂)
    · exact absurd first (none c₁ marker₁)
    · exact absurd first (none c₁ marker₁)
  · intro c' marker marker' numbered held
    have numbered := (calls c').symm.trans numbered
    split_ifs at numbered
    · cases numbered
      exact unwrapped marker' held
    · exact absurd numbered (none c' marker)

theorem write (inv : Ordered s) {c : Nat} {marker : PendingCsr} (numbered : s.calls c = .numbered marker) :
    Ordered { s.setCall c (.returned (.ok .accepted)) with pending := some marker, recordedBy := some c } := by
  have calls : ∀ c', (s.setCall c (.returned (.ok .accepted))).calls c' =
      if c' = c then .returned (.ok .accepted) else s.calls c' := Function.update_apply _ _ _
  -- no other call has a number
  have none : ∀ c' marker', (s.setCall c (.returned (.ok .accepted))).calls c' ≠ .numbered marker' := by
    intro c' marker' other
    rw [calls] at other
    split_ifs at other with same
    exact same (inv.alone c' c marker' marker other numbered)
  constructor
  · exact fun _ _ => .inr nofun
  · intro c' member
    obtain ⟨result, returned⟩ := inv.answered c' member
    refine ⟨result, (calls c').trans ?_⟩
    rw [if_neg, returned]
    rintro rfl
    rw [numbered] at returned
    cases returned
  · rintro _ ⟨⟩ member
    obtain ⟨result, returned⟩ := inv.answered c member
    rw [numbered] at returned
    cases returned
  · exact fun c₁ _ marker₁ _ first => absurd first (none c₁ marker₁)
  · exact fun c' marker' _ numbered' => absurd numbered' (none c' marker')

theorem certificateSigned (inv : Ordered s) {csr : Option Nat}
    (acknowledged : csr.all fun c => (s.calls c).acknowledged)
    (written : ∀ c ∈ csr, (s.calls c).recording = false) : Ordered { s with
      pending := none
      recordedBy := none
      ackedSince := fun _ => false
      answered := s.answered ++ csr.toList } := by
  constructor
  · intro c since
    cases since
  · intro c member
    obtain member | own := List.mem_append.mp member
    · exact inv.answered c member
    · rw [Option.mem_toList] at own
      have acknowledged := (Option.all_eq_true _ _).mp acknowledged c own
      have unrecorded := written c own
      cases state : s.calls c with
      | returned result => exact ⟨result, rfl⟩
      | acked certificateType status => cases status <;> simp_all [CallState.recording, CallState.acknowledged]
      | _ => simp_all [CallState.recording, CallState.acknowledged]
  · rintro c ⟨⟩
  · exact inv.alone
  · rintro c marker marker' - ⟨⟩

theorem step (inv : Ordered s) {action : Action} (sequential : Sequential s action)
    (stepped : Csr.step s action = some t) : Ordered t := by
  revert stepped
  fun_cases Csr.step s action <;> intro stepped <;> cases stepped
  case case1 c certificateType idle =>
    exact inv.setCall (by simp [idle]) (by simp) (by simp [idle, CallState.recording])
  case case3 c status certificateType sent => exact inv.ack sent status
  case case5 c error certificateType sent =>
    exact inv.setCall (by simp [sent]) (by simp) (by simp [sent, CallState.recording])
  case case7 c certificateType accepted => exact inv.number accepted sequential
  case case8 c certificateType rejected =>
    exact inv.setCall (by simp [rejected]) (by simp) (by simp [rejected, CallState.recording])
  case case10 c marker numbered => exact inv.write numbered
  case case12 csr certificateChain acknowledged usable =>
    exact inv.certificateSigned acknowledged (sequential usable).1
  case case13 => exact inv

end Ordered

/-! ## Whole runs -/

/-- In every sequential run the correlation follows the order of the wire. -/
theorem csr_correlation_follows_wire {actions : List Action} {s : State}
    (sequential : Along step Sequential .new actions) (ran : run step .new actions = some s) :
    Along step Solicits .new actions ∧ Along step Rises .new actions ∧ Settled s := by
  have kept : ∀ s a t, Ordered s → Sequential s a → step s a = some t → Ordered t :=
    fun _ _ _ inv now stepped => inv.step now stepped
  refine ⟨?_, ?_, ?_⟩
  · exact sequential.of_invariant kept (fun _ _ inv now => inv.solicits now) ordered_new
  · exact sequential.of_invariant kept (fun _ a inv _ => inv.rises a) ordered_new
  · exact (run_invariant kept ordered_new sequential ran).settled

def usableChain : String :=
  "-----BEGIN CERTIFICATE-----\nMIIB\n-----END CERTIFICATE-----"

def provisioning : List Action :=
  [.send 0 none, .ack 0 .accepted, .number 0, .write 0, .certificateSigned (some 0) usableChain,
    .send 1 none, .ack 1 .accepted, .number 1, .write 1]

theorem provisioning_follows_wire :
    ∃ s, run step .new provisioning = some s ∧ s.pending = some ⟨none, 1⟩ ∧
      Along step Solicits .new provisioning ∧ Along step Rises .new provisioning ∧ Settled s := by
  have sequential : Along step Sequential .new provisioning := by
    refine .cons trivial rfl (.cons trivial rfl (.cons ?_ rfl (.cons trivial rfl (.cons ?_ rfl ?_))))
    · refine fun _ _ => ⟨fun c marker => ?_, nofun⟩
      match c with
      | 0 => exact nofun
      | c + 1 => exact nofun
    · refine fun _ => ⟨?_, nofun⟩
      rintro c ⟨⟩
      rfl
    · refine .cons trivial rfl (.cons trivial rfl (.cons ?_ rfl (.cons trivial rfl trivial)))
      refine fun _ _ => ⟨fun c marker => ?_, nofun⟩
      match c with
      | 0 => exact nofun
      | 1 => exact nofun
      | c + 2 => exact nofun
  exact ⟨_, rfl, rfl, csr_correlation_follows_wire sequential rfl⟩

/-- The chain comes after the ack and before the call has recorded its marker. -/
def overtakenMarker : List Action :=
  [.send 0 none, .ack 0 .accepted]

/-- The call that took the smaller number writes last. -/
def crossedMarkers : List Action :=
  [.send 0 none, .ack 0 .accepted, .send 1 none, .ack 1 .accepted, .number 0, .number 1, .write 1]

theorem csr_correlation_overtaken :
    ¬ Along step Solicits .new (overtakenMarker ++ [.certificateSigned (some 0) usableChain]) ∧
      ¬ Along step Rises .new (crossedMarkers ++ [.write 0]) ∧
      ∃ s, run step .new (overtakenMarker ++
        [.certificateSigned (some 0) usableChain, .number 0, .write 0]) = some s ∧ ¬ Settled s := by
  refine ⟨fun solicits => ?_, fun rises => ?_, _, rfl, fun settled => ?_⟩
  · have ran : run step .new overtakenMarker = some _ := rfl
    obtain ⟨marker, solicited⟩ := solicits.after ran rfl ⟨0, rfl⟩
    cases solicited
  · have ran : run step .new crossedMarkers = some _ := rfl
    have smaller := rises.after ran _ ⟨none, 1⟩ ⟨none, 0⟩ rfl rfl rfl
    exact absurd smaller (by decide)
  · refine settled (fun c => ?_) 0 ⟨none, 0⟩ rfl rfl (by decide)
    match c with
    | 0 => exact .inr ⟨_, rfl⟩
    | c + 1 => exact .inl rfl

end Ocpp.ChargePoint.Csr
