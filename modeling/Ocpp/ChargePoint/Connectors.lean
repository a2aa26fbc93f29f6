import Ocpp.ChargePoint.Reservations

/-!
# Connectors with a live transaction

`connector.rs` and the calls of the host that go to a connector directly. Which connector has a transaction
is known to the station only: `current_transaction` of a connector is set by its own `start_transaction`,
which the station never calls. Calls run one after the other, each to its end.
-/

namespace Ocpp.ChargePoint
open Library Library.Program V16j V201

inductive ConnectorPhysicalState
  | unplugged
  | plugged
  | pluggedAndLocked
  deriving DecidableEq, Repr

/-- What a connector keeps besides its status and its reservation; a transaction is given by its id. -/
structure Connector where
  physicalState : ConnectorPhysicalState
  errorCode : ChargePointErrorCode
  errorInfo : Option String
  currentTransaction : Option String
  deriving DecidableEq, Repr

def Connector.new : Connector :=
  ⟨.unplugged, .noError, none, none⟩

structure Connectors where
  station : Station
  connectors : Nat → Connector

namespace Connectors

def new : Connectors where
  station := .new
  connectors _ := .new

variable (s : Connectors)

def setConnector (connectorId : Nat) (connector : Connector) : Connectors :=
  { s with connectors := Function.update s.connectors connectorId connector }

def setStatus (connectorId : Nat) (status : ChargePointStatus) : Connectors :=
  { s with station := s.station.setStatus connectorId status }

def plugIn (connectorId : Nat) : Connectors :=
  let plugged := s.setConnector connectorId { s.connectors connectorId with physicalState := .plugged }
  match s.station.status connectorId with
  | .available | .reserved => plugged.setStatus connectorId .preparing
  | _ => plugged

def plugOut (connectorId : Nat) : Connectors :=
  let connector := { s.connectors connectorId with physicalState := .unplugged }
  match s.station.status connectorId with
  | .preparing => (s.setConnector connectorId connector).setStatus connectorId .available
  | .finishing | .charging | .suspendedEV | .suspendedEVSE =>
      (s.setConnector connectorId { connector with currentTransaction := none }).setStatus connectorId .available
  | .available | .reserved | .unavailable | .faulted => s.setConnector connectorId connector

def setFault (connectorId : Nat) (errorCode : ChargePointErrorCode) (info : Option String) : Connectors :=
  let connector := { s.connectors connectorId with errorCode, errorInfo := info }
  if errorCode ≠ .noError then
    (s.setConnector connectorId { connector with currentTransaction := none }).setStatus connectorId .faulted
  else s.setConnector connectorId connector

def clearFault (connectorId : Nat) : Connectors :=
  let connector := { s.connectors connectorId with errorCode := .noError, errorInfo := none }
  (s.setConnector connectorId connector).setStatus connectorId
    (match connector.physicalState with
    | .unplugged => .available
    | .plugged | .pluggedAndLocked => .preparing)

def setAvailability (connectorId : Nat) (available : Bool) : Connectors :=
  s.setStatus connectorId (if available then .available else .unavailable)

inductive Action
  | call (completion : Completion)
  | plugIn (connectorId : Nat)
  | plugOut (connectorId : Nat)
  | setFault (connectorId : Nat) (errorCode : ChargePointErrorCode) (info : Option String)
  | clearFault (connectorId : Nat)
  | setAvailability (connectorId : Nat) (available : Bool)

variable (config : Config) (rfc : Rfc3339)

/-- A call of the host does nothing to a connector the station does not have. -/
def onConnector (connectorId : Nat) (changed : Connectors) : Connectors :=
  if connectorId ∈ config.connectors then changed else s

def step : Action → Option Connectors
  | .call completion =>
      match completion.call with
      | .startTransaction .. | .stopTransaction .. | .v16jReserveNow .. | .v201ReserveNow ..
      | .cancelReservation _ | .expire .. => (s.station.complete config rfc completion).map fun station => { s with station }
      | _ => none
  | .plugIn connectorId => some (s.onConnector config connectorId (s.plugIn connectorId))
  | .plugOut connectorId => some (s.onConnector config connectorId (s.plugOut connectorId))
  | .setFault connectorId errorCode info =>
      some (s.onConnector config connectorId (s.setFault connectorId errorCode info))
  | .clearFault connectorId => some (s.onConnector config connectorId (s.clearFault connectorId))
  | .setAvailability connectorId available =>
      some (s.onConnector config connectorId (s.setAvailability connectorId available))

/-! ## Advertised as free -/

end Connectors

def Station.Live (s : Station) (connectorId : Nat) : Prop :=
  ∃ transactionId, s.activeTransactions.lookup transactionId = some connectorId

/-- However the program ends, it does not answer so. -/
def Refuses {α : Type} (p : Async α) (s : Station) (accepted : α → Prop) : Prop :=
  ∀ choices value t, p.eval exec choices s = some (.ok value, t) → ¬accepted value

variable (config : Config) (rfc : Rfc3339)

structure Occupied (s : Station) (connectorId : Nat) : Prop where
  notAvailable : s.status connectorId ≠ .available
  notReserved : s.status connectorId ≠ .reserved
  remoteStart : ∀ target idTag, Option.getD target 1 = connectorId →
    Refuses (remoteStartTransaction config target idTag) s (· = .accepted)
  requestStart : ∀ req : RequestStartTransactionRequest, connectorOf (req.evseId.getD 1) = some connectorId →
    Refuses (requestStartTransaction config req) s (·.1 = .accepted)
  v16jReserve : ∀ now (req : ReserveNowRequest), connectorOf req.connectorId = some connectorId →
    Refuses (v16jReserveNow config now req) s (· = .accepted)
  v201Reserve : ∀ now (req : V201ReserveNowRequest), req.evseId.bind connectorOf = some connectorId →
    Refuses (v201ReserveNow config rfc now req) s (·.1 = .accepted)

/-- Every connector of the station with a live transaction is occupied. -/
def NeverFree (s : Station) : Prop :=
  ∀ connectorId ∈ config.connectors, s.Live connectorId → Occupied config rfc s connectorId

theorem refuses_of_wp {α : Type} {p : Async α} {s : Station} {accepted : α → Prop}
    (holds : p.wp exec (fun outcome _ => ∀ value, outcome = .ok value → ¬accepted value) s) :
    Refuses p s accepted :=
  fun _ value _ ran => post_of_eval holds ran value rfl

theorem reservationRefusal_ne (status : ChargePointStatus) : reservationRefusal status ≠ .accepted := by
  cases status <;> simp [reservationRefusal]

section Refusals

variable {s : Station} {connectorId : Nat}

theorem remoteStart_refuses (busy : startable (s.status connectorId) = false) (target : Option Nat)
    (idTag : String) (same : target.getD 1 = connectorId) :
    Refuses (remoteStartTransaction config target idTag) s (· = .accepted) := by
  apply refuses_of_wp
  unfold remoteStartTransaction
  dsimp only
  rw [same]
  split_ifs
  · simp
  · refine wp_act (fun _ => rfl) ?_
    rw [busy]
    simp

theorem requestStart_refuses (busy : startable (s.status connectorId) = false)
    (req : RequestStartTransactionRequest) (named : connectorOf (req.evseId.getD 1) = some connectorId) :
    Refuses (requestStartTransaction config req) s (·.1 = .accepted) := by
  apply refuses_of_wp
  unfold requestStartTransaction
  split_ifs
  · simp
  rw [named]
  split
  · simp
  case h_2 target found =>
    obtain ⟨same, -⟩ := Option.mem_filter_iff.mp found
    cases same
    refine wp_act (fun _ => rfl) ?_
    rw [busy]
    simp

theorem v16jReserve_refuses (taken : s.status connectorId ≠ .available) (now : DateTime)
    (req : ReserveNowRequest) (named : connectorOf req.connectorId = some connectorId) :
    Refuses (v16jReserveNow config now req) s (· = .accepted) := by
  apply refuses_of_wp
  unfold v16jReserveNow
  split_ifs
  · simp
  rw [named]
  split
  · simp
  case h_2 target found =>
    obtain ⟨same, -⟩ := Option.mem_filter_iff.mp found
    cases same
    refine wp_act (fun _ => rfl) ?_
    rw [if_pos taken]
    simp [reservationRefusal_ne]

theorem v201Reserve_refuses (taken : s.status connectorId ≠ .available) (now : DateTime)
    (req : V201ReserveNowRequest) (named : req.evseId.bind connectorOf = some connectorId) :
    Refuses (v201ReserveNow config rfc now req) s (·.1 = .accepted) := by
  apply refuses_of_wp
  unfold v201ReserveNow
  dsimp only
  rw [named]
  split
  · split_ifs
    · simp
    · split <;> simp
  case h_2 target found =>
    obtain ⟨same, -⟩ := Option.mem_filter_iff.mp found
    cases same
    refine wp_act (fun _ => rfl) ?_
    split_ifs
    · simp
    · simp [reservationRefusal_ne]

theorem Occupied.of_status (notAvailable : s.status connectorId ≠ .available)
    (notReserved : s.status connectorId ≠ .reserved) : Occupied config rfc s connectorId := by
  have busy : startable (s.status connectorId) = false := by
    cases status : s.status connectorId <;> first | rfl | exact absurd status ‹_›
  exact ⟨notAvailable, notReserved, remoteStart_refuses config busy, requestStart_refuses config busy,
    v16jReserve_refuses config notAvailable, v201Reserve_refuses config rfc notAvailable⟩

end Refusals

/-! ## What the calls do to occupied connectors -/

def Station.Busy (s : Station) : Prop :=
  ∀ connectorId ∈ config.connectors, s.Live connectorId →
    s.status connectorId ≠ .available ∧ s.status connectorId ≠ .reserved

variable {config} {s t : Station}

theorem Station.Busy.neverFree (busy : s.Busy config) : NeverFree config rfc s :=
  fun connectorId known live =>
    .of_status config rfc (busy connectorId known live).1 (busy connectorId known live).2

theorem Station.Busy.of_kept (busy : s.Busy config) (active : t.activeTransactions = s.activeTransactions)
    (status : ∀ c, s.status c ≠ .available → s.status c ≠ .reserved → t.status c = s.status c) :
    t.Busy config := by
  intro c known live
  obtain ⟨notAvailable, notReserved⟩ := busy c known (by simpa only [Station.Live, active] using live)
  rw [status c notAvailable notReserved]
  exact ⟨notAvailable, notReserved⟩

theorem Station.Busy.occupy (busy : s.Busy config) (connectorId : Nat)
    (active : ∀ c, t.Live c → s.Live c ∨ c = connectorId)
    (status : t.status = (s.energize config connectorId).status) : t.Busy config := by
  intro c known live
  rw [status, Station.energize_status]
  by_cases same : c = connectorId
  · subst same
    simp [known]
  · obtain live | here := active c live
    · split_ifs
      · rw [Function.update_of_ne same]
        exact busy c known live
      · exact busy c known live
    · exact absurd here same

theorem OpenOutcome.unoccupied {connectorId : Nat} {idTag : String} {meterStart : Int}
    {outcome : Except OcppError Int}
    (ended : OpenOutcome config connectorId idTag meterStart s outcome t) :
    t.activeTransactions = s.activeTransactions ∧ t.status = s.status := by
  obtain ⟨_, _, _, _, _, rfl⟩ := ended.eq
  exact ⟨rfl, rfl⟩

theorem StartOutcome.busy {connectorId : Nat} {idTag : String} {meterStart : Int}
    {outcome : Except OcppError Int} (busy : s.Busy config)
    (ended : StartOutcome config connectorId idTag meterStart s outcome t) : t.Busy config := by
  cases ended with
  | advanced => exact busy
  | notPrepared | notAuthorized => exact busy.of_kept rfl fun _ _ _ => rfl
  | notOpened prepared error _ opening =>
      obtain ⟨active, status⟩ := opening.unoccupied
      exact busy.of_kept active fun c _ _ => congrFun status c
  | folded transactionId plugged connected prepared authorized _ _ energized =>
      obtain ⟨-, session, listed, -⟩ := plugged
      have folded := Station.fold_eq connectorId idTag transactionId prepared authorized listed
      obtain ⟨status, -⟩ := energized.runs_on
      apply busy.occupy connectorId
      · intro c live
        rw [Station.Live, energized.same.1, folded] at live
        exact .inl live
      · rw [status, Station.energize_status, Station.energize_status, folded]
  | opened prepared transactionId u opening _ _ energized =>
      obtain ⟨active, kept⟩ := opening.unoccupied
      obtain ⟨status, -⟩ := energized.runs_on
      apply busy.occupy connectorId
      · rintro c ⟨tid, found⟩
        rw [energized.same.1] at found
        obtain ⟨-, here⟩ | ⟨-, before⟩ := HashMap.lookup_insert_eq_some.mp found
        · exact .inr here.symm
        · exact .inl ⟨tid, active ▸ before⟩
      · rw [status, Station.energize_status, Station.energize_status]
        change (if _ then Function.update u.status _ _ else u.status) = _
        rw [kept]
        rfl

theorem CloseOutcome.unoccupied {connectorId : Nat} {transactionId meterStop : Int} {reason : Reason}
    {outcome : Except OcppError Unit}
    (ended : CloseOutcome config connectorId transactionId meterStop reason s outcome t) :
    t.activeTransactions = s.activeTransactions ∧ t.status = s.status := by
  obtain ⟨_, _, _, _, _, rfl⟩ := ended.eq
  exact ⟨rfl, rfl⟩

def Station.Alone (s : Station) (transactionId : Int) : Prop :=
  ∀ connectorId other, s.activeTransactions.lookup transactionId = some connectorId →
    s.activeTransactions.lookup other = some connectorId → other = transactionId

theorem Station.Busy.free (busy : s.Busy config) {connectorId : Nat} {transactionId : Int}
    (held : s.activeTransactions.lookup transactionId = some connectorId) (alone : s.Alone transactionId)
    (active : t.activeTransactions = s.activeTransactions.erase transactionId)
    (status : t.status = if connectorId ∈ config.connectors then
      Function.update s.status connectorId .available else s.status) : t.Busy config := by
  rintro c known ⟨tid, found⟩
  rw [active] at found
  obtain ⟨same, found⟩ := HashMap.lookup_erase_eq_some.mp found
  have other : c ≠ connectorId := by
    rintro rfl
    exact same (alone c tid held found)
  rw [status]
  split_ifs
  · rw [Function.update_of_ne other]
    exact busy c known ⟨tid, found⟩
  · exact busy c known ⟨tid, found⟩

theorem StopOutcome.busy {transactionId meterStop : Int} {reason : Reason}
    {outcome : Except OcppError Unit} (busy : s.Busy config) (alone : s.Alone transactionId)
    (ended : StopOutcome config transactionId meterStop reason s outcome t) : t.Busy config := by
  cases ended with
  | unknown => exact busy
  | unclosed connectorId held error _ closing | unfinished connectorId held u closing answer error =>
      obtain ⟨active, status⟩ := closing.unoccupied
      exact busy.of_kept active fun c _ _ => congrFun status c
  | unavailable connectorId held u closing finished answer error =>
      obtain ⟨active, status⟩ := closing.unoccupied
      apply busy.free held alone
      · rw [Station.free_eq, ← active]
        rfl
      · rw [Station.free_eq, ← status]
        rfl
  | stopped connectorId held u closing finished freed _ drained =>
      obtain ⟨active, status⟩ := closing.unoccupied
      obtain ⟨_, _, _, _, rfl⟩ := drained
      apply busy.free held alone
      · rw [Station.free_eq, ← active]
        rfl
      · rw [Station.free_eq, ← status]
        rfl

theorem ReserveOutcome.busy {acceptable : Nat → Prop} {reservationId : Int} {idTag : String}
    (busy : s.Busy config) (permits : ∀ connectorId, acceptable connectorId → s.status connectorId = .available)
    (ended : ReserveOutcome acceptable reservationId idTag s t) : t.Busy config := by
  have other : ∀ {connectorId : Nat}, acceptable connectorId → ∀ c, s.status c ≠ .available →
      c ≠ connectorId := by
    rintro connectorId permitted c taken rfl
    exact taken (permits c permitted)
  cases ended with
  | refused => exact busy
  | accepted connectorId permitted | timed connectorId permitted =>
      refine busy.of_kept rfl fun c notAvailable _ => ?_
      exact Function.update_of_ne (other permitted c notAvailable) _ _

theorem Station.Busy.cancel (busy : s.Busy config) (connectorId : Nat) :
    (s.cancel connectorId).Busy config := by
  refine busy.of_kept rfl fun c _ notReserved => ?_
  rw [Station.cancel]
  split_ifs with reserved
  · apply Function.update_of_ne
    rintro rfl
    exact notReserved reserved
  · rfl

theorem Station.Busy.release (busy : s.Busy config) (connectorId : Nat) :
    (s.release config connectorId).Busy config := by
  unfold Station.release
  split_ifs
  · exact busy.cancel connectorId
  · exact busy

theorem CancelOutcome.busy {reservationId : Int} (busy : s.Busy config)
    (ended : CancelOutcome config reservationId s t) : t.Busy config := by
  cases ended with
  | unknown => exact busy.of_kept rfl fun _ _ _ => rfl
  | cancelled connectorId held commands =>
      obtain ⟨expiryTimers, timers, removed⟩ :=
        (s.removeReservation reservationId).removeTimers_eq [reservationId]
      rw [removed]
      apply Station.Busy.release (s := { s.removeReservation reservationId with expiryTimers, timers })
      exact busy.of_kept rfl fun _ _ _ => rfl

theorem ExpireOutcome.busy {timer : ReservationTimer} (busy : s.Busy config)
    (ended : ExpireOutcome config timer s t) : t.Busy config := by
  cases ended with
  | gone => exact busy
  | expired held commands =>
      apply Station.Busy.release (s := s.removeReservation timer.reservationId)
      exact busy.of_kept rfl fun _ _ _ => rfl

/-! ## Runs -/

namespace Connectors

variable (config) in
/-- What keeps an occupied connector from being freed beside its transaction. -/
def KeepsOccupied (s : Connectors) : Action → Prop
  | .call completion =>
      match completion.call with
      | .stopTransaction transactionId _ _ => s.station.Alone transactionId
      | _ => True
  | .plugOut connectorId => connectorId ∈ config.connectors → s.station.Live connectorId →
      s.station.status connectorId = .unavailable ∨ s.station.status connectorId = .faulted
  | .clearFault connectorId => connectorId ∈ config.connectors → s.station.Live connectorId →
      (s.connectors connectorId).physicalState ≠ .unplugged
  | .setAvailability connectorId available => available → connectorId ∈ config.connectors →
      ¬s.station.Live connectorId
  | .plugIn _ | .setFault .. => True

variable {s t : Connectors}

theorem busy_setStatus {s : Station} (busy : s.Busy config) {connectorId : Nat} {status : ChargePointStatus}
    (occupied : connectorId ∈ config.connectors → s.Live connectorId →
      status ≠ .available ∧ status ≠ .reserved) : (s.setStatus connectorId status).Busy config := by
  intro c known live
  by_cases same : c = connectorId
  · subst same
    simpa [Station.setStatus] using occupied known live
  · simpa [Station.setStatus, same] using busy c known live

theorem plugIn_busy (busy : s.station.Busy config) (connectorId : Nat) :
    (s.plugIn connectorId).station.Busy config := by
  unfold plugIn
  split
  · exact busy_setStatus busy fun _ _ => by simp
  · exact busy_setStatus busy fun _ _ => by simp
  · exact busy

theorem plugOut_busy (busy : s.station.Busy config) {connectorId : Nat}
    (keeps : s.KeepsOccupied config (.plugOut connectorId)) :
    (s.plugOut connectorId).station.Busy config := by
  have freed : ∀ status, s.station.status connectorId = status → status ≠ .unavailable →
      status ≠ .faulted → (s.station.setStatus connectorId .available).Busy config := by
    rintro status rfl notUnavailable notFaulted
    apply busy_setStatus busy
    intro known live
    obtain held | held := keeps known live
    · exact absurd held notUnavailable
    · exact absurd held notFaulted
  unfold plugOut
  cases status : s.station.status connectorId with
  | preparing | finishing | charging | suspendedEV | suspendedEVSE =>
      exact freed _ status (by simp) (by simp)
  | available | reserved | unavailable | faulted => exact busy

theorem setFault_busy (busy : s.station.Busy config) (connectorId : Nat) (errorCode : ChargePointErrorCode)
    (info : Option String) : (s.setFault connectorId errorCode info).station.Busy config := by
  unfold setFault
  split_ifs
  · exact busy_setStatus busy fun _ _ => by simp
  · exact busy

theorem clearFault_busy (busy : s.station.Busy config) {connectorId : Nat}
    (keeps : s.KeepsOccupied config (.clearFault connectorId)) :
    (s.clearFault connectorId).station.Busy config := by
  apply busy_setStatus busy
  intro known live
  have plugged := keeps known live
  dsimp only
  split
  case h_1 unplugged => exact absurd unplugged plugged
  all_goals simp

theorem setAvailability_busy (busy : s.station.Busy config) {connectorId : Nat} {available : Bool}
    (keeps : s.KeepsOccupied config (.setAvailability connectorId available)) :
    (s.setAvailability connectorId available).station.Busy config := by
  apply busy_setStatus busy
  intro known live
  cases available with
  | true => exact absurd live (keeps rfl known)
  | false => simp

/-- The calls of the station: only a stop can free a connector beside another transaction. -/
theorem call_busy {completion : Completion} (busy : s.station.Busy config)
    (keeps : s.KeepsOccupied config (.call completion))
    (stepped : s.step config rfc (.call completion) = some t) : t.station.Busy config := by
  obtain ⟨call, choices⟩ := completion
  cases call with
  | startTransaction connectorId idTag meterStart =>
      obtain ⟨station, completed, rfl⟩ := Option.map_eq_some_iff.mp stepped
      obtain ⟨outcome, ended⟩ := drive_outcome config rfc completed trivial
      exact ended.busy busy
  | stopTransaction transactionId meterStop reason =>
      obtain ⟨station, completed, rfl⟩ := Option.map_eq_some_iff.mp stepped
      obtain ⟨outcome, ended⟩ := drive_outcome config rfc completed trivial
      exact ended.busy busy keeps
  | v16jReserveNow now req =>
      obtain ⟨station, completed, rfl⟩ := Option.map_eq_some_iff.mp stepped
      obtain ⟨outcome, ran⟩ := Station.complete_fresh config rfc completed trivial
      have ended := post_of_eval (wp_discard (v16jReserveNow_outcome config now req s.station)) ran
      exact ended.busy busy fun _ permitted => permitted.2.2.2
  | v201ReserveNow now req =>
      obtain ⟨station, completed, rfl⟩ := Option.map_eq_some_iff.mp stepped
      obtain ⟨outcome, ran⟩ := Station.complete_fresh config rfc completed trivial
      have ended := post_of_eval (wp_discard (v201ReserveNow_outcome config rfc now req s.station)) ran
      exact ended.busy busy fun _ permitted => permitted.2.2.2
  | cancelReservation reservationId =>
      obtain ⟨station, completed, rfl⟩ := Option.map_eq_some_iff.mp stepped
      obtain ⟨outcome, ran⟩ := Station.complete_fresh config rfc completed trivial
      have ended := post_of_eval (wp_discard (cancelReservationRequest_outcome config reservationId _)) ran
      exact ended.busy busy
  | expire handle timer =>
      obtain ⟨station, completed, rfl⟩ := Option.map_eq_some_iff.mp stepped
      obtain ⟨-, ended⟩ := expire_outcome config rfc completed
      have slept : Station.Busy config { s.station with timers := s.station.timers.erase handle } :=
        busy.of_kept rfl fun _ _ _ => rfl
      exact ended.busy slept
  | _ => cases stepped

theorem step_busy {action : Action} (busy : s.station.Busy config) (keeps : s.KeepsOccupied config action)
    (stepped : s.step config rfc action = some t) : t.station.Busy config := by
  have host : ∀ connectorId changed, changed.station.Busy config →
      some (s.onConnector config connectorId changed) = some t → t.station.Busy config := by
    rintro connectorId changed kept ⟨⟩
    unfold onConnector
    split_ifs
    · exact kept
    · exact busy
  cases action with
  | call completion => exact call_busy rfc busy keeps stepped
  | plugIn connectorId => exact host _ _ (plugIn_busy busy connectorId) stepped
  | plugOut connectorId => exact host _ _ (plugOut_busy busy keeps) stepped
  | setFault connectorId errorCode info =>
      exact host _ _ (setFault_busy busy connectorId errorCode info) stepped
  | clearFault connectorId => exact host _ _ (clearFault_busy busy keeps) stepped
  | setAvailability connectorId available => exact host _ _ (setAvailability_busy busy keeps) stepped

/-- In every state that such calls lead to, a connector with a live transaction is neither available nor
reserved, and neither a remote start nor a reservation is accepted on it. -/
theorem occupied_never_free (config : Config) (rfc : Rfc3339) {actions : List Action}
    (along : Along (step · config rfc) (KeepsOccupied config) new actions)
    (ran : run (step · config rfc) new actions = some s) : NeverFree config rfc s.station := by
  apply Station.Busy.neverFree
  apply run_invariant (fun _ _ _ busy keeps stepped => step_busy rfc busy keeps stepped) _ along ran
  rintro c - ⟨tid, found⟩
  simp [new, Station.new] at found

def startedOnOne : List Action :=
  [.plugIn 1, .call ⟨.startTransaction 1 "TAG" 0, [.pick none, answered 0, answered 7, .none, .none, .none,
    answered 0, .none]⟩]

/-- Pulling the cable of a faulted connector leaves it faulted. -/
theorem faulted_never_free :
    ∃ s, run (step · (simulator .v16j) noDates) new
        (startedOnOne ++ [.setFault 1 .otherError none, .plugOut 1]) = some s ∧
      s.station.status 1 = .faulted ∧ s.station.Live 1 ∧ NeverFree (simulator .v16j) noDates s.station := by
  have reached : (run (step · (simulator .v16j) noDates) new
      (startedOnOne ++ [.setFault 1 .otherError none, .plugOut 1])).map (fun s =>
        (s.station.activeTransactions.lookup 7, s.station.status 1)) = some (some 1, .faulted) := rfl
  obtain ⟨s, ran, found⟩ := Option.map_eq_some_iff.mp reached
  obtain ⟨active, status⟩ := Prod.mk.inj found
  refine ⟨s, ran, status, ⟨7, active⟩, occupied_never_free (simulator .v16j) noDates ?_ ran⟩
  refine ⟨trivial, fun _ _ => ⟨trivial, fun _ _ => ⟨trivial, fun t faulted => ?_⟩⟩⟩
  refine ⟨fun _ _ => ?_, fun _ _ => trivial⟩
  cases faulted
  exact .inr rfl

/-- The cable is pulled while the transaction runs: the station keeps the transaction. -/
theorem unplugged_free :
    ∃ s, run (step · (simulator .v16j) noDates) new (startedOnOne ++ [.plugOut 1]) = some s ∧
      ¬NeverFree (simulator .v16j) noDates s.station := by
  have reached : (run (step · (simulator .v16j) noDates) new (startedOnOne ++ [.plugOut 1])).map (fun s =>
      (s.station.activeTransactions.lookup 7, s.station.status 1)) = some (some 1, .available) := rfl
  obtain ⟨s, ran, found⟩ := Option.map_eq_some_iff.mp reached
  obtain ⟨active, status⟩ := Prod.mk.inj found
  refine ⟨s, ran, fun never => ?_⟩
  exact (never 1 (by decide) ⟨7, active⟩).notAvailable status

end Connectors

end Ocpp.ChargePoint
