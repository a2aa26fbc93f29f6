import Ocpp.ChargePoint.Outcomes

/-!
# Reported statuses

The status a connector holds and the status last reported for it, through a call that runs alone with a central
system that accepts every CALL. A queued command can stand for a report still to be made.
-/

namespace Ocpp.ChargePoint
open Library Library.Program V16j V201

/-! ## Reports -/

def notified (connectorId : Nat) : Request × Answer → Option ChargePointStatus
  | (.statusNotification target status, answer) =>
      if target = connectorId ∧ answer.Sent then some status else none
  | _ => none

/-- The last status that went out for the connector. -/
def Station.reported (s : Station) (connectorId : Nat) : Option ChargePointStatus :=
  (s.calls.filterMap (notified connectorId)).getLast?

/-- The commands that lead to a report on the connector. -/
def RemoteCommand.About (connectorId : Nat) : RemoteCommand → Prop
  | emitConnectorStatus target _ | v201ApplyAvailability target _ _ => target = connectorId
  | reset _ => True
  | _ => False

instance (connectorId : Nat) : DecidablePred (RemoteCommand.About connectorId)
  | .emitConnectorStatus target _ | .v201ApplyAvailability target _ _ =>
      inferInstanceAs (Decidable (target = connectorId))
  | .reset _ => isTrue trivial
  | .startTransaction .. | .stopTransaction _ | .v201TriggerTransactionEvent _
  | .v201ReservationStatusUpdate .. => isFalse id

def Station.Awaited (s : Station) (connectorId : Nat) : Prop :=
  ∃ command ∈ s.commands, command.About connectorId

def Station.Known (s : Station) (connectorId : Nat) : Prop :=
  s.reported connectorId = some (s.status connectorId) ∨ s.Awaited connectorId

theorem Station.reported_called (s : Station) (request : Request) (answer : Answer) (connectorId : Nat) :
    (s.called request answer).reported connectorId =
      (notified connectorId (request, answer)).or (s.reported connectorId) := by
  rw [reported, called_calls, List.filterMap_append, List.filterMap_cons]
  cases notified connectorId (request, answer) with
  | none => simp [reported]
  | some status => simp

theorem Station.reported_of_told (s : Station) (connectorId : Nat) (status : ChargePointStatus)
    (response : Response) :
    (s.called (.statusNotification connectorId status) (.replied response)).reported connectorId = some status := by
  have told : notified connectorId (.statusNotification connectorId status, .replied response) = some status :=
    if_pos ⟨rfl, trivial⟩
  rw [reported_called, told, Option.some_or]

theorem Station.setStatus_status (s : Station) (connectorId : Nat) (status : ChargePointStatus) :
    (s.setStatus connectorId status).status connectorId = status := by
  simp [setStatus]

/-- The operations that change the status of the connector or report one. -/
def Op.Concerns (connectorId : Nat) : Op → Prop
  | setStatus target _ | call (.statusNotification target _) => target = connectorId
  | _ => False

theorem Op.effect_status {op : Op} {connectorId : Nat} (other : ∀ status, op ≠ .setStatus connectorId status)
    (choice : Choice) (s : Station) : (op.effect choice s).status connectorId = s.status connectorId := by
  cases op
  case setStatus target status =>
    have elsewhere : connectorId ≠ target := by
      rintro rfl
      exact other status rfl
    exact Function.update_of_ne elsewhere status s.status
  case setIdentity tid idTag groupIdToken =>
    obtain ⟨v201Sessions, identified⟩ := s.setIdentity_eq tid idTag groupIdToken
    rw [effect, identified]
  case removeTimers ids =>
    obtain ⟨expiryTimers, timers, removed⟩ := s.removeTimers_eq ids
    rw [effect, removed]
  case claimListedSeqNo | expireReservation | takeIfIdle =>
    simp only [effect]
    split_ifs <;> rfl
  case call => cases choice <;> rfl
  all_goals rfl

theorem Op.effect_reported {op : Op} {connectorId : Nat} (other : ¬op.Concerns connectorId) (choice : Choice)
    (s : Station) : (op.effect choice s).reported connectorId = s.reported connectorId := by
  cases op
  case call request =>
    cases choice
    case answer answer =>
      have unsaid : notified connectorId (request, answer) = none := by
        cases request with
        | statusNotification target status => exact if_neg fun told => other told.1
        | _ => rfl
      rw [effect, Station.reported_called, unsaid, Option.none_or]
    all_goals rfl
  case setIdentity tid idTag groupIdToken =>
    obtain ⟨v201Sessions, identified⟩ := s.setIdentity_eq tid idTag groupIdToken
    rw [effect, identified]
    rfl
  case removeTimers ids =>
    obtain ⟨expiryTimers, timers, removed⟩ := s.removeTimers_eq ids
    rw [effect, removed]
    rfl
  case claimListedSeqNo | expireReservation | takeIfIdle =>
    simp only [effect]
    split_ifs <;> rfl
  all_goals rfl

theorem Op.effect_prefix (op : Op) (choice : Choice) (s : Station) : s.commands <+: (op.effect choice s).commands := by
  by_cases deferring : op.Deferring
  · cases op
    case enqueue command => exact List.prefix_append s.commands [command]
    case takeIfIdle =>
      simp only [effect]
      split_ifs <;> exact List.prefix_rfl
    all_goals first | exact List.prefix_rfl | exact deferring.elim
  · obtain ⟨-, -, -, -, same⟩ := effect_undeferring deferring choice s
    exact same ▸ List.prefix_rfl

theorem Station.Awaited.mono {s t : Station} {connectorId : Nat} (queue : s.commands <+: t.commands)
    (awaited : s.Awaited connectorId) : t.Awaited connectorId := by
  obtain ⟨command, queued, about⟩ := awaited
  exact ⟨command, queue.subset queued, about⟩

theorem Station.Known.kept {s t : Station} {op : Op} {connectorId : Nat} {choice : Choice} {result : op.Result}
    (other : ¬op.Concerns connectorId) (known : s.Known connectorId)
    (performed : exec s op choice = some (result, t)) : t.Known connectorId := by
  rw [exec_effect performed]
  rcases known with told | awaited
  · have unset : ∀ status, op ≠ .setStatus connectorId status := by
      rintro status rfl
      exact other rfl
    refine .inl ?_
    rw [op.effect_status unset, op.effect_reported other, told]
  · exact .inr (awaited.mono (op.effect_prefix choice s))

/-! ## A central system that accepts -/

def Response.Accepts (response : Response) : Prop :=
  response.idTagStatus = .accepted ∧ response.idTokenStatus.all (· = .accepted)

def Choice.accepts : Choice → Bool
  | .answer (.replied response) => response.idTagStatus = .accepted && response.idTokenStatus.all (· = .accepted)
  | .answer _ => false
  | _ => true

/-- The operations of a station whose CALLs are all accepted. -/
def accepting : Station → (op : Op) → Choice → Option (op.Result × Station) :=
  restrict Choice.accepts exec

/-- Each connector but the excepted one is known to the central system. -/
def View (config : Config) (excepted : Option Nat) (s : Station) : Prop :=
  ∀ connectorId ∈ config.connectors, some connectorId ≠ excepted → s.Known connectorId

section Rules

variable {config : Config} {α : Type} {post : Except OcppError α → Station → Prop} {s : Station}
  {excepted : Option Nat}

theorem exec_of_accepting {op : Op} {choice : Choice} {result : op.Result} {t : Station}
    (performed : accepting s op choice = some (result, t)) : exec s op choice = some (result, t) :=
  (Option.ite_none_right_eq_some.mp performed).2

theorem accepting_act {op : Op} {f : op.Result → Async α}
    (rest : ∀ choice result t, exec s op choice = some (result, t) → (f result).wp accepting post t) :
    (act op >>= f).wp accepting post s :=
  fun choice result t performed => rest choice result t (exec_of_accepting performed)

theorem accepting_call {request : Request} {f : Response → Async α}
    (replies : ∀ response, response.Accepts →
      (f response).wp accepting post (s.called request (.replied response))) :
    (call request >>= f).wp accepting post s := by
  intro choice result t performed
  obtain ⟨accepted, performed⟩ := Option.ite_none_right_eq_some.mp performed
  cases choice with
  | answer answer =>
      cases performed
      cases answer with
      | refused error | failed error => cases accepted
      | replied response =>
          obtain ⟨idTag, idToken⟩ := (Bool.and_eq_true _ _).mp accepted
          exact replies response ⟨of_decide_eq_true idTag, idToken⟩
  | _ => cases performed

theorem accepting_notify {connectorId : Nat} {status : ChargePointStatus} {f : Unit → Async α}
    (replies : ∀ response,
      (f ()).wp accepting post (s.called (.statusNotification connectorId status) (.replied response))) :
    (sendStatusNotification connectorId status >>= f).wp accepting post s := by
  rw [sendStatusNotification, bind_bind]
  exact accepting_call fun response _ => replies response

theorem only_reported (connectorId : Nat) (status : ChargePointStatus) (target : Nat)
    (concerned : (Op.call (.statusNotification connectorId status)).Concerns target) :
    some target = some connectorId :=
  congrArg some concerned.symm

theorem only_set (connectorId : Nat) (status : ChargePointStatus) (target : Nat)
    (concerned : (Op.setStatus connectorId status).Concerns target) : some target = some connectorId :=
  congrArg some concerned.symm

theorem View.weaken (view : View config none s) (excepted : Option Nat) : View config excepted s :=
  fun connectorId member _ => view connectorId member (Option.some_ne_none connectorId)

theorem View.kept {op : Op} {choice : Choice} {result : op.Result} {t : Station}
    (only : ∀ connectorId, op.Concerns connectorId → some connectorId = excepted) (view : View config excepted s)
    (performed : exec s op choice = some (result, t)) : View config excepted t :=
  fun connectorId member other =>
    (view connectorId member other).kept (fun here => other (only connectorId here)) performed

theorem View.untouched {op : Op} {choice : Choice} {result : op.Result} {t : Station}
    (unconcerned : ∀ connectorId, ¬op.Concerns connectorId) (view : View config excepted s)
    (performed : exec s op choice = some (result, t)) : View config excepted t :=
  view.kept (fun connectorId here => absurd here (unconcerned connectorId)) performed

theorem View.within {p : Async α} (within : p.Within fun op => ∀ connectorId, ¬op.Concerns connectorId)
    (view : View config excepted s) : p.wp accepting (fun _ t => View config excepted t) s := by
  have kept : ∀ s op choice (result : Op.Result op) t, (∀ connectorId, ¬op.Concerns connectorId) →
      View config excepted s → accepting s op choice = some (result, t) → View config excepted t :=
    fun s op choice result t unconcerned view performed => view.untouched unconcerned (exec_of_accepting performed)
  exact within.wp kept view

theorem View.act {op : Op} {f : op.Result → Async α} (unconcerned : ∀ connectorId, ¬op.Concerns connectorId)
    (view : View config excepted s)
    (rest : ∀ result t, View config excepted t → (f result).wp accepting post t) :
    (ChargePoint.act op >>= f).wp accepting post s :=
  accepting_act fun _ result t performed => rest result t (view.untouched unconcerned performed)

theorem View.call {request : Request} {f : Response → Async α}
    (unconcerned : ∀ connectorId, ¬(Op.call request).Concerns connectorId) (view : View config excepted s)
    (rest : ∀ response t, response.Accepts → View config excepted t → (f response).wp accepting post t) :
    (ChargePoint.call request >>= f).wp accepting post s := by
  apply accepting_call
  intro response accepts
  have performed : exec s (.call request) (.answer (.replied response)) =
      some (.ok response, s.called request (.replied response)) := rfl
  exact rest response _ accepts (view.untouched unconcerned performed)

theorem View.notify {connectorId : Nat} {status : ChargePointStatus} {f : Unit → Async α}
    (view : View config (some connectorId) s)
    (rest : ∀ t, View config (some connectorId) t → (f ()).wp accepting post t) :
    (sendStatusNotification connectorId status >>= f).wp accepting post s := by
  apply accepting_notify
  intro response
  have performed : exec s (.call (.statusNotification connectorId status)) (.answer (.replied response)) =
      some (.ok response, s.called (.statusNotification connectorId status) (.replied response)) := rfl
  exact rest _ (view.kept (only_reported connectorId status) performed)

theorem View.closed {connectorId : Nat} (view : View config (some connectorId) s)
    (known : connectorId ∈ config.connectors → s.Known connectorId) : View config none s := by
  intro target member _
  by_cases here : target = connectorId
  · exact here ▸ known (here ▸ member)
  · exact view target member fun same => here (Option.some.inj same)

theorem View.tell {connectorId : Nat} {status : ChargePointStatus} (view : View config (some connectorId) s)
    (held : connectorId ∈ config.connectors → s.status connectorId = status ∨ s.Awaited connectorId) :
    (sendStatusNotification connectorId status).wp accepting
      (fun outcome t => outcome = .ok () ∧ View config none t) s := by
  apply accepting_call
  intro response _
  have performed : exec s (.call (.statusNotification connectorId status)) (.answer (.replied response)) =
      some (.ok response, s.called (.statusNotification connectorId status) (.replied response)) := rfl
  refine ⟨rfl, (view.kept (only_reported connectorId status) performed).closed fun member => ?_⟩
  rcases held member with same | awaited
  · refine .inl ((s.reported_of_told connectorId status response).trans ?_)
    exact congrArg some same.symm
  · exact .inr awaited

/-- How a start and a stop end: the connector takes a status, and that is reported. -/
theorem View.settle {connectorId : Nat} {status : ChargePointStatus} {f : Unit → Async α}
    (view : View config (some connectorId) s)
    (rest : ∀ t, View config none t → (f ()).wp accepting post t) :
    (onlyIf (connectorId ∈ config.connectors) (ChargePoint.act (.setStatus connectorId status)) >>= fun _ =>
      sendStatusNotification connectorId status >>= f).wp accepting post s := by
  apply wp_onlyIf
  · intro member
    apply accepting_act
    intro choice result t performed
    have set := view.kept (only_set connectorId status) performed
    cases performed
    have told := set.tell fun _ => .inl (s.setStatus_status connectorId status)
    exact wp_seq told (by simp) fun _ t known => rest t known.2
  · intro absent
    have told : (sendStatusNotification connectorId status).wp accepting
        (fun outcome t => outcome = .ok () ∧ View config none t) s :=
      view.tell fun member => absurd (decide_eq_true member) absent
    exact wp_seq told (by simp) fun _ t known => rest t known.2

end Rules

/-! ## Transactions -/

section Transactions

variable {config : Config} {s : Station} {excepted : Option Nat}

theorem energizeConnector_view {connectorId : Nat} {transactionId : Int} (view : View config (some connectorId) s) :
    (energizeConnector config connectorId transactionId).wp accepting
      (fun outcome t => outcome = .ok () ∧ View config none t) s := by
  refine view.act (fun _ => id) fun consumed t taken => ?_
  have settled : ∀ t, View config (some connectorId) t → (do
      onlyIf (connectorId ∈ config.connectors) (act (.setStatus connectorId .charging))
      sendStatusNotification connectorId .charging
      act (.registerSampler transactionId connectorId) : Async Unit).wp accepting
        (fun outcome t => outcome = .ok () ∧ View config none t) t := by
    intro t view
    refine view.settle fun u known choice result v performed => ⟨rfl, ?_⟩
    exact known.untouched (fun _ => id) (exec_of_accepting performed)
  refine wp_onlyIf (fun _ => ?_) fun _ => settled t taken
  exact taken.act (fun _ => id) fun _ u removed => settled u removed

theorem installGiven_view {evseId : Int} {chargingProfile : Option ChargingProfileType}
    (view : View config excepted s) :
    (installGiven evseId chargingProfile).wp accepting
      (fun outcome t => outcome = .ok () ∧ View config excepted t) s := by
  cases chargingProfile with
  | none => exact ⟨rfl, view⟩
  | some profile =>
      intro choice result t performed
      exact ⟨rfl, view.untouched (fun _ => id) (exec_of_accepting performed)⟩

theorem withState_view {connectorId : Nat} {transactionId : Int} {event : Int → TransactionEventRequest}
    (view : View config none s) :
    (withState transactionId fun state => do
      if state ≠ .evConnected then
        return false
      sendStatusNotification connectorId .preparing
      let seqNo ← act (.claimSeqNo transactionId)
      let _ ← call (.transactionEvent (event seqNo))
      act (.setState transactionId .charging)
      act (.authorize transactionId)
      return true).wp accepting
        (fun outcome t => outcome = .ok false ∧ View config none t ∨
          outcome = .ok true ∧ View config (some connectorId) t) s := by
  refine view.act (fun _ => id) fun state t locked => ?_
  have folded : (do
      if state ≠ .evConnected then
        return false
      sendStatusNotification connectorId .preparing
      let seqNo ← act (.claimSeqNo transactionId)
      let _ ← call (.transactionEvent (event seqNo))
      act (.setState transactionId .charging)
      act (.authorize transactionId)
      return true : Async Bool).wp accepting
        (fun outcome t => outcome = .ok false ∧ View config none t ∨
          outcome = .ok true ∧ View config (some connectorId) t) t := by
    split_ifs with other
    · exact .inl ⟨rfl, locked⟩
    · refine (locked.weaken (some connectorId)).notify fun u told => ?_
      refine told.act (fun _ => id) fun seqNo v claimed => ?_
      refine claimed.call (fun _ => id) fun _ w _ emitted => ?_
      refine emitted.act (fun _ => id) fun _ x set => ?_
      exact set.act (fun _ => id) fun _ y authorized => .inr ⟨rfl, authorized⟩
  rw [wp_bind, wp_attempt]
  refine wp_mono (fun outcome u ended => ?_) folded
  rcases ended with ⟨same, known⟩ | ⟨same, known⟩
  · cases same
    exact known.act (fun _ => id) fun _ v unlocked => .inl ⟨rfl, unlocked⟩
  · cases same
    exact known.act (fun _ => id) fun _ v unlocked => .inr ⟨rfl, unlocked⟩

theorem foldAuthorizationOntoPlugOpen_view {connectorId : Nat} {idTag : String}
    {chargingProfile : Option ChargingProfileType} {groupIdToken : Option IdTokenType} (view : View config none s) :
    (foldAuthorizationOntoPlugOpen config connectorId idTag chargingProfile groupIdToken).wp accepting
      (fun outcome t => outcome.isOk ∧ View config none t) s := by
  refine view.act (fun _ => id) fun found t view => ?_
  cases found with
  | none => exact ⟨rfl, view⟩
  | some transactionId =>
      refine view.act (fun _ => id) fun session u view => ?_
      cases session with
      | none => exact ⟨rfl, view⟩
      | some session =>
          dsimp only
          split_ifs with authorized
          · exact ⟨rfl, view⟩
          refine wp_seq (withState_view view) (by simp) fun advanced v ended => ?_
          rcases ended with ⟨same, known⟩ | ⟨same, known⟩
          · cases same
            exact ⟨rfl, known⟩
          · cases same
            refine known.act (fun _ => id) fun _ w identified => ?_
            refine wp_seq (installGiven_view identified) (by simp) fun _ x installed => ?_
            refine wp_seq (energizeConnector_view installed.2) (by simp) fun _ y energized => ?_
            exact ⟨rfl, energized.2⟩

theorem openTransaction_view {connectorId : Nat} {idTag : String} {meterStart : Int} {remoteStartId : Option Int}
    {chargingProfile : Option ChargingProfileType} {groupIdToken : Option IdTokenType}
    (view : View config excepted s) :
    (openTransaction config connectorId idTag meterStart remoteStartId chargingProfile groupIdToken).wp accepting
      (fun outcome t => outcome.isOk ∧ View config excepted t) s := by
  unfold openTransaction
  cases config.protocolVersion with
  | v16j =>
      refine view.call (fun _ => id) fun response t accepts opened => ?_
      split_ifs with refused
      · exact absurd accepts.1 refused
      · exact ⟨rfl, opened⟩
  | v201 =>
      refine view.act (fun _ => id) fun transactionId t minted => ?_
      refine minted.call (fun _ => id) fun response u accepts opened => ?_
      have unrefused : response.idTokenStatus.filter (· ≠ .accepted) = none := by
        rw [Option.filter_eq_none_iff]
        intro status given
        simpa using Option.all_eq_true _ _ |>.mp accepts.2 status given
      rw [unrefused]
      refine opened.act (fun _ => id) fun _ v inserted => ?_
      refine wp_seq (installGiven_view inserted) (by simp) fun _ w installed => ?_
      exact ⟨rfl, installed.2⟩

theorem startTransactionWithRemoteStartId_view {connectorId : Nat} {idTag : String} {meterStart : Int}
    {remoteStartId : Option Int} {chargingProfile : Option ChargingProfileType} {groupIdToken : Option IdTokenType}
    (view : View config none s) :
    (startTransactionWithRemoteStartId config connectorId idTag meterStart remoteStartId chargingProfile
      groupIdToken).wp accepting (fun _ t => View config none t) s := by
  refine wp_seq (foldAuthorizationOntoPlugOpen_view view) (fun _ _ ended => ended.2) fun folded t ended => ?_
  cases folded with
  | some transactionId => exact ended.2
  | none =>
      refine (ended.2.weaken (some connectorId)).notify fun u told => ?_
      refine wp_seq (openTransaction_view told) (by simp [Except.isOk, Except.toBool]) fun transactionId v opened => ?_
      refine opened.2.act (fun _ => id) fun _ w inserted => ?_
      refine wp_seq (energizeConnector_view inserted) (by simp) fun _ x energized => ?_
      exact energized.2

theorem closeTransaction_within_unconcerned (config : Config) (connectorId : Nat) (transactionId meterStop : Int)
    (reason : Reason) :
    (closeTransaction config connectorId transactionId meterStop reason).Within fun op =>
      ∀ connectorId, ¬op.Concerns connectorId := by
  unfold closeTransaction
  cases config.protocolVersion with
  | v16j => exact (within_call fun _ => id).bind fun _ => trivial
  | v201 =>
      refine (within_act fun _ => id).bind fun _ => ?_
      refine (within_act fun _ => id).bind fun _ => ?_
      refine (within_act fun _ => id).bind fun session => ?_
      cases session with
      | none => trivial
      | some session =>
          refine (within_act fun _ => id).bind fun seqNo => ?_
          exact (within_call fun _ => id).bind fun _ => trivial

theorem drainOps_unconcerned {op : Op} (inside : drainOps op) (connectorId : Nat) : ¬op.Concerns connectorId := by
  cases op <;> first | exact inside.elim | exact id

theorem stopTransaction_view {transactionId meterStop : Int} {reason : Reason} (view : View config none s) :
    (stopTransaction config transactionId meterStop reason).wp accepting (fun _ t => View config none t) s := by
  refine view.act (fun _ => id) fun found t view => ?_
  cases found with
  | none => exact view
  | some connectorId =>
      have within := closeTransaction_within_unconcerned config connectorId transactionId meterStop reason
      refine wp_seq (view.within within) (fun _ _ closed => closed) fun _ u closed => ?_
      refine (closed.weaken (some connectorId)).notify fun v finished => ?_
      refine finished.act (fun _ => id) fun _ w stopped => ?_
      refine stopped.act (fun _ => id) fun _ x removed => ?_
      refine removed.settle fun y known => ?_
      exact known.within ((drainDeferred_within config).mono fun op inside => drainOps_unconcerned inside)

end Transactions

/-! ## Reservations and availability -/

section Reservations

variable {config : Config} {s : Station}

theorem View.await {α : Type} {post : Except OcppError α → Station → Prop} {connectorId : Nat} {command : RemoteCommand}
    {f : Unit → Async α} (about : command.About connectorId) (view : View config (some connectorId) s)
    (rest : ∀ t, View config none t → (f ()).wp accepting post t) :
    (ChargePoint.act (.enqueue command) >>= f).wp accepting post s := by
  apply accepting_act
  intro choice result t performed
  apply rest
  apply (view.untouched (fun _ => id) performed).closed
  intro member
  cases performed
  exact .inr ⟨command, List.mem_append_right s.commands List.mem_cons_self, about⟩

theorem reserve_view {connectorId : Nat} {idTag : String} (view : View config none s) :
    (reserve connectorId idTag).wp accepting
      (fun outcome t => outcome = .ok false ∧ View config none t ∨
        outcome = .ok true ∧ View config (some connectorId) t) s := by
  refine view.act (fun _ => id) fun status t view => ?_
  split_ifs with available
  · refine (view.weaken (some connectorId)).act (fun _ => id) fun _ u held => ?_
    exact accepting_act fun _ _ v performed => .inr ⟨rfl, held.kept (only_set connectorId .reserved) performed⟩
  · exact .inl ⟨rfl, view⟩

theorem v16jReserveNow_view {now : DateTime} {req : ReserveNowRequest} (view : View config none s) :
    (v16jReserveNow config now req).wp accepting (fun _ t => View config none t) s := by
  unfold v16jReserveNow
  split_ifs
  · exact view
  split
  · exact view
  · refine view.act (fun _ => id) fun status t view => ?_
    split_ifs
    · exact view
    refine wp_seq (reserve_view view) (by simp) fun reserved u ended => ?_
    rcases ended with ⟨same, known⟩ | ⟨same, known⟩
    · cases same
      exact known
    · cases same
      refine known.act (fun _ => id) fun number v inserted => ?_
      refine inserted.await rfl fun w queued => ?_
      exact queued.act (fun _ => id) fun _ x armed => armed

theorem v201ReserveNow_view {rfc : Rfc3339} {now : DateTime} {req : V201ReserveNowRequest}
    (view : View config none s) :
    (v201ReserveNow config rfc now req).wp accepting (fun _ t => View config none t) s := by
  unfold v201ReserveNow
  dsimp only
  split
  · split_ifs
    · exact view
    · split <;> exact view
  · refine view.act (fun _ => id) fun status t view => ?_
    split_ifs
    · exact view
    · exact view
    refine wp_seq (reserve_view view) (by simp) fun reserved u ended => ?_
    rcases ended with ⟨same, known⟩ | ⟨same, known⟩
    · cases same
      exact known
    · cases same
      refine known.act (fun _ => id) fun number v inserted => ?_
      refine inserted.await rfl fun w queued => ?_
      exact wp_onlyIf (fun _ => queued.act (fun _ => id) fun _ x armed => armed) fun _ => queued

theorem freeReserved_view {connectorId : Nat} (view : View config none s) :
    (freeReserved config connectorId).wp accepting (fun _ t => View config none t) s := by
  unfold freeReserved
  split_ifs with member
  · apply accepting_act
    intro choice status t performed
    cases performed
    -- the status is read once more by the connector, and both reads see the same
    by_cases reserved : s.status connectorId = .reserved
    · have freed : (cancelReservation connectorId).wp accepting
          (fun outcome t => outcome = .ok () ∧ View config (some connectorId) t) s := by
        refine (view.weaken (some connectorId)).act (fun _ => id) fun _ t unheld => ?_
        refine unheld.act (fun _ => id) fun status u view => ?_
        split_ifs
        · intro choice result v performed
          exact ⟨rfl, view.kept (only_set connectorId .available) (exec_of_accepting performed)⟩
        · exact ⟨rfl, view⟩
      refine wp_seq freed (by simp) fun _ t ended => ?_
      rw [if_pos reserved]
      exact ended.2.await rfl fun u queued => queued
    · have freed : (cancelReservation connectorId).wp accepting (fun _ t => View config none t) s := by
        apply accepting_act
        intro choice result t performed
        have unheld := view.untouched (fun _ => id) performed
        cases performed
        apply accepting_act
        intro choice status t performed
        cases performed
        have unreserved : (s.setReservedFor connectorId none).status connectorId ≠ .reserved := reserved
        rw [if_neg unreserved]
        exact unheld
      refine wp_seq freed (fun _ _ ended => ended) fun _ t ended => ?_
      rw [if_neg reserved]
      exact ended
  · exact view

theorem reportReservation_view {reservationId : Int} {status : ReservationUpdateStatusEnumType}
    (view : View config none s) :
    (reportReservation config reservationId status).wp accepting (fun _ t => View config none t) s := by
  unfold reportReservation
  cases config.protocolVersion with
  | v16j => exact view
  | v201 => exact view.act (fun _ => id) fun _ t queued => queued

theorem cancelReservationRequest_view {reservationId : Int} (view : View config none s) :
    (cancelReservationRequest config reservationId).wp accepting (fun _ t => View config none t) s := by
  refine view.act (fun _ => id) fun held t removed => ?_
  cases held with
  | none => exact removed
  | some connectorId =>
      refine removed.act (fun _ => id) fun _ u stopped => ?_
      refine wp_seq (freeReserved_view stopped) (fun _ _ ended => ended) fun _ v freed => ?_
      exact wp_seq (reportReservation_view freed) (fun _ _ ended => ended) fun _ w reported => reported

theorem expireReservation_view {timer : ReservationTimer} (view : View config none s) :
    (expireReservation config timer).wp accepting (fun _ t => View config none t) s := by
  refine view.act (fun _ => id) fun expired t removed => ?_
  split_ifs
  · refine wp_seq (freeReserved_view removed) (fun _ _ ended => ended) fun _ v freed => ?_
    exact reportReservation_view freed
  · exact removed

theorem applyV201Availability_view {connectorId : Nat} {target : OperationalStatusEnumType}
    (view : View config (some connectorId) s) :
    (applyV201Availability config connectorId target).wp accepting (fun _ t => View config none t) s := by
  unfold applyV201Availability
  split_ifs with member
  · apply accepting_act
    intro choice result t performed
    have set := view.kept (only_set connectorId _) performed
    cases performed
    rw [wp_bind, wp_attempt]
    have told := set.tell fun _ => .inl (s.setStatus_status connectorId _)
    exact wp_mono (fun _ _ ended => ended.2) told
  · exact view.closed fun member' => absurd member' member

end Reservations

end Ocpp.ChargePoint
