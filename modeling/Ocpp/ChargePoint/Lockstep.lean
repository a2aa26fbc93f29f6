import Ocpp.ChargePoint.Completed

/-!
# Sessions, profiles and the transaction map

In a 2.0.1 station that completes its calls one after the other, the transaction map and the session map
have the same ids, and profiles lie on EVSEs with a transaction, as long as no stop fails between the
removal of the session and the removal of the transaction.
-/

namespace Ocpp.ChargePoint
open Library Library.Program V16j V201

variable (config : Config) (rfc : Rfc3339)

structure Lockstep (s : Station) : Prop where
  ids : ∀ transactionId, (s.activeTransactions.lookup transactionId).isSome ↔
    (s.v201Sessions.lookup transactionId).isSome
  profiles : ∀ evseId, (s.v201TxProfiles.lookup evseId).isSome →
    ∃ transactionId connectorId, s.activeTransactions.lookup transactionId = some connectorId ∧
      evseId = (connectorId : Int)

/-- A call that may open a transaction mints an id that is not in use, and of the CALLs of a stop only the
last one fails. -/
def KeepsLockstep (s : Station) (completion : Completion) : Prop :=
  completion.call.Drives ∧
    match completion.call with
    | .startTransaction .. | .plugInCable _ =>
        s.activeTransactions.lookup s.nextV201TransactionId = none
    | .stopTransaction .. => ∀ t, s.complete config rfc completion = some t →
        ∀ entry ∈ s.made t, entry.2.Fails → ∃ connectorId, entry.1 = available connectorId
    | _ => True

namespace Lockstep

variable {s t : Station} (inv : Lockstep s)
include inv

theorem of_same (active : t.activeTransactions = s.activeTransactions)
    (sessions : ∀ tid, (t.v201Sessions.lookup tid).isSome ↔ (s.v201Sessions.lookup tid).isSome)
    (profiles : ∀ evseId, (t.v201TxProfiles.lookup evseId).isSome →
      (s.v201TxProfiles.lookup evseId).isSome) : Lockstep t where
  ids tid := by rw [active, inv.ids, sessions]
  profiles evseId found := active ▸ inv.profiles evseId (profiles evseId found)

theorem insert {transactionId : Int} {connectorId : Nat} {session : V201Session}
    (fresh : s.activeTransactions.lookup transactionId = none)
    (active : t.activeTransactions = s.activeTransactions.insert transactionId connectorId)
    (sessions : t.v201Sessions = s.v201Sessions.insert transactionId session)
    (profiles : t.v201TxProfiles = s.v201TxProfiles) : Lockstep t where
  ids tid := by
    rw [active, sessions]
    by_cases here : tid = transactionId
    · subst here
      simp
    · rw [AList.lookup_insert_ne here, AList.lookup_insert_ne here, inv.ids]
  profiles evseId found := by
    rw [profiles] at found
    obtain ⟨tid, held, live, here⟩ := inv.profiles evseId found
    have other : tid ≠ transactionId := by
      rintro rfl
      rw [fresh] at live
      cases live
    exact ⟨tid, held, by rw [active, AList.lookup_insert_ne other, live], here⟩

theorem erase {transactionId : Int} {connectorId : Nat}
    (live : s.activeTransactions.lookup transactionId = some connectorId)
    (active : t.activeTransactions = s.activeTransactions.erase transactionId)
    (sessions : t.v201Sessions = s.v201Sessions.erase transactionId)
    (profiles : t.v201TxProfiles = s.v201TxProfiles.erase (connectorId : Int)) : Lockstep t where
  ids tid := by
    rw [active, sessions]
    by_cases here : tid = transactionId
    · subst here
      simp
    · rw [AList.lookup_erase_ne here, AList.lookup_erase_ne here, inv.ids]
  profiles evseId found := by
    rw [profiles] at found
    have elsewhere : evseId ≠ (connectorId : Int) := by
      rintro rfl
      simp at found
    rw [AList.lookup_erase_ne elsewhere] at found
    obtain ⟨tid, held, held', here⟩ := inv.profiles evseId found
    have other : tid ≠ transactionId := by
      rintro rfl
      rw [live, Option.some.injEq] at held'
      exact elsewhere (held' ▸ here)
    exact ⟨tid, held, by rw [active, AList.lookup_erase_ne other, held'], here⟩

theorem start {connectorId : Nat} {idTag : String} {meterStart : Int} {outcome : Except OcppError Int}
    (v201 : config.protocolVersion = .v201)
    (fresh : s.activeTransactions.lookup s.nextV201TransactionId = none)
    (ended : StartOutcome config connectorId idTag meterStart s outcome t) : Lockstep t := by
  cases ended with
  | advanced => exact inv
  | notPrepared | notAuthorized => exact inv.of_same rfl (fun _ => Iff.rfl) fun _ found => found
  | folded transactionId plugged connected prepared authorized _ _ energized =>
      obtain ⟨active, sessions, profiles, -, -⟩ := energized.same
      obtain ⟨-, session, listed, -⟩ := plugged
      have folded := Station.fold_eq connectorId idTag transactionId prepared authorized listed
      refine inv.of_same (active.trans (by rw [folded])) (fun tid => ?_) fun evseId found => ?_
      · rw [sessions, folded]
        by_cases here : tid = transactionId
        · subst here
          simp [listed]
        · rw [AList.lookup_insert_ne here]
      · rwa [profiles, folded] at found
  | notOpened prepared _ _ opening =>
      cases opening with
      | _ => exact inv.of_same rfl (fun _ => Iff.rfl) fun _ found => found
  | opened prepared transactionId u opening _ _ energized =>
      obtain ⟨active, sessions, profiles, -, -⟩ := energized.same
      cases opening with
      | v16jAccepted v16j => rw [v16j] at v201; cases v201
      | v201Accepted => exact inv.insert fresh active sessions profiles

theorem emit {evseId : Int} {newState : ChargingStateEnumType} {triggerReason : TriggerReasonEnumType}
    {outcome : Except OcppError ChargingStateChangeOutcome}
    (ended : EmitOutcome evseId newState triggerReason s outcome t) : Lockstep t := by
  cases ended with
  | inert => exact inv
  | unreported transactionId answer _ _ ended | emitted transactionId live response ended =>
      subst ended
      exact inv.of_same rfl (fun _ => Iff.rfl) fun _ found => found

theorem plug {evseId : Int} {outcome : Except OcppError ChargingStateChangeOutcome}
    (fresh : s.activeTransactions.lookup s.nextV201TransactionId = none)
    (ended : PlugOutcome evseId s outcome t) : Lockstep t := by
  cases ended with
  | untouched => exact inv
  | emit _ _ emits => exact inv.emit emits
  | notOpened => exact inv.of_same rfl (fun _ => Iff.rfl) fun _ found => found
  | opened connectorId here response => exact inv.insert fresh rfl rfl rfl

theorem stop {transactionId meterStop : Int} {reason : Reason} {outcome : Except OcppError Unit}
    (v201 : config.protocolVersion = .v201)
    (completes : ∀ entry ∈ s.made t, entry.2.Fails → ∃ connectorId, entry.1 = available connectorId)
    (ended : StopOutcome config transactionId meterStop reason s outcome t) : Lockstep t := by
  cases ended with
  | unknown => exact inv
  | unclosed connectorId active error _ closing =>
      cases closing with
      | v16jUnanswered v16j => rw [v16j] at v201; cases v201
      | v201Unanswered _ session listed answer _ fails =>
          have made := Station.mem_made_called (s := s) ⟨[], (List.append_nil _).symm⟩
            (s.endedEvent connectorId transactionId session.idTag reason) answer
          obtain ⟨_, last⟩ := completes _ made (Answer.fails_of_error fails)
          cases last
  | unfinished connectorId active u closing answer _ fails =>
      have made := Station.mem_made_called closing.earlier (finishing connectorId) answer
      obtain ⟨_, last⟩ := completes _ made (Answer.fails_of_error fails)
      cases last
  | unavailable connectorId active u closing finished answer =>
      have torn := closing.tornDown config v201
      rw [Station.free_eq]
      refine inv.erase active ?_ torn.sessions torn.profiles
      simp [Station.called, torn.active]
  | stopped connectorId active u closing finished freed _ drained =>
      have torn := closing.tornDown config v201
      obtain ⟨_, _, _, _, rfl⟩ := drained
      rw [Station.free_eq]
      refine inv.erase active ?_ torn.sessions torn.profiles
      simp [Station.called, torn.active]

theorem step {completion : Completion} (v201 : config.protocolVersion = .v201)
    (keeps : KeepsLockstep config rfc s completion)
    (completed : s.complete config rfc completion = some t) : Lockstep t := by
  obtain ⟨drives, condition⟩ := keeps
  have ended := drive_outcome config rfc completed drives
  obtain ⟨call, choices⟩ := completion
  cases call with
  | startTransaction connectorId idTag meterStart =>
      obtain ⟨outcome, ended⟩ := ended
      exact inv.start config v201 condition ended
  | stopTransaction transactionId meterStop reason =>
      obtain ⟨outcome, ended⟩ := ended
      exact inv.stop config v201 (condition t completed) ended
  | plugInCable evseId =>
      obtain ⟨outcome, ended⟩ := ended
      exact inv.plug condition ended
  | transitionChargingState evseId newState =>
      rcases ended with rfl | ⟨outcome, ended⟩
      · exact inv
      · exact inv.emit ended
  | deauthorize idTag =>
      obtain rfl : t = s.deauthorize idTag := ended
      exact inv.of_same rfl (fun _ => Iff.rfl) fun _ found => found
  | v201SetChargingProfile evseId profile =>
      rcases ended with rfl | ⟨rfl, tid, connectorId, active, here⟩
      · exact inv
      · refine ⟨inv.ids, fun evseId' found => ?_⟩
        by_cases same : evseId' = evseId
        · exact ⟨tid, connectorId, active, same.trans here⟩
        · rw [Station.installTxProfile, AList.lookup_insert_ne same] at found
          exact inv.profiles evseId' found
  | v201ClearChargingProfile chargingProfileId criteria =>
      obtain ⟨profiles, rfl, kept⟩ := ended
      exact inv.of_same rfl (fun _ => Iff.rfl) kept
  | _ => exact drives.elim

end Lockstep

theorem lockstep_new : Lockstep Station.new := by
  constructor
  · intro transactionId
    simp [Station.new]
  · intro evseId found
    simp [Station.new] at found

/-- In every run of completed calls in which no stop fails before its last CALL, the transaction map and
the session map have the same ids, and every profile lies on an EVSE with a transaction. -/
theorem completed_calls_lockstep {completions : List Completion} {s : Station}
    (v201 : config.protocolVersion = .v201)
    (along : Along (Station.complete config rfc) (KeepsLockstep config rfc) Station.new completions)
    (ran : run (Station.complete config rfc) Station.new completions = some s) : Lockstep s :=
  run_invariant (fun _ _ _ inv keeps completed => inv.step config rfc v201 keeps completed)
    lockstep_new along ran

/-! ## A stop that fails half-way -/

def startedOnOne : Completion :=
  ⟨.startTransaction 1 "TAG" 0, [.pick none, answered 0, .none, answered 0, .none, .none, .none, .none,
    answered 0, .none]⟩

theorem one_start_lockstep :
    ∃ s, run (Station.complete (simulator .v201) noDates) Station.new [startedOnOne] = some s ∧
      s.activeTransactions.lookup 1 = some 1 ∧ Lockstep s := by
  obtain ⟨s, ran, active⟩ := Option.map_eq_some_iff.mp
    (rfl : (run (Station.complete (simulator .v201) noDates) Station.new [startedOnOne]).map
      (·.activeTransactions.lookup 1) = some (some 1))
  refine ⟨s, ran, active, completed_calls_lockstep (simulator .v201) noDates rfl ?_ ran⟩
  exact ⟨⟨trivial, rfl⟩, fun _ _ => trivial⟩

def unansweredStop : Completion :=
  ⟨.stopTransaction 1 0 .local, [.none, .none, .none, .none, .none, lost]⟩

theorem unansweredStop_breaks_lockstep :
    ∃ s, run (Station.complete (simulator .v201) noDates) Station.new [startedOnOne, unansweredStop] =
      some s ∧ ¬Lockstep s := by
  have reached : (run (Station.complete (simulator .v201) noDates) Station.new
      [startedOnOne, unansweredStop]).map (fun s => (s.activeTransactions.lookup 1,
        (s.v201Sessions.lookup 1).isSome)) = some (some 1, false) := rfl
  obtain ⟨s, ran, found⟩ := Option.map_eq_some_iff.mp reached
  obtain ⟨active, session⟩ := Prod.mk.inj found
  refine ⟨s, ran, fun inv => ?_⟩
  have listed := (inv.ids 1).mp (by simp [active])
  rw [session] at listed
  cases listed

end Ocpp.ChargePoint
