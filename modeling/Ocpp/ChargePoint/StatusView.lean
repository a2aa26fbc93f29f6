import Ocpp.ChargePoint.Boot
import Ocpp.ChargePoint.Connectors
import Ocpp.ChargePoint.Deferred
import Ocpp.ChargePoint.StatusReports

/-!
# The central system's view of the connectors

Resets, boots and the operations that report statuses, one after the other with a central system that accepts every
CALL and every boot. A boot announces every connector as available, whatever its status.
-/

namespace Ocpp.ChargePoint
open Library Library.Program V16j V201

/-! ## Resets -/

/-- A connector that a reset leaves available, or with a report to come: the reset ends every transaction, and
the last stop queues the change of availability that waits for it. -/
def Station.FreedByReset (s : Station) (connectorId : Nat) : Prop :=
  s.status connectorId = .available ∨ s.Live connectorId ∨ s.Awaited connectorId ∨
    ¬s.idle ∧ ∃ pending, s.pendingV201Availability = some pending ∧ pending.Covers connectorId

/-- The same before the slots are drained, when no transaction may be left. -/
def Station.Freeing (s : Station) (connectorId : Nat) : Prop :=
  s.status connectorId = .available ∨ s.Live connectorId ∨ s.Awaited connectorId ∨
    ∃ pending, s.pendingV201Availability = some pending ∧ pending.Covers connectorId

section Reset

variable {config : Config} {s t : Station} {connectorId : Nat}

theorem Station.FreedByReset.freeing (freed : s.FreedByReset connectorId) : s.Freeing connectorId := by
  rcases freed with available | live | awaited | ⟨-, armed⟩
  · exact .inl available
  · exact .inr (.inl live)
  · exact .inr (.inr (.inl awaited))
  · exact .inr (.inr (.inr armed))

/-- Neither a status nor the transactions, the queue or the slot of the availability have changed. -/
def Station.Alike (s t : Station) : Prop :=
  t.status = s.status ∧ t.activeTransactions = s.activeTransactions ∧ t.commands = s.commands ∧
    t.pendingV201Availability = s.pendingV201Availability

theorem Station.Alike.freedByReset (alike : s.Alike t) (freed : s.FreedByReset connectorId) :
    t.FreedByReset connectorId := by
  obtain ⟨status, active, commands, pending⟩ := alike
  simpa only [FreedByReset, Live, Awaited, idle, status, active, commands, pending] using freed

theorem closeOps_alike {op : Op} {choice : Choice} {result : op.Result} {u : Station} (inside : closeOps op)
    (alike : s.Alike t) (performed : exec t op choice = some (result, u)) : s.Alike u := by
  have undeferring : ¬op.Deferring := by
    cases op <;> first | exact inside.elim | exact id
  have unset : ∀ connectorId status, op ≠ .setStatus connectorId status := by
    rintro connectorId status rfl
    exact inside
  rw [exec_effect performed]
  obtain ⟨status, active, commands, pending⟩ := alike
  obtain ⟨active', -, pending', -, commands'⟩ := op.effect_undeferring undeferring choice t
  have status' : (op.effect choice t).status = t.status :=
    funext fun connectorId => op.effect_status (unset connectorId) choice t
  exact ⟨status'.trans status, active'.trans active, commands'.trans commands, pending'.trans pending⟩

theorem closeTransaction_accepted {transactionId meterStop : Int} {reason : Reason} :
    (closeTransaction config connectorId transactionId meterStop reason).wp accepting
      (fun outcome _ => outcome = .ok ()) s := by
  unfold closeTransaction
  cases config.protocolVersion with
  | v16j => exact accepting_call fun _ _ => rfl
  | v201 =>
      refine accepting_act fun _ _ t _ => ?_
      refine accepting_act fun _ _ u _ => ?_
      refine accepting_act fun _ session v _ => ?_
      cases session with
      | none => rfl
      | some session =>
          refine accepting_act fun _ seqNo w _ => ?_
          exact accepting_call fun _ _ => rfl

theorem closeTransaction_alike {transactionId meterStop : Int} {reason : Reason} :
    (closeTransaction config connectorId transactionId meterStop reason).wp accepting
      (fun outcome t => outcome = .ok () ∧ s.Alike t) s := by
  have kept : ∀ t op choice (result : Op.Result op) u, closeOps op → s.Alike t →
      accepting t op choice = some (result, u) → s.Alike u :=
    fun t op choice result u inside alike performed => closeOps_alike inside alike (exec_of_accepting performed)
  have alike := (closeTransaction_within config connectorId transactionId meterStop reason).wp kept ⟨rfl, rfl, rfl, rfl⟩
  exact wp_and closeTransaction_accepted alike

def Station.Settled (s : Station) (connectorId : Nat) : Prop :=
  s.status connectorId = .available ∨ s.Awaited connectorId

theorem enqueue_settled {command : RemoteCommand} (settled : s.Settled connectorId ∨ command.About connectorId) :
    (act (.enqueue command)).wp accepting (fun outcome t => outcome = .ok () ∧ t.Settled connectorId) s := by
  intro choice result t performed
  cases exec_of_accepting performed
  refine ⟨rfl, ?_⟩
  rcases settled with (available | awaited) | about
  · exact .inl available
  · exact .inr (awaited.mono (List.prefix_append s.commands [command]))
  · exact .inr ⟨command, List.mem_append_right s.commands List.mem_cons_self, about⟩

theorem applyDeferred_settled {armed : Option PendingAvailability} (member : connectorId ∈ config.connectors)
    (settled : s.Settled connectorId ∨ ∃ pending, armed = some pending ∧ pending.Covers connectorId) :
    (applyDeferred config armed).wp accepting (fun outcome t => outcome = .ok () ∧ t.Settled connectorId) s := by
  cases armed with
  | none =>
      rcases settled with already | ⟨pending, none, -⟩
      · exact ⟨rfl, already⟩
      · cases none
  | some pending =>
      -- the connector is settled once its own command is queued
      have each : ∀ target rest s, s.Settled connectorId ∨ connectorId ∈ target :: rest →
          (act (.enqueue (.v201ApplyAvailability target pending.target (some pending.number)))).wp accepting
            (fun outcome t => outcome = .ok () ∧ (t.Settled connectorId ∨ connectorId ∈ rest)) s := by
        intro target rest s left
        have queued : s.Settled connectorId ∨ target = connectorId → (act (.enqueue
            (.v201ApplyAvailability target pending.target (some pending.number)))).wp accepting
              (fun outcome t => outcome = .ok () ∧ (t.Settled connectorId ∨ connectorId ∈ rest)) s :=
          fun settled => wp_mono (fun _ _ ended => ⟨ended.1, .inl ended.2⟩) (enqueue_settled settled)
        rcases left with settled | here
        · exact queued (.inl settled)
        rcases List.mem_cons.mp here with same | later
        · exact queued (.inr same.symm)
        · intro choice result t performed
          cases exec_of_accepting performed
          exact ⟨rfl, .inr later⟩
      have start : s.Settled connectorId ∨ connectorId ∈ deferredTargets config pending.evseId := by
        refine settled.imp_right ?_
        rintro ⟨_, ⟨⟩, covered⟩
        exact mem_deferredTargets config member covered
      have looped := wp_forM_rest (fun rest (s : Station) => s.Settled connectorId ∨ connectorId ∈ rest) each _ start
      exact wp_mono (fun _ _ ended => ⟨ended.1, ended.2.resolve_right List.not_mem_nil⟩) looped

theorem Station.not_live_of_idle (idle : s.idle) : ¬s.Live connectorId := by
  rintro ⟨transactionId, active⟩
  have none : s.activeTransactions.entries = [] := List.isEmpty_iff.mp idle
  have listed := HashMap.mem_entries.mpr active
  rw [none] at listed
  cases listed

/-- Draining queues the change of availability once no transaction is left. -/
theorem drainDeferred_frees (member : connectorId ∈ config.connectors) (freeing : s.Freeing connectorId) :
    (drainDeferred config).wp accepting (fun _ t => t.FreedByReset connectorId) s := by
  apply accepting_act
  intro choice armed t performed
  by_cases idle : s.idle
  · have taken : exec s .takeIfIdle choice = some ((s.pendingV201Reset, s.pendingV201Availability), s.takeSlots) := by
      simp [exec, idle]
    rw [taken] at performed
    cases performed
    -- no transaction is left to make the connector available, so what was armed has to be queued
    have settled : s.takeSlots.Settled connectorId ∨
        ∃ pending, s.pendingV201Availability = some pending ∧ pending.Covers connectorId := by
      rcases freeing with available | live | awaited | covered
      · exact .inl (.inl available)
      · exact absurd live (Station.not_live_of_idle idle)
      · exact .inl (.inr awaited)
      · exact .inr covered
    refine wp_seq (applyDeferred_settled member settled) (by simp) fun _ t ended => ?_
    have queued : (resetDeferred s.pendingV201Reset).wp accepting
        (fun outcome t => outcome = .ok () ∧ t.Settled connectorId) t := by
      cases s.pendingV201Reset with
      | none => exact ended
      | some resetType => exact enqueue_settled (.inl ended.2)
    refine wp_mono (fun _ t ended => ?_) queued
    exact ended.2.imp_right fun awaited => .inr (.inl awaited)
  · have left : exec s .takeIfIdle choice = some ((none, none), s) := by
      simp [exec, idle]
    rw [left] at performed
    cases performed
    rcases freeing with available | live | awaited | covered
    · exact .inl available
    · exact .inr (.inl live)
    · exact .inr (.inr (.inl awaited))
    · exact .inr (.inr (.inr ⟨idle, covered⟩))

theorem Station.Freeing.free {transactionId : Int} {freed : Nat}
    (active : s.activeTransactions.lookup transactionId = some freed) (member : connectorId ∈ config.connectors)
    (freeing : s.Freeing connectorId) : (s.free config freed transactionId).Freeing connectorId := by
  rw [Station.free_eq]
  by_cases here : connectorId = freed
  · subst here
    refine .inl ?_
    simp [member]
  have status : (if freed ∈ config.connectors then Function.update s.status freed .available else s.status)
      connectorId = s.status connectorId := by
    split_ifs
    · exact Function.update_of_ne here _ s.status
    · rfl
  rcases freeing with available | ⟨other, running⟩ | awaited | armed
  · exact .inl (status.trans available)
  · refine .inr (.inl ⟨other, ?_⟩)
    have elsewhere : other ≠ transactionId := by
      rintro rfl
      exact here (Option.some.inj (running.symm.trans active))
    rw [AList.lookup_erase_ne elsewhere, running]
  · exact .inr (.inr (.inl awaited))
  · exact .inr (.inr (.inr armed))

theorem drainDeferred_active :
    (drainDeferred config).wp accepting (fun _ t => t.activeTransactions = s.activeTransactions) s := by
  have kept : ∀ t op choice (result : Op.Result op) u, drainOps op → t.activeTransactions = s.activeTransactions →
      accepting t op choice = some (result, u) → u.activeTransactions = s.activeTransactions := by
    intro t op choice result u inside same performed
    rw [exec_effect (exec_of_accepting performed), op.effect_activeTransactions]
    cases op <;> first | exact inside.elim | exact same
  exact (drainDeferred_within config).wp kept rfl

/-- The transaction has ended and no other has started, and what a reset frees is still to be freed or free. -/
def Station.Stopped (config : Config) (transactionId : Int) (s t : Station) : Prop :=
  (∀ other connectorId, t.activeTransactions.lookup other = some connectorId →
    s.activeTransactions.lookup other = some connectorId ∧ other ≠ transactionId) ∧
  ∀ connectorId ∈ config.connectors, s.FreedByReset connectorId → t.FreedByReset connectorId

theorem stopTransaction_stopped {transactionId meterStop : Int} {reason : Reason} :
    (stopTransaction config transactionId meterStop reason).wp accepting
      (fun _ t => s.Stopped config transactionId t) s := by
  apply accepting_act
  intro choice found t performed
  cases performed
  cases active : s.activeTransactions.lookup transactionId with
  | none =>
      refine ⟨fun other connectorId running => ⟨running, ?_⟩, fun _ _ freed => freed⟩
      rintro rfl
      rw [active] at running
      cases running
  | some freed =>
      refine wp_seq closeTransaction_alike (by simp) ?_
      rintro _ u ⟨-, alike⟩
      apply accepting_notify
      intro finished
      apply accepting_act
      intro choice result v stopped
      apply accepting_act
      intro choice result w removed
      cases stopped
      cases removed
      have report : ∀ x, x = (u.called (finishing freed) (.replied finished)).free config freed transactionId → (do
          sendStatusNotification freed .available
          drainDeferred config : Async Unit).wp accepting (fun _ t => s.Stopped config transactionId t) x := by
        rintro _ rfl
        apply accepting_notify
        intro told
        apply wp_and
        · refine wp_mono (fun outcome t same other connectorId running => ?_) drainDeferred_active
          rw [same, Station.called, Station.free_eq, Station.called, alike.2.1] at running
          obtain ⟨different, before⟩ := HashMap.lookup_erase_eq_some.mp running
          exact ⟨before, different⟩
        · refine wp_forall fun connectorId => wp_forall fun member => wp_forall fun freedByReset => ?_
          apply drainDeferred_frees member
          have freeing : (u.called (finishing freed) (.replied finished)).Freeing connectorId :=
            (alike.freedByReset freedByReset).freeing
          exact freeing.free (alike.2.1 ▸ active) member
      apply wp_onlyIf
      · intro known
        apply accepting_act
        intro choice result x set
        cases set
        exact report _ (if_pos (of_decide_eq_true known)).symm
      · intro unknown
        exact report _ (if_neg fun known => unknown (decide_eq_true known)).symm

theorem Station.FreedByReset.settled (ended : ∀ tid, s.activeTransactions.lookup tid = none)
    (freed : s.FreedByReset connectorId) : s.Settled connectorId := by
  rcases freed with available | ⟨tid, live⟩ | awaited | ⟨busy, -⟩
  · exact .inl available
  · rw [ended tid] at live
    cases live
  · exact .inr awaited
  · refine absurd ?_ busy
    apply List.isEmpty_iff.mpr
    apply List.eq_nil_iff_forall_not_mem.mpr
    rintro ⟨tid, target⟩ listed
    have running := HashMap.mem_entries.mp listed
    rw [ended tid] at running
    cases running

/-- While some transactions are left to stop, no other runs. -/
def Station.Stopping (config : Config) (rest : List (Int × Nat)) (s : Station) : Prop :=
  (∀ tid connectorId, s.activeTransactions.lookup tid = some connectorId → tid ∈ rest.map (·.1)) ∧
    ∀ connectorId ∈ config.connectors, s.FreedByReset connectorId

theorem Station.Stopping.stopped {target : Int × Nat} {rest : List (Int × Nat)}
    (stopping : s.Stopping config (target :: rest)) (stopped : s.Stopped config target.1 t) :
    t.Stopping config rest := by
  refine ⟨fun tid connectorId running => ?_, fun connectorId member => ?_⟩
  · obtain ⟨before, other⟩ := stopped.1 tid connectorId running
    exact (List.mem_cons.mp (stopping.1 tid connectorId before)).resolve_left other
  · exact stopped.2 connectorId member (stopping.2 connectorId member)

theorem performReset_settled {resetType : ResetType}
    (freed : ∀ connectorId ∈ config.connectors, s.FreedByReset connectorId) :
    (performReset config resetType).wp accepting
      (fun outcome t => outcome = .ok () ∧ ∀ connectorId ∈ config.connectors, t.Settled connectorId) s := by
  apply accepting_act
  intro choice result t performed
  cases performed
  apply accepting_act
  intro choice entries t performed
  have listed : t = { s with pendingV201Reset := none } ∧ Station.orders entries s.activeTransactions := by
    cases choice with
    | order ordered =>
        obtain ⟨orders, same⟩ := Option.ite_none_right_eq_some.mp performed
        cases same
        exact ⟨rfl, orders⟩
    | _ => cases performed
  obtain ⟨rfl, orders⟩ := listed
  -- every transaction that runs is in the list, and a stop starts none
  have start : Station.Stopping config entries { s with pendingV201Reset := none } := by
    refine ⟨fun tid connectorId running => ?_, freed⟩
    have member : (tid, connectorId) ∈ entries :=
      (List.isPerm_iff.mp orders).mem_iff.mpr (List.mem_map_of_mem (HashMap.mem_entries.mpr running))
    exact List.mem_map_of_mem member
  have each : ∀ (reason : Reason) (target : Int × Nat) rest u, Station.Stopping config (target :: rest) u → (do
      let _ ← (stopTransaction config target.1 0 reason).attempt : Async Unit).wp accepting
        (fun outcome t => outcome = .ok () ∧ t.Stopping config rest) u := by
    intro reason target rest u stopping
    rw [wp_bind, wp_attempt]
    exact wp_mono (fun _ _ stopped => ⟨rfl, stopping.stopped stopped⟩) stopTransaction_stopped
  refine wp_seq (wp_forM_rest (Station.Stopping config) (each _) entries start) (by simp) ?_
  rintro _ u ⟨-, ended, freed⟩ choice result v performed
  have settled : ∀ connectorId ∈ config.connectors, u.Settled connectorId := by
    intro connectorId member
    apply (freed connectorId member).settled
    intro tid
    cases running : u.activeTransactions.lookup tid with
    | none => rfl
    | some target => cases ended tid target running
  cases exec_of_accepting performed
  exact ⟨rfl, settled⟩

end Reset

/-! ## Boots -/

def HostChoice.accepts : HostChoice → Bool
  | .none => true
  | .station choice => choice.accepts
  | .connect (.ok _) => true
  | .connect (.error _) => false
  | .boot (.ok response) => response.status = .accepted
  | .boot (.error _) => false

/-- The operations of a host that connects whenever it tries, and whose boots and CALLs are all accepted. -/
def hostAccepting : Host → (op : HostOp) → HostChoice → Option (op.Result × Host) :=
  restrict HostChoice.accepts hostExec

section Boots

variable {config : Config} {maxBootRetries : Nat} {h : Host}

theorem wp_onStation {α : Type} {p : Async α} {post : Except HostError α → Host → Prop}
    (holds : p.wp accepting (fun outcome t => ∀ h : Host, h.station = t → post (outcome.mapError .ocpp) h) h.station) :
    (onStation p).wp hostAccepting post h := by
  induction p generalizing h with
  | ret value => exact holds h rfl
  | fail error => exact holds h rfl
  | perform op next ih =>
      intro choice result t performed
      obtain ⟨accepted, performed⟩ := Option.ite_none_right_eq_some.mp performed
      obtain ⟨choice, station, rfl, executed, rfl⟩ := hostExec_station performed
      have performed : accepting h.station op choice = some (result, station) := (if_pos accepted).trans executed
      exact ih result (holds choice result station performed)

/-- The statuses and the queue are as before, and the connectors not left to announce reported as available. -/
def Station.Announcing (config : Config) (s : Station) (rest : List Nat) (t : Station) : Prop :=
  t.status = s.status ∧ t.commands = s.commands ∧
    ∀ connectorId ∈ config.connectors, connectorId ∈ rest ∨ t.reported connectorId = some .available

theorem announce_step {s u : Station} {connectorId : Nat} {rest : List Nat}
    (announcing : s.Announcing config (connectorId :: rest) u) :
    (sendStatusNotification connectorId .available).wp accepting
      (fun outcome t => outcome = .ok () ∧ s.Announcing config rest t) u := by
  apply accepting_call
  intro response _
  obtain ⟨status, commands, told⟩ := announcing
  refine ⟨rfl, status, commands, fun target member => ?_⟩
  by_cases here : target = connectorId
  · subst here
    exact .inr (u.reported_of_told target .available response)
  · refine (told target member).imp (fun later => (List.mem_cons.mp later).resolve_left here) fun reported => ?_
    have unsaid : notified target (.statusNotification connectorId .available, .replied response) = none :=
      if_neg fun same => here same.1.symm
    rw [Station.reported_called, unsaid, Option.none_or, reported]

theorem announceConnectorsAvailable_reported {s : Station} :
    (announceConnectorsAvailable config).wp accepting
      (fun outcome t => outcome = .ok () ∧ s.Announcing config [] t) s := by
  have start : s.Announcing config (announcedConnectors config) s := by
    refine ⟨rfl, rfl, fun connectorId member => .inl ?_⟩
    unfold announcedConnectors
    cases config.protocolVersion with
    | v16j => exact List.mem_cons_of_mem 0 member
    | v201 => exact member
  exact wp_forM_rest (s.Announcing config) (fun _ _ _ announcing => announce_step announcing) _ start

theorem Station.Announcing.view {s t : Station} (announced : s.Announcing config [] t)
    (settled : ∀ connectorId ∈ config.connectors, s.Settled connectorId) : View config none t := by
  obtain ⟨status, commands, told⟩ := announced
  intro connectorId member _
  rcases settled connectorId member with available | awaited
  · refine .inl ?_
    rw [status, available]
    exact (told connectorId member).resolve_left List.not_mem_nil
  · exact .inr (awaited.mono (commands ▸ List.prefix_rfl))

theorem bootSequence_view (settled : ∀ connectorId ∈ config.connectors, h.station.Settled connectorId) :
    (bootSequence config maxBootRetries).wp hostAccepting (fun _ t => View config none t.station) h := by
  have attempt : ∀ rejected,
      (bootAttempt config rejected).wp hostAccepting (fun _ t => View config none t.station) h := by
    intro rejected choice answer t performed
    obtain ⟨accepted, performed⟩ := Option.ite_none_right_eq_some.mp performed
    obtain ⟨rfl, rfl⟩ := hostExec_bootNotification performed
    cases answer with
    | error error => cases accepted
    | ok response =>
        obtain ⟨status, interval⟩ := response
        cases of_decide_eq_true accepted
        intro choice result u performed
        obtain ⟨-, performed⟩ := Option.ite_none_right_eq_some.mp performed
        obtain ⟨rfl, rfl⟩ := hostExec_setRegistrationStatus performed
        have told : (onStation (announceConnectorsAvailable config)).wp hostAccepting
            (fun outcome t => outcome = .ok () ∧ View config none t.station)
            { t with registrationStatus := .accepted } := by
          apply wp_onStation
          refine wp_mono ?_ announceConnectorsAvailable_reported
          rintro _ _ ⟨rfl, announced⟩ u rfl
          exact ⟨rfl, announced.view settled⟩
        change (onStation (announceConnectorsAvailable config) >>= fun _ =>
          perform (.startHeartbeat (max interval 1))).wp hostAccepting _ _
        refine wp_seq told (by simp) ?_
        rintro _ u ⟨-, view⟩ choice result v performed
        obtain ⟨-, performed⟩ := Option.ite_none_right_eq_some.mp performed
        obtain ⟨rfl, rfl⟩ := hostExec_startHeartbeat performed
        exact view
  cases maxBootRetries with
  | zero => exact attempt _
  | succ retries => exact attempt _

theorem establishSession_view (settled : ∀ connectorId ∈ config.connectors, h.station.Settled connectorId) :
    (establishSession config maxBootRetries).wp hostAccepting (fun _ t => View config none t.station) h := by
  intro choice result t performed
  obtain ⟨accepted, performed⟩ := Option.ite_none_right_eq_some.mp performed
  obtain ⟨rfl, client, rfl⟩ := hostExec_newClient performed
  cases result with
  | error message => cases accepted
  | ok connected => exact bootSequence_view settled

theorem connect_view (settled : ∀ connectorId ∈ config.connectors, h.station.Settled connectorId) :
    (connect config maxBootRetries).wp hostAccepting (fun _ t => View config none t.station) h := by
  intro choice result t performed
  obtain ⟨-, performed⟩ := Option.ite_none_right_eq_some.mp performed
  have same : t.station = h.station := by
    cases choice <;> cases performed
    split_ifs <;> rfl
  exact establishSession_view (same ▸ settled)

theorem reconnect_view (settled : ∀ connectorId ∈ config.connectors, h.station.Settled connectorId) :
    (do disconnect; connect config maxBootRetries : Hosted Unit).wp hostAccepting
      (fun _ t => View config none t.station) h := by
  intro choice result t performed
  obtain ⟨-, performed⟩ := Option.ite_none_right_eq_some.mp performed
  have same : t.station = h.station := by
    cases choice <;> cases performed
    rfl
  exact connect_view (same ▸ settled)

theorem Host.abortHeartbeat_station : h.abortHeartbeat.station = h.station := by
  unfold Host.abortHeartbeat
  split <;> rfl

theorem resetAndBoot_view {resetType : ResetType}
    (freed : ∀ connectorId ∈ config.connectors, h.station.FreedByReset connectorId) :
    (resetAndBoot config maxBootRetries resetType).wp hostAccepting (fun _ t => View config none t.station) h := by
  have reset : (onStation (performReset config resetType)).wp hostAccepting (fun outcome t => outcome = .ok () ∧
      ∀ connectorId ∈ config.connectors, t.station.Settled connectorId) h := by
    apply wp_onStation
    refine wp_mono ?_ (performReset_settled freed)
    rintro _ _ ⟨rfl, settled⟩ t rfl
    exact ⟨rfl, settled⟩
  refine wp_seq reset (by simp) ?_
  rintro _ t ⟨-, settled⟩ choice result u performed
  obtain ⟨-, performed⟩ := Option.ite_none_right_eq_some.mp performed
  have aborted : u.station = t.station := by
    cases choice <;> cases performed
    exact Host.abortHeartbeat_station
  rw [← aborted] at settled
  cases resetType with
  | soft =>
      change ((bootSequence config maxBootRetries).attempt >>= fun _ => Program.ret ()).wp hostAccepting _ u
      rw [wp_bind, wp_attempt]
      exact bootSequence_view settled
  | hard =>
      intro choice result v performed
      obtain ⟨-, performed⟩ := Option.ite_none_right_eq_some.mp performed
      have dropped : v.station = u.station := by
        cases choice <;> cases performed
        rfl
      change ((establishSession config maxBootRetries).attempt >>= fun _ => Program.ret ()).wp hostAccepting _ v
      rw [wp_bind, wp_attempt]
      exact establishSession_view (dropped ▸ settled)

end Boots

/-! ## Runs -/

/-- A call of the host or of the central system, a command of the queue, or a session that is dropped and taken up
again, with what the environment decides about it. -/
inductive Operation
  | call (called : Call) (choices : List HostChoice)
  | command (choices : List HostChoice)
  | reconnect (choices : List HostChoice)

def Operation.choices : Operation → List HostChoice
  | call _ choices | command choices | reconnect choices => choices

def Call.changesStatus : Call → Bool
  | startTransaction .. | stopTransaction .. | v16jReset _ | v201Reset _ | v201ChangeAvailability ..
  | v16jReserveNow .. | v201ReserveNow .. | cancelReservation _ | expire .. => true
  | _ => false

section Runs

variable (config : Config) (rfc : Rfc3339) (maxBootRetries : Nat)

def RemoteCommand.consume : RemoteCommand → Hosted Unit
  | reset resetType => resetAndBoot config maxBootRetries resetType
  | command => onStation (command.run config)

def Operation.start (h : Host) : Operation → Option (Hosted Unit × Host)
  | call called _ =>
      if called.changesStatus then
        (called.start config rfc h.station 1).map fun (p, station) => (onStation p, { h with station })
      else none
  | command _ =>
      match h.station.commands with
      | next :: rest =>
          if h.commandConsumer then
            some (next.consume config maxBootRetries, { h with station := { h.station with commands := rest } })
          else none
      | [] => none
  | reconnect _ => some (do disconnect; connect config maxBootRetries, h)

/-- An operation run to its end, with every CALL and every boot accepted. -/
def Host.operate (h : Host) (operation : Operation) : Option Host :=
  if operation.choices.all HostChoice.accepts then
    (operation.start config rfc maxBootRetries h).bind fun (p, h) =>
      (p.eval hostExec operation.choices h).map (·.2)
  else none

/-- A queued report is still true when it is made, and a boot finds every connector available; either way a
report can be still to come. -/
def Timely (h : Host) : Operation → Prop
  | .call _ _ => True
  | .command _ =>
      match h.station.commands with
      | .emitConnectorStatus connectorId status :: rest =>
          connectorId ∈ config.connectors →
            h.station.status connectorId = status ∨ ∃ command ∈ rest, command.About connectorId
      | .reset _ :: rest => ∀ connectorId ∈ config.connectors,
          { h.station with commands := rest }.FreedByReset connectorId
      | _ => True
  | .reconnect _ => ∀ connectorId ∈ config.connectors, h.station.Settled connectorId

variable {config rfc maxBootRetries} {h t : Host}

theorem onStation_view {p : Async Unit} (holds : p.wp accepting (fun _ t => View config none t) h.station) :
    (onStation p).wp hostAccepting (fun _ t => View config none t.station) h := by
  apply wp_onStation
  refine wp_mono (fun outcome t view u same => ?_) holds
  exact same ▸ view

theorem discard_view {α : Type} {p : Async α} {s : Station} (holds : p.wp accepting (fun _ t => View config none t) s) :
    (do let _ ← p : Async Unit).wp accepting (fun _ t => View config none t) s :=
  wp_seq holds (fun _ _ ended => ended) fun _ _ ended => ended

theorem Call.run_view {s : Station} {call : Call} (listed : call.changesStatus) (view : View config none s) :
    (call.run config rfc).wp accepting (fun _ t => View config none t) s := by
  cases call with
  | startTransaction connectorId idTag meterStart => exact discard_view (startTransactionWithRemoteStartId_view view)
  | stopTransaction transactionId meterStop reason => exact stopTransaction_view view
  | v16jReset resetType =>
      exact discard_view (view.within ((v16jReset_within resetType).mono (by rintro _ rfl; exact fun _ => id)))
  | v201Reset kind =>
      refine discard_view (view.within ((v201Reset_within kind).mono fun op inside => ?_))
      cases op <;> first | exact inside.elim | exact fun _ => id
  | v201ChangeAvailability evseId target =>
      refine discard_view (view.within ((v201ChangeAvailability_within config evseId target).mono fun op inside => ?_))
      cases op <;> first | exact inside.elim | exact fun _ => id
  | v16jReserveNow now req => exact discard_view (v16jReserveNow_view view)
  | v201ReserveNow now req => exact discard_view (v201ReserveNow_view view)
  | cancelReservation reservationId => exact discard_view (cancelReservationRequest_view view)
  | expire handle timer => exact expireReservation_view view
  | _ => cases listed

theorem triggerV201TransactionEvent_unconcerned (evseId : Option Int) :
    (triggerV201TransactionEvent config evseId).Within fun op => ∀ connectorId, ¬op.Concerns connectorId := by
  refine (within_act fun _ => id).bind fun active => ?_
  refine Within.forM (fun target => ?_) _
  refine (within_act fun _ => id).bind fun claimed => ?_
  cases claimed with
  | none => trivial
  | some seqNo =>
      dsimp only
      split_ifs
      · exact (within_call fun _ => id).attempt.bind fun _ => trivial
      · trivial

theorem View.pop {s : Station} {next : RemoteCommand} {rest : List RemoteCommand} {excepted : Option Nat}
    (queue : s.commands = next :: rest) (only : ∀ connectorId, next.About connectorId → some connectorId = excepted)
    (view : View config none s) : View config excepted { s with commands := rest } := by
  intro connectorId member other
  rcases view connectorId member (Option.some_ne_none connectorId) with told | ⟨command, queued, about⟩
  · exact .inl told
  · rw [queue] at queued
    rcases List.mem_cons.mp queued with rfl | later
    · exact absurd (only connectorId about) other
    · exact .inr ⟨command, later, about⟩

theorem RemoteCommand.consume_view {next : RemoteCommand} {rest : List RemoteCommand} {choices : List HostChoice}
    (queue : h.station.commands = next :: rest) (timely : Timely config h (.command choices))
    (view : View config none h.station) :
    (next.consume config maxBootRetries).wp hostAccepting (fun _ t => View config none t.station)
      { h with station := { h.station with commands := rest } } := by
  unfold Timely at timely
  rw [queue] at timely
  cases next with
  | reset resetType => exact resetAndBoot_view timely
  | startTransaction connectorId idTag remoteStartId chargingProfile groupIdToken =>
      exact onStation_view (discard_view (startTransactionWithRemoteStartId_view (view.pop queue fun _ => False.elim)))
  | stopTransaction transactionId => exact onStation_view (stopTransaction_view (view.pop queue fun _ => False.elim))
  | v201TriggerTransactionEvent evseId =>
      exact onStation_view ((view.pop queue fun _ => False.elim).within (triggerV201TransactionEvent_unconcerned evseId))
  | v201ReservationStatusUpdate reservationId status =>
      apply onStation_view
      exact (view.pop queue fun _ => False.elim).call (fun _ => id) fun _ t _ view => view
  | emitConnectorStatus connectorId status =>
      have opened : View config (some connectorId) { h.station with commands := rest } :=
        view.pop queue fun target about => congrArg some about.symm
      exact onStation_view (wp_mono (fun _ _ ended => ended.2) (opened.tell timely))
  | v201ApplyAvailability connectorId target scheduled =>
      have opened : View config (some connectorId) { h.station with commands := rest } :=
        view.pop queue fun target about => congrArg some about.symm
      exact onStation_view (applyV201Availability_view opened)

theorem Call.start_changesStatus {s u : Station} {task : Nat} {call : Call} {p : Async Unit}
    (listed : call.changesStatus) (started : call.start config rfc s task = some (p, u)) :
    p = call.run config rfc ∧ ∃ timers, u = { s with timers } := by
  have permitted := (Option.ite_none_left_eq_some.mp started).2
  cases call <;> first
    | exact absurd listed Bool.false_ne_true
    | obtain ⟨rfl, rfl⟩ := Prod.mk.inj (Option.some.inj (Option.ite_none_right_eq_some.mp permitted).2)
      exact ⟨rfl, _, rfl⟩

theorem operate_view {operation : Operation} (timely : Timely config h operation) (view : View config none h.station)
    (operated : h.operate config rfc maxBootRetries operation = some t) : View config none t.station := by
  obtain ⟨accepted, operated⟩ := Option.ite_none_right_eq_some.mp operated
  obtain ⟨⟨p, u⟩, started, ran⟩ := Option.bind_eq_some_iff.mp operated
  obtain ⟨⟨outcome, t'⟩, ended, rfl⟩ := Option.map_eq_some_iff.mp ran
  have holds : p.wp hostAccepting (fun _ t => View config none t.station) u := by
    cases operation with
    | call called choices =>
        obtain ⟨listed, started⟩ := Option.ite_none_right_eq_some.mp started
        obtain ⟨⟨p', station⟩, starts, same⟩ := Option.map_eq_some_iff.mp started
        cases same
        obtain ⟨rfl, timers, rfl⟩ := Call.start_changesStatus listed starts
        exact onStation_view (Call.run_view listed view)
    | command choices =>
        simp only [Operation.start] at started
        split at started
        · next command rest queue =>
            obtain ⟨-, same⟩ := Option.ite_none_right_eq_some.mp started
            cases same
            exact RemoteCommand.consume_view queue timely view
        · cases started
    | reconnect choices =>
        cases started
        exact reconnect_view timely
  rw [← eval_restrict (List.all_eq_true.mp accepted)] at ended
  exact post_of_eval holds ended

/-- In every run whose operations are timely the last report of each connector is true whenever the queue is empty. -/
theorem reported_status_held {choices : List HostChoice} {outcome : Except HostError Unit} {operations : List Operation}
    (accepted : choices.all HostChoice.accepts)
    (connected : (connect config maxBootRetries).eval hostExec choices .new = some (outcome, h))
    (timely : Along (Host.operate config rfc maxBootRetries) (Timely config) h operations)
    (ran : run (Host.operate config rfc maxBootRetries) h operations = some t)
    (empty : t.station.commands = []) :
    ∀ connectorId ∈ config.connectors, t.station.reported connectorId = some (t.station.status connectorId) := by
  have start : View config none h.station := by
    rw [← eval_restrict (List.all_eq_true.mp accepted)] at connected
    exact post_of_eval (connect_view fun _ _ => .inl rfl) connected
  have view : View config none t.station :=
    run_invariant (fun h operation u view timely operated => operate_view timely view operated) start timely ran
  intro connectorId member
  rcases view connectorId member (Option.some_ne_none connectorId) with told | ⟨command, queued, -⟩
  · exact told
  · rw [empty] at queued
    cases queued

end Runs

/-! ## A true and a false view -/

def bootAccepted : List HostChoice :=
  [.boot (.ok ⟨.accepted, 300⟩), .none] ++ List.replicate 3 (.station (answered 0)) ++ [.none]

/-- A 1.6J station with two connectors connects. -/
def sessionAccepted : List HostChoice :=
  [.none, .connect (.ok ())] ++ bootAccepted

def reservedAndReported : List Operation :=
  [.call (.v16jReserveNow ⟨0⟩ ⟨1, ⟨60⟩, "TAG", 5⟩) (List.replicate 7 (.station .none)),
    .command [.station (answered 0)]]

def startedOnReserved : Operation :=
  .call (.startTransaction 1 "TAG" 0)
    ([.pick none, answered 0, answered 7, .none, .none, .none, .none, answered 0, .none].map .station)

def softReset : Operation :=
  .call (.v16jReset .soft) [.station .none]

def softResetRuns (stops : List Choice) : Operation :=
  .command (stops.map .station ++ .none :: bootAccepted)

instance (pending : PendingAvailability) (connectorId : Nat) : Decidable (pending.Covers connectorId) :=
  inferInstanceAs (Decidable (∀ evse ∈ pending.evseId, evse = connectorId))

instance (s : Station) (connectorId : Nat) : Decidable (s.Live connectorId) :=
  decidable_of_iff (∃ e ∈ s.activeTransactions.entries, e.2 = connectorId) <| by
    constructor
    · rintro ⟨⟨tid, target⟩, member, rfl⟩
      exact ⟨tid, HashMap.mem_entries.mp member⟩
    · rintro ⟨tid, found⟩
      exact ⟨⟨tid, connectorId⟩, HashMap.mem_entries.mpr found, rfl⟩

instance (s : Station) (connectorId : Nat) : Decidable (s.Awaited connectorId) :=
  inferInstanceAs (Decidable (∃ command ∈ s.commands, command.About connectorId))

instance (s : Station) (connectorId : Nat) : Decidable (s.Settled connectorId) :=
  inferInstanceAs (Decidable (_ ∨ _))

instance (s : Station) (connectorId : Nat) : Decidable (s.FreedByReset connectorId) :=
  decidable_of_iff (s.status connectorId = .available ∨ s.Live connectorId ∨ s.Awaited connectorId ∨
    ¬s.idle ∧ s.pendingV201Availability.any fun pending => pending.Covers connectorId) <| by
    simp [Station.FreedByReset, Option.any_eq_true]

instance (config : Config) (h : Host) : DecidablePred (Timely config h)
  | .call _ _ => isTrue trivial
  | .command _ =>
      match queue : h.station.commands with
      | .emitConnectorStatus connectorId status :: rest =>
          decidable_of_iff (connectorId ∈ config.connectors →
            h.station.status connectorId = status ∨ ∃ command ∈ rest, command.About connectorId) <| by
              simp [Timely, queue]
      | .reset _ :: rest =>
          decidable_of_iff (∀ connectorId ∈ config.connectors,
            { h.station with commands := rest }.FreedByReset connectorId) <| by
              simp [Timely, queue]
      | .startTransaction .. :: _ | .stopTransaction _ :: _ | .v201TriggerTransactionEvent _ :: _
      | .v201ReservationStatusUpdate .. :: _ | .v201ApplyAvailability .. :: _ | [] =>
          isTrue (by simp [Timely, queue])
  | .reconnect _ => inferInstanceAs (Decidable (∀ connectorId ∈ config.connectors, h.station.Settled connectorId))

def chargedAndReset : List Operation :=
  reservedAndReported ++ [startedOnReserved, softReset, softResetRuns
    [.none, .order [(7, 1)], .none, answered 0, answered 0, .none, .none, .none, answered 0, .none, .none]]

theorem charged_and_reset_reported : ∃ h t,
    (connect (simulator .v16j) 3).eval hostExec sessionAccepted .new = some (.ok (), h) ∧
      run (Host.operate (simulator .v16j) noDates 3) h chargedAndReset = some t ∧ t.station.commands = [] ∧
      ∀ connectorId ∈ [1, 2], t.station.reported connectorId = some (t.station.status connectorId) := by
  have works : ((connect (simulator .v16j) 3).eval hostExec sessionAccepted .new).any fun (outcome, h) =>
      outcome.isOk ∧ checkAlong (Host.operate (simulator .v16j) noDates 3)
        (fun h operation => Timely (simulator .v16j) h operation) h chargedAndReset ∧
        (run (Host.operate (simulator .v16j) noDates 3) h chargedAndReset).any fun t =>
          t.station.commands.isEmpty := by decide
  obtain ⟨⟨outcome, h⟩, connected, checked⟩ := (Option.any_eq_true _ _).mp works
  obtain ⟨ok, timely, ended⟩ := of_decide_eq_true checked
  obtain ⟨t, ran, empty⟩ := (Option.any_eq_true _ _).mp ended
  have along : Along (Host.operate (simulator .v16j) noDates 3) (Timely (simulator .v16j)) h chargedAndReset :=
    .of_check (fun _ => True) _ (fun _ _ _ met => of_decide_eq_true met) (fun _ _ _ _ _ _ => trivial) trivial timely
  cases outcome with
  | error error => cases ok
  | ok value =>
      have empty := List.isEmpty_iff.mp empty
      refine ⟨h, t, connected, ran, empty, ?_⟩
      exact reported_status_held (by decide) connected along ran empty

/-- A soft reset of an idle station announces the reserved connector as available. -/
theorem reserved_announced_available : ∃ h t,
    sessionAccepted.all HostChoice.accepts ∧
      (connect (simulator .v16j) 3).eval hostExec sessionAccepted .new = some (.ok (), h) ∧
      run (Host.operate (simulator .v16j) noDates 3) h
        (reservedAndReported ++ [softReset, softResetRuns [.none, .order [], .none]]) = some t ∧
      t.station.commands = [] ∧ t.station.status 1 = .reserved ∧ t.station.reported 1 = some .available := by
  have works : ((connect (simulator .v16j) 3).eval hostExec sessionAccepted .new).any fun (outcome, h) =>
      outcome.isOk ∧ (run (Host.operate (simulator .v16j) noDates 3) h
        (reservedAndReported ++ [softReset, softResetRuns [.none, .order [], .none]])).any fun t =>
          t.station.commands.isEmpty ∧ t.station.status 1 = .reserved ∧
            t.station.reported 1 = some .available := by decide
  obtain ⟨⟨outcome, h⟩, connected, checked⟩ := (Option.any_eq_true _ _).mp works
  obtain ⟨ok, ended⟩ := of_decide_eq_true checked
  obtain ⟨t, ran, told⟩ := (Option.any_eq_true _ _).mp ended
  obtain ⟨empty, held, reported⟩ := of_decide_eq_true told
  cases outcome with
  | error error => cases ok
  | ok value => exact ⟨h, t, by decide, connected, ran, List.isEmpty_iff.mp empty, held, reported⟩

end Ocpp.ChargePoint
