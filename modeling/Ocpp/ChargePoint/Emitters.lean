import Mathlib.Data.Finset.Card
import Ocpp.ChargePoint.Boot

/-!
# Background emitters

The heartbeat and the meter samplers of a station whose calls run one after the other. A task that no handle
leads to cannot be aborted any more.
-/

namespace Ocpp.ChargePoint
open Library Library.Program V16j V201

/-! ## Samplers and transactions -/

def Op.onSamplers : Op → HashMap Int Nat → HashMap Int Nat
  | registerSampler tid connectorId, samplers => samplers.insert tid connectorId
  | stopSampler tid, samplers => samplers.erase tid
  | drainSamplers, _ => ∅
  | _, samplers => samplers

theorem Op.effect_meterSamplers (op : Op) (choice : Choice) (s : Station) :
    (op.effect choice s).meterSamplers = op.onSamplers s.meterSamplers := by
  cases op
  case setIdentity tid idTag groupIdToken =>
    obtain ⟨v201Sessions, identified⟩ := s.setIdentity_eq tid idTag groupIdToken
    rw [effect, identified]
    rfl
  case removeTimers ids =>
    obtain ⟨expiryTimers, timers, removed⟩ := s.removeTimers_eq ids
    rw [effect, removed]
    rfl
  case claimListedSeqNo | expireReservation | takeIfIdle =>
    simp only [effect, onSamplers]
    split_ifs <;> rfl
  case call => cases choice <;> rfl
  all_goals rfl

def Station.SamplesActive (s : Station) : Prop :=
  ∀ tid, (s.meterSamplers.lookup tid).isSome → (s.activeTransactions.lookup tid).isSome

/-- A sampler is registered for a transaction that runs, and stopped before its transaction is removed. -/
def Station.Careful (s : Station) : Op → Prop
  | .registerSampler tid _ => (s.activeTransactions.lookup tid).isSome
  | .removeActive tid => s.meterSamplers.lookup tid = none
  | _ => True

theorem Station.SamplesActive.kept {s t : Station} {op : Op} {choice : Choice} {result : op.Result}
    (careful : s.Careful op) (samples : s.SamplesActive) (performed : exec s op choice = some (result, t)) :
    t.SamplesActive := by
  intro tid sampled
  rw [exec_effect performed, Op.effect_meterSamplers] at sampled
  rw [exec_effect performed, Op.effect_activeTransactions]
  cases op
  case registerSampler registered connectorId =>
    by_cases here : tid = registered
    · exact here ▸ careful
    · exact samples tid (by simpa [Op.onSamplers, here] using sampled)
  case stopSampler stopped =>
    by_cases here : tid = stopped
    · subst here
      simp [Op.onSamplers] at sampled
    · exact samples tid (by simpa [Op.onSamplers, here] using sampled)
  case drainSamplers => simp [Op.onSamplers] at sampled
  case insertActive inserted connectorId => exact HashMap.lookup_insert_isSome (samples tid sampled)
  case removeActive removed =>
    have other : tid ≠ removed := by
      rintro rfl
      have absent : s.meterSamplers.lookup tid = none := careful
      simp [Op.onSamplers, absent] at sampled
    rw [Op.onActive, AList.lookup_erase_ne other]
    exact samples tid sampled
  all_goals exact samples tid sampled

section Programs

variable (config : Config)

/-- The operations that neither register a sampler nor change which transactions run. -/
def Op.Quiet : Op → Prop
  | registerSampler .. | insertActive .. | removeActive _ => False
  | _ => True

theorem Op.Quiet.careful {op : Op} (quiet : op.Quiet) (s : Station) : s.Careful op := by
  cases op <;> trivial

theorem Op.Quiet.activeTransactions {op : Op} (quiet : op.Quiet) {s t : Station} {choice : Choice}
    {result : op.Result} (performed : exec s op choice = some (result, t)) :
    t.activeTransactions = s.activeTransactions := by
  rw [exec_effect performed, Op.effect_activeTransactions]
  cases op <;> trivial

variable {α : Type} {post : Except OcppError α → Station → Prop} {s : Station}

theorem guarded_act {op : Op} {f : op.Result → Async α} (careful : s.Careful op)
    (rest : ∀ choice result t, exec s op choice = some (result, t) →
      (f result).Guarded exec Station.Careful post t) :
    (act op >>= f).Guarded exec Station.Careful post s :=
  ⟨careful, rest⟩

theorem guarded_quiet {p : Async α} (within : p.Within Op.Quiet) :
    p.Guarded exec Station.Careful (fun _ t => t.activeTransactions = s.activeTransactions) s := by
  have kept : ∀ t op choice (result : Op.Result op) u, op.Quiet →
      t.activeTransactions = s.activeTransactions → exec t op choice = some (result, u) →
        u.activeTransactions = s.activeTransactions := by
    intro t op choice result u quiet same performed
    rw [quiet.activeTransactions performed, same]
  exact within.guarded (fun t _ quiet _ => quiet.careful t) kept rfl

theorem guarded_quiet_bind {β : Type} {p : Async β} {f : β → Async α} (within : p.Within Op.Quiet)
    (rest : ∀ value t, t.activeTransactions = s.activeTransactions →
      (f value).Guarded exec Station.Careful (fun _ _ => True) t) :
    (p >>= f).Guarded exec Station.Careful (fun _ _ => True) s :=
  (guarded_quiet within).bind (fun _ _ _ => trivial) rest

theorem energizeConnector_guarded {connectorId : Nat} {transactionId : Int}
    (active : (s.activeTransactions.lookup transactionId).isSome) :
    (energizeConnector config connectorId transactionId).Guarded exec Station.Careful (fun _ _ => True) s := by
  refine guarded_quiet_bind (within_act trivial) fun consumed t taken => ?_
  refine guarded_quiet_bind (within_onlyIf (within_act trivial)) fun _ u removed => ?_
  refine guarded_quiet_bind (within_onlyIf (within_act trivial)) fun _ v set => ?_
  refine guarded_quiet_bind (within_sendStatusNotification trivial) fun _ w notified => ?_
  refine ⟨?_, fun _ _ _ _ => trivial⟩
  change (w.activeTransactions.lookup transactionId).isSome
  rwa [notified, set, removed, taken]

theorem findActive_active {evseId : Int} {choice : Choice} {transactionId : Int} {t : Station}
    (performed : exec s (.findActive evseId) choice = some (some transactionId, t)) :
    t = s ∧ (s.activeTransactions.lookup transactionId).isSome := by
  cases choice with
  | pick picked =>
      cases picked with
      | none =>
          obtain ⟨-, ⟨⟩⟩ := Option.ite_none_right_eq_some.mp performed
      | some picked =>
          obtain ⟨here, same⟩ := Option.ite_none_right_eq_some.mp performed
          cases same
          exact ⟨rfl, Option.isSome_of_any here⟩
  | _ => cases performed

theorem foldAuthorizationOntoPlugOpen_guarded (connectorId : Nat) (idTag : String)
    (chargingProfile : Option ChargingProfileType) (groupIdToken : Option IdTokenType) :
    (foldAuthorizationOntoPlugOpen config connectorId idTag chargingProfile groupIdToken).Guarded exec
      Station.Careful (fun _ _ => True) s := by
  refine guarded_act trivial fun choice found t performed => ?_
  cases found with
  | none => trivial
  | some transactionId =>
      obtain ⟨rfl, active⟩ := findActive_active performed
      refine guarded_quiet_bind (within_act trivial) fun session u read => ?_
      cases session with
      | none => trivial
      | some session =>
          dsimp only
          split_ifs
          · trivial
          refine guarded_quiet_bind (within_withState trivial trivial fun state => ?_) fun advanced v held => ?_
          · split_ifs
            · trivial
            · refine (within_sendStatusNotification trivial).bind fun _ => ?_
              refine (within_act trivial).bind fun seqNo => ?_
              refine (within_call trivial).bind fun _ => ?_
              refine (within_act trivial).bind fun _ => ?_
              exact (within_act trivial).bind fun _ => trivial
          · split_ifs
            · trivial
            · refine guarded_quiet_bind (within_act trivial) fun _ w identified => ?_
              refine guarded_quiet_bind (within_installGiven fun _ _ => trivial) fun _ x installed => ?_
              apply (energizeConnector_guarded config _).bind
              · exact fun _ _ _ => trivial
              · exact fun _ _ _ => trivial
              rwa [installed, identified, held, read]

theorem Op.quiet_of_openOps {chargingProfile : Option ChargingProfileType} {op : Op} (opens : openOps chargingProfile op) :
    op.Quiet := by
  cases op <;> first | exact opens | trivial

theorem startTransaction_guarded (connectorId : Nat) (idTag : String) (meterStart : Int) :
    (startTransaction config connectorId idTag meterStart).Guarded exec Station.Careful
      (fun _ _ => True) s := by
  apply (foldAuthorizationOntoPlugOpen_guarded config connectorId idTag none none).bind
  · exact fun _ _ _ => trivial
  intro folded t _
  cases folded with
  | some transactionId => trivial
  | none =>
      refine guarded_quiet_bind (within_sendStatusNotification trivial) fun _ u _ => ?_
      refine guarded_quiet_bind ((openTransaction_within config _ _ _ _ _ _).mono
        fun _ => Op.quiet_of_openOps) fun transactionId v _ => ?_
      refine guarded_act trivial fun _ _ w inserted => ?_
      cases inserted
      apply (energizeConnector_guarded config _).bind
      · exact fun _ _ _ => trivial
      · exact fun _ _ _ => trivial
      · simp [Station.insertActive]

theorem stopTransaction_guarded (transactionId meterStop : Int) (reason : Reason) :
    (stopTransaction config transactionId meterStop reason).Guarded exec Station.Careful
      (fun _ _ => True) s := by
  refine guarded_act trivial fun _ found t _ => ?_
  cases found with
  | none => trivial
  | some connectorId =>
      have closed := closeTransaction_within config connectorId transactionId meterStop reason
      refine guarded_quiet_bind (closed.mono fun op inside => ?_) fun _ u _ => ?_
      · cases op <;> trivial
      refine guarded_quiet_bind (within_sendStatusNotification trivial) fun _ v _ => ?_
      refine guarded_act trivial fun _ _ w stopped => ?_
      cases stopped
      have unsampled : (v.stopSampler transactionId).Careful (.removeActive transactionId) :=
        AList.lookup_erase transactionId v.meterSamplers
      refine guarded_act unsampled fun _ _ x _ => ?_
      refine guarded_quiet_bind (within_onlyIf (within_act trivial)) fun _ y _ => ?_
      refine guarded_quiet_bind (within_sendStatusNotification trivial) fun _ z _ => ?_
      apply (guarded_quiet ((drainDeferred_within config).mono fun op inside => ?_)).mono
      · exact fun _ _ _ => trivial
      · cases op <;> trivial

theorem performReset_guarded (resetType : ResetType) :
    (performReset config resetType).Guarded exec Station.Careful (fun _ _ => True) s := by
  refine guarded_act trivial fun _ _ t _ => ?_
  refine guarded_act trivial fun _ active u _ => ?_
  apply (Guarded.forM active _ u).bind
  · exact fun _ _ _ => trivial
  · exact fun _ v _ => ⟨trivial, fun _ _ _ _ => trivial⟩
  intro target v
  apply (stopTransaction_guarded config target.1 0 _).attempt.bind
  · rintro error w ⟨value, ⟨⟩, -⟩
  · exact fun _ _ _ => rfl

end Programs

/-! ## Tasks and their handles -/

structure Host.Tidy (h : Host) : Prop where
  heartbeat : ∀ task ∈ h.heartbeats, h.heartbeatHandle = some task
  sampler : ∀ task ∈ h.samplers, ∃ tid, h.meterSamplerHandles.lookup tid = some task
  registered : ∀ tid, (h.meterSamplerHandles.lookup tid).isSome ↔ (h.station.meterSamplers.lookup tid).isSome
  samples : h.station.SamplesActive

/-- A heartbeat is started only while none is held. -/
def Host.Careful (h : Host) : HostOp → Prop
  | .station op => h.station.Careful op
  | .startHeartbeat _ => h.heartbeatHandle = none
  | _ => True

section Tidy

variable {h t : Host}

theorem Host.Tidy.registerMeterSampler (tidy : h.Tidy) (tid : Int) :
    ∀ task ∈ (h.registerMeterSampler tid).samplers,
      ∃ tid', (h.registerMeterSampler tid).meterSamplerHandles.lookup tid' = some task := by
  intro task live
  rcases Finset.mem_insert.mp live with rfl | before
  · exact ⟨tid, AList.lookup_insert _⟩
  · have earlier : task ∈ h.samplers ∧ h.meterSamplerHandles.lookup tid ≠ some task := by
      cases found : h.meterSamplerHandles.lookup tid with
      | none => exact ⟨by simpa [found] using before, nofun⟩
      | some previous =>
          rw [found] at before
          obtain ⟨other, held⟩ := Finset.mem_erase.mp before
          exact ⟨held, fun same => other (Option.some.inj same).symm⟩
    obtain ⟨tid', found⟩ := tidy.sampler task earlier.1
    refine ⟨tid', ?_⟩
    rw [Host.registerMeterSampler, AList.lookup_insert_ne]
    · exact found
    · rintro rfl
      exact earlier.2 found

theorem Host.Tidy.stopMeterSampler (tidy : h.Tidy) (tid : Int) :
    ∀ task ∈ (h.stopMeterSampler tid).samplers,
      ∃ tid', (h.stopMeterSampler tid).meterSamplerHandles.lookup tid' = some task := by
  intro task live
  cases found : h.meterSamplerHandles.lookup tid with
  | none =>
      simp only [Host.stopMeterSampler, found] at live ⊢
      exact tidy.sampler task live
  | some handle =>
      simp only [Host.stopMeterSampler, found] at live ⊢
      obtain ⟨other, held⟩ := Finset.mem_erase.mp live
      obtain ⟨tid', found'⟩ := tidy.sampler task held
      refine ⟨tid', ?_⟩
      rw [AList.lookup_erase_ne]
      · exact found'
      · rintro rfl
        exact other (Option.some.inj (found'.symm.trans found))

theorem Host.Tidy.drainMeterSamplers (tidy : h.Tidy) : h.drainMeterSamplers.samplers = ∅ := by
  apply Finset.filter_eq_empty_iff.mpr
  intro task live unheld
  obtain ⟨tid, found⟩ := tidy.sampler task live
  have held := List.all_eq_true.mp unheld _ (AList.mem_lookup_iff.mp found)
  simp at held

theorem Host.stopMeterSampler_lookup (h : Host) (stopped tid : Int) :
    (h.stopMeterSampler stopped).meterSamplerHandles.lookup tid =
      (h.meterSamplerHandles.erase stopped).lookup tid := by
  rw [HashMap.lookup_erase]
  cases found : h.meterSamplerHandles.lookup stopped with
  | none =>
      simp only [Host.stopMeterSampler, found]
      split_ifs with here
      · rw [here, found]
      · rfl
  | some handle => simp only [Host.stopMeterSampler, found, HashMap.lookup_erase]

theorem Host.track_registered (registered : ∀ tid, (h.meterSamplerHandles.lookup tid).isSome ↔
      (h.station.meterSamplers.lookup tid).isSome) (op : Op) (choice : Choice) (tid : Int) :
    ((h.track op).meterSamplerHandles.lookup tid).isSome ↔
      ((op.effect choice h.station).meterSamplers.lookup tid).isSome := by
  rw [Op.effect_meterSamplers]
  cases op
  case registerSampler sampled connectorId =>
    by_cases here : tid = sampled
    · subst here
      simp [Host.track, Host.registerMeterSampler, Op.onSamplers]
    · simpa [Host.track, Host.registerMeterSampler, Op.onSamplers, here] using registered tid
  case stopSampler stopped =>
    rw [Host.track, h.stopMeterSampler_lookup, Op.onSamplers, HashMap.lookup_erase, HashMap.lookup_erase]
    split_ifs
    · rfl
    · exact registered tid
  case drainSamplers => simp [Host.track, Host.drainMeterSamplers, Op.onSamplers]
  all_goals exact registered tid

theorem Host.Tidy.track (tidy : h.Tidy) (op : Op) :
    (∀ task ∈ (h.track op).heartbeats, (h.track op).heartbeatHandle = some task) ∧
      ∀ task ∈ (h.track op).samplers, ∃ tid, (h.track op).meterSamplerHandles.lookup tid = some task := by
  cases op
  case registerSampler tid connectorId => exact ⟨tidy.heartbeat, tidy.registerMeterSampler tid⟩
  case stopSampler tid =>
    refine ⟨?_, tidy.stopMeterSampler tid⟩
    rw [Host.track, Host.stopMeterSampler]
    split
    · exact tidy.heartbeat
    · exact tidy.heartbeat
  case drainSamplers =>
    refine ⟨tidy.heartbeat, fun task live => ?_⟩
    rw [Host.track, tidy.drainMeterSamplers] at live
    exact absurd live (Finset.notMem_empty task)
  all_goals exact ⟨tidy.heartbeat, tidy.sampler⟩

theorem Host.Tidy.startHeartbeat (tidy : h.Tidy) (unheld : h.heartbeatHandle = none) :
    h.startHeartbeat.Tidy where
  heartbeat := by
    intro task live
    rcases Finset.mem_insert.mp live with rfl | before
    · rfl
    · have held := tidy.heartbeat task before
      rw [unheld] at held
      cases held
  sampler := tidy.sampler
  registered := tidy.registered
  samples := tidy.samples

theorem Host.Tidy.abortHeartbeat (tidy : h.Tidy) :
    h.abortHeartbeat.Tidy ∧ h.abortHeartbeat.heartbeats = ∅ ∧ h.abortHeartbeat.heartbeatHandle = none := by
  unfold Host.abortHeartbeat
  cases held : h.heartbeatHandle with
  | none =>
      refine ⟨tidy, Finset.eq_empty_of_forall_notMem fun task live => ?_, held⟩
      rw [tidy.heartbeat task live] at held
      cases held
  | some handle =>
      have aborted : h.heartbeats.erase handle = ∅ := by
        refine Finset.eq_empty_of_forall_notMem fun task live => ?_
        obtain ⟨other, before⟩ := Finset.mem_erase.mp live
        rw [tidy.heartbeat task before] at held
        exact other (Option.some.inj held)
      refine ⟨⟨fun task live => ?_, tidy.sampler, tidy.registered, tidy.samples⟩, aborted, rfl⟩
      change task ∈ h.heartbeats.erase handle at live
      rw [aborted] at live
      exact absurd live (Finset.notMem_empty task)

theorem Host.Tidy.kept {op : HostOp} {choice : HostChoice} {result : op.Result} (careful : h.Careful op)
    (tidy : h.Tidy) (performed : hostExec h op choice = some (result, t)) : t.Tidy := by
  cases op
  case station op =>
    obtain ⟨choice, station, rfl, executed, rfl⟩ := hostExec_station performed
    obtain ⟨heartbeat, sampler⟩ := tidy.track op
    refine ⟨heartbeat, sampler, fun tid => ?_, tidy.samples.kept careful executed⟩
    change ((h.track op).meterSamplerHandles.lookup tid).isSome ↔ (station.meterSamplers.lookup tid).isSome
    rw [exec_effect executed]
    exact h.track_registered tidy.registered op choice tid
  case startHeartbeat interval =>
    obtain ⟨rfl, rfl⟩ := hostExec_startHeartbeat performed
    exact tidy.startHeartbeat careful
  case abortHeartbeat =>
    cases choice <;> cases performed
    exact tidy.abortHeartbeat.1
  case bootNotification =>
    obtain ⟨-, rfl⟩ := hostExec_bootNotification performed
    exact tidy
  case drainTimers =>
    cases choice <;> cases performed
    obtain ⟨expiryTimers, timers, removed⟩ := h.station.removeTimers_eq h.station.expiryTimers.keys
    rw [removed]
    exact ⟨tidy.heartbeat, tidy.sampler, tidy.registered, tidy.samples⟩
  case newClient =>
    obtain ⟨-, client, rfl⟩ := hostExec_newClient performed
    exact ⟨tidy.heartbeat, tidy.sampler, tidy.registered, tidy.samples⟩
  case spawnConsumer =>
    cases choice <;> cases performed
    split_ifs
    · exact ⟨tidy.heartbeat, tidy.sampler, tidy.registered, tidy.samples⟩
    · exact tidy
  all_goals
    cases choice <;> cases performed
    exact ⟨tidy.heartbeat, tidy.sampler, tidy.registered, tidy.samples⟩

theorem Host.Tidy.states {α : Type} {p : Hosted α} {post : Except HostError α → Host → Prop}
    {choices : List HostChoice} {u : Host} (guarded : p.Guarded hostExec Host.Careful post h) (tidy : h.Tidy)
    (visited : u ∈ p.states hostExec choices h) : u.Tidy :=
  guarded.states (fun _ _ _ _ _ careful tidy performed => tidy.kept careful performed) tidy visited

theorem onStation_guarded {α : Type} {p : Async α} {post : Except OcppError α → Station → Prop}
    (guarded : p.Guarded exec Station.Careful post h.station) :
    (onStation p).Guarded hostExec Host.Careful (fun _ _ => True) h := by
  induction p generalizing h with
  | ret value => trivial
  | fail error => trivial
  | perform op next ih =>
      refine ⟨guarded.1, fun choice result t performed => ?_⟩
      obtain ⟨choice, station, rfl, executed, rfl⟩ := hostExec_station performed
      exact ih result (guarded.2 choice result station executed)

end Tidy

/-! ## Calls -/

inductive HostCall
  | connect
  | disconnect
  | startTransaction (connectorId : Nat) (idTag : String) (meterStart : Int)
  | stopTransaction (transactionId meterStop : Int) (reason : Reason)
  | handleBootNotificationResponse (response : BootOutcome)
  | reset (resetType : ResetType)
  | stop
  deriving DecidableEq

variable (config : Config) (maxBootRetries : Nat)

def HostCall.run : HostCall → Hosted Unit
  | connect => ChargePoint.connect config maxBootRetries
  | disconnect => ChargePoint.disconnect
  | startTransaction connectorId idTag meterStart => do
      let _ ← onStation (ChargePoint.startTransaction config connectorId idTag meterStart)
  | stopTransaction transactionId meterStop reason =>
      onStation (ChargePoint.stopTransaction config transactionId meterStop reason)
  | handleBootNotificationResponse response => ChargePoint.handleBootNotificationResponse response
  | reset resetType => resetAndBoot config maxBootRetries resetType
  | stop => ChargePoint.stop config

/-- A reset is performed by the consumer of the commands. -/
def HostCall.enabled (h : Host) : HostCall → Bool
  | reset _ => h.commandConsumer
  | _ => true

structure HostCompletion where
  call : HostCall
  choices : List HostChoice

def Host.complete (h : Host) (completion : HostCompletion) : Option Host :=
  if completion.call.enabled h then
    ((completion.call.run config maxBootRetries).eval hostExec completion.choices h).map (·.2)
  else none

def Host.during (h : Host) (completion : HostCompletion) : List Host :=
  (completion.call.run config maxBootRetries).states hostExec completion.choices h

structure Host.NoLeaks (h : Host) : Prop where
  one : h.heartbeats.card ≤ 1
  heartbeat : ∀ task ∈ h.heartbeats, h.heartbeatHandle = some task
  sampler : ∀ task ∈ h.samplers, ∃ tid, h.meterSamplerHandles.lookup tid = some task
  registered : ∀ tid, (h.meterSamplerHandles.lookup tid).isSome → (h.station.activeTransactions.lookup tid).isSome

theorem Host.Tidy.noLeaks {h : Host} (tidy : h.Tidy) : h.NoLeaks where
  one := by
    apply Finset.card_le_one.mpr
    intro task live other live'
    exact Option.some.inj ((tidy.heartbeat task live).symm.trans (tidy.heartbeat other live'))
  heartbeat := tidy.heartbeat
  sampler := tidy.sampler
  registered tid registered := tidy.samples tid ((tidy.registered tid).mp registered)

/-- A call outside a reset starts a heartbeat only while no handle of another one is held. -/
def Unheld (h : Host) (completion : HostCompletion) : Prop :=
  match completion.call with
  | .connect => ComesUp completion.choices → h.heartbeatHandle = none
  | .handleBootNotificationResponse response => response.status = .accepted → h.heartbeatHandle = none
  | _ => True

theorem Host.Announced.tidy {h u : Host} {made : List (Request × Answer)} (announced : h.Announced u made)
    (tidy : h.Tidy) : u.Tidy := by
  obtain ⟨status, rfl⟩ := announced
  exact ⟨tidy.heartbeat, tidy.sampler, tidy.registered, tidy.samples⟩

section Runs

variable {h t u : Host} {earlier choices : List HostChoice} {outcome : Except HostError Unit}

theorem tidy_perform {op : HostOp} {next : op.Result → Hosted Unit} (careful : h.Careful op) (tidy : h.Tidy)
    (ran : (Program.perform op next).eval hostExec choices h = some (outcome, t))
    (visited : u ∈ (Program.perform op next).states hostExec choices h)
    (later : ∀ choice rest result v, choices = choice :: rest → hostExec h op choice = some (result, v) →
      v.Tidy → (next result).eval hostExec rest v = some (outcome, t) →
        u ∈ (next result).states hostExec rest v → u.Tidy) : u.Tidy := by
  cases choices with
  | nil => cases ran
  | cons choice rest =>
      obtain ⟨⟨result, v⟩, performed, ended⟩ := Option.bind_eq_some_iff.mp ran
      obtain rfl | after := List.mem_cons.mp visited
      · exact tidy
      · rw [performed] at after
        exact later choice rest result v rfl performed (tidy.kept careful performed) ended after

theorem bootSequence_tidy (smooth : Smooth earlier)
    (unheld : ComesUp (earlier ++ choices) → h.heartbeatHandle = none) (tidy : h.Tidy)
    (ran : (bootSequence config maxBootRetries).eval hostExec choices h = some (outcome, t))
    (visited : u ∈ (bootSequence config maxBootRetries).states hostExec choices h) : u.Tidy := by
  have boots := bootSequence_boots config maxBootRetries smooth
  obtain rfl | ⟨made, announced⟩ := boots.before ran visited
  · obtain ⟨-, up, v, made, announced, rfl, -⟩ | ⟨made, announced⟩ := boots.ended ran
    · apply (announced.tidy tidy).startHeartbeat
      obtain ⟨status, rfl⟩ := announced
      exact unheld up
    · exact announced.tidy tidy
  · exact announced.tidy tidy

theorem establishSession_tidy (smooth : Smooth earlier)
    (unheld : ComesUp (earlier ++ choices) → h.heartbeatHandle = none) (tidy : h.Tidy)
    (ran : (establishSession config maxBootRetries).eval hostExec choices h = some (outcome, t))
    (visited : u ∈ (establishSession config maxBootRetries).states hostExec choices h) : u.Tidy := by
  refine tidy_perform ?_ tidy ran visited ?_
  · trivial
  intro choice rest result v same performed tidied booted after
  obtain ⟨rfl, client, rfl⟩ := hostExec_newClient performed
  cases result with
  | error message =>
      cases rest with
      | nil => exact List.mem_singleton.mp after ▸ tidied
      | cons choice rest => exact List.mem_singleton.mp after ▸ tidied
  | ok value =>
      have smoothly : Smooth (earlier ++ [.connect (.ok value)]) := by
        intro answer member
        simp only [List.mem_append, List.mem_singleton, reduceCtorEq, or_false] at member
        exact smooth answer member
      rw [same, List.append_cons] at unheld
      have unheld' : ComesUp (earlier ++ [.connect (.ok value)] ++ rest) →
          { h with client }.heartbeatHandle = none := unheld
      exact bootSequence_tidy config maxBootRetries smoothly unheld' tidied booted after

theorem connect_tidy (unheld : ComesUp choices → h.heartbeatHandle = none) (tidy : h.Tidy)
    (ran : (connect config maxBootRetries).eval hostExec choices h = some (outcome, t))
    (visited : u ∈ (connect config maxBootRetries).states hostExec choices h) : u.Tidy := by
  refine tidy_perform ?_ tidy ran visited ?_
  · trivial
  intro choice rest result v same performed tidied established after
  have quiet : choice = .none ∧ v.heartbeatHandle = h.heartbeatHandle := by
    cases choice <;> cases performed
    refine ⟨rfl, ?_⟩
    split_ifs
    · rfl
    · rfl
  obtain ⟨rfl, held⟩ := quiet
  rw [← held, same] at unheld
  exact establishSession_tidy config maxBootRetries smooth_none unheld tidied established after

theorem resetAndBoot_tidy {resetType : ResetType} (tidy : h.Tidy)
    (ran : (resetAndBoot config maxBootRetries resetType).eval hostExec choices h = some (outcome, t))
    (visited : u ∈ (resetAndBoot config maxBootRetries resetType).states hostExec choices h) : u.Tidy := by
  have guarded : (onStation (performReset config resetType)).Guarded hostExec Host.Careful (fun _ _ => True) h :=
    onStation_guarded (performReset_guarded config resetType)
  obtain inside | ⟨first, rest, value, v, rfl, stopped, after⟩ := mem_states_bind visited
  · exact tidy.states guarded inside
  replace ran := (eval_bind_append stopped rest).symm.trans ran
  have tidied := tidy.states guarded (mem_states_of_eval stopped)
  refine tidy_perform ?_ tidied ran after ?_
  · trivial
  intro choice rest result w same performed tidy ran visited
  have unheld : w.heartbeatHandle = none := by
    cases choice <;> cases performed
    exact tidied.abortHeartbeat.2.2
  have unheld' : ComesUp ([] ++ rest) → w.heartbeatHandle = none := fun _ => unheld
  cases resetType with
  | soft =>
      obtain ⟨⟨outcome', t'⟩, ran, ended⟩ := Option.map_eq_some_iff.mp (eval_attempt_drop.symm.trans ran)
      exact bootSequence_tidy config maxBootRetries smooth_nil unheld' tidy ran (states_attempt_drop ▸ visited)
  | hard =>
      refine tidy_perform ?_ tidy ran visited ?_
      · trivial
      intro choice rest result x same performed tidy ran visited
      have unheld' : ComesUp ([] ++ rest) → x.heartbeatHandle = none := by
        cases choice <;> cases performed
        exact fun _ => unheld
      obtain ⟨⟨outcome', t'⟩, ran, ended⟩ := Option.map_eq_some_iff.mp (eval_attempt_drop.symm.trans ran)
      exact establishSession_tidy config maxBootRetries smooth_nil unheld' tidy ran (states_attempt_drop ▸ visited)

def HostOp.Quiet : HostOp → Prop
  | station op => op.Quiet
  | startHeartbeat _ => False
  | _ => True

theorem HostOp.Quiet.careful {op : HostOp} (quiet : op.Quiet) (h : Host) : h.Careful op := by
  cases op with
  | station op => exact Op.Quiet.careful quiet h.station
  | startHeartbeat interval => exact quiet.elim
  | _ => trivial

def Host.Silent (h : Host) : Prop :=
  h.heartbeats = ∅ ∧ h.samplers = ∅

theorem Host.Silent.kept {op : HostOp} {choice : HostChoice} {result : op.Result} (quiet : op.Quiet)
    (silent : h.Silent) (performed : hostExec h op choice = some (result, t)) : t.Silent := by
  cases op
  case station op =>
    obtain ⟨choice, station, rfl, executed, rfl⟩ := hostExec_station performed
    cases op
    case registerSampler => exact quiet.elim
    case stopSampler tid =>
      change (h.stopMeterSampler tid).heartbeats = ∅ ∧ (h.stopMeterSampler tid).samplers = ∅
      rw [Host.stopMeterSampler]
      split
      · exact ⟨silent.1, by rw [silent.2]; rfl⟩
      · exact silent
    case drainSamplers =>
      refine ⟨silent.1, ?_⟩
      change h.drainMeterSamplers.samplers = ∅
      rw [Host.drainMeterSamplers, silent.2]
      rfl
    all_goals exact silent
  case startHeartbeat => exact quiet.elim
  case abortHeartbeat =>
    cases choice <;> cases performed
    rw [Host.abortHeartbeat]
    split
    · exact ⟨by rw [silent.1]; rfl, silent.2⟩
    · exact silent
  case bootNotification =>
    obtain ⟨-, rfl⟩ := hostExec_bootNotification performed
    exact silent
  case newClient =>
    obtain ⟨-, client, rfl⟩ := hostExec_newClient performed
    exact silent
  case spawnConsumer =>
    cases choice <;> cases performed
    split_ifs <;> exact silent
  all_goals
    cases choice <;> cases performed
    exact silent

theorem guarded_of_quiet {α : Type} {p : Hosted α} (within : p.Within HostOp.Quiet) :
    p.Guarded hostExec Host.Careful (fun _ _ => True) h :=
  within.guarded (fun h _ quiet _ => quiet.careful h) (fun _ _ _ _ _ _ _ _ => trivial) trivial

theorem handleBootNotificationResponse_guarded {response : BootOutcome}
    (unheld : response.status = .accepted → h.heartbeatHandle = none) :
    (handleBootNotificationResponse response).Guarded hostExec Host.Careful (fun _ _ => True) h := by
  refine ⟨trivial, fun choice result t performed => ?_⟩
  obtain ⟨rfl, rfl⟩ := hostExec_setRegistrationStatus performed
  obtain ⟨status, interval⟩ := response
  cases status with
  | accepted => exact ⟨unheld rfl, fun _ _ _ _ => trivial⟩
  | pending => trivial
  | rejected => trivial

theorem stop_rest_within : (do
    perform .abortConsumer
    perform .drainTimers
    disconnect
    config.connectors.forM fun connectorId => onStation (act (.setStatus connectorId .unavailable)) :
      Hosted Unit).Within HostOp.Quiet := by
  refine ⟨trivial, fun _ => ⟨trivial, fun _ => ⟨trivial, fun _ => ?_⟩⟩⟩
  refine Within.forM (fun connectorId => ?_) config.connectors
  exact ⟨trivial, fun _ => trivial⟩

theorem stop_within : (stop config).Within HostOp.Quiet :=
  ⟨trivial, fun _ => ⟨trivial, fun _ => stop_rest_within config⟩⟩

theorem stop_silent (tidy : h.Tidy) : (stop config).wp hostExec (fun _ t => t.Silent) h := by
  intro choice result u aborted
  obtain ⟨tidied, unbeaten, -⟩ := tidy.abortHeartbeat
  have ended : u = h.abortHeartbeat := by
    cases choice <;> cases aborted
    rfl
  subst ended
  intro choice result v drained
  obtain ⟨choice, station, rfl, executed, rfl⟩ := hostExec_station drained
  refine (stop_rest_within config).wp (fun _ _ _ _ _ quiet silent performed => silent.kept quiet performed) ?_
  exact ⟨unbeaten, tidied.drainMeterSamplers⟩

theorem complete_tidy {completion : HostCompletion} (unheld : Unheld h completion) (tidy : h.Tidy)
    (completed : h.complete config maxBootRetries completion = some t)
    (visited : u ∈ h.during config maxBootRetries completion) : u.Tidy := by
  obtain ⟨call, choices⟩ := completion
  obtain ⟨-, completed⟩ := Option.ite_none_right_eq_some.mp completed
  obtain ⟨⟨outcome, t'⟩, ran, rfl⟩ := Option.map_eq_some_iff.mp completed
  cases call with
  | connect => exact connect_tidy config maxBootRetries unheld tidy ran visited
  | disconnect =>
      have quiet : disconnect.Within HostOp.Quiet := ⟨trivial, fun _ => trivial⟩
      exact tidy.states (guarded_of_quiet quiet) visited
  | startTransaction connectorId idTag meterStart =>
      have guarded : (onStation (startTransaction config connectorId idTag meterStart)).Guarded hostExec
          Host.Careful (fun _ _ => True) h :=
        onStation_guarded (startTransaction_guarded config connectorId idTag meterStart)
      have dropped : (HostCall.run config maxBootRetries
          (.startTransaction connectorId idTag meterStart)).Guarded hostExec Host.Careful (fun _ _ => True) h :=
        guarded.bind (fun _ _ _ => trivial) fun _ _ _ => trivial
      exact tidy.states dropped visited
  | stopTransaction transactionId meterStop reason =>
      have guarded : (onStation (stopTransaction config transactionId meterStop reason)).Guarded hostExec
          Host.Careful (fun _ _ => True) h :=
        onStation_guarded (stopTransaction_guarded config transactionId meterStop reason)
      exact tidy.states guarded visited
  | handleBootNotificationResponse response =>
      have guarded : (handleBootNotificationResponse response).Guarded hostExec Host.Careful (fun _ _ => True) h :=
        handleBootNotificationResponse_guarded unheld
      exact tidy.states guarded visited
  | reset resetType => exact resetAndBoot_tidy config maxBootRetries tidy ran visited
  | stop => exact tidy.states (guarded_of_quiet (stop_within config)) visited

end Runs

theorem Host.new_tidy : Host.new.Tidy where
  heartbeat := by simp [Host.new]
  sampler := by simp [Host.new]
  registered := by simp [Host.new, Station.new]
  samples := by simp [Host.new, Station.new, Station.SamplesActive]

theorem Host.mem_during {h t : Host} {completion : HostCompletion}
    (completed : h.complete config maxBootRetries completion = some t) :
    t ∈ h.during config maxBootRetries completion := by
  obtain ⟨-, completed⟩ := Option.ite_none_right_eq_some.mp completed
  obtain ⟨⟨outcome, t'⟩, ran, rfl⟩ := Option.map_eq_some_iff.mp completed
  exact mem_states_of_eval ran

theorem run_tidy {completions : List HostCompletion} {t : Host}
    (unheld : Along (Host.complete config maxBootRetries) Unheld .new completions)
    (ran : run (Host.complete config maxBootRetries) .new completions = some t) : t.Tidy := by
  refine run_invariant (fun h completion u tidy met completed => ?_) Host.new_tidy unheld ran
  exact complete_tidy config maxBootRetries met tidy completed (Host.mem_during config maxBootRetries completed)

/-- In a run whose calls start a heartbeat only while none is held no task is lost, and a stop ends all tasks. -/
theorem emitters_never_leak {completions : List HostCompletion} {completion : HostCompletion} {h t : Host}
    (unheld : Along (Host.complete config maxBootRetries) Unheld .new completions)
    (ran : run (Host.complete config maxBootRetries) .new completions = some h)
    (met : Unheld h completion) (completed : h.complete config maxBootRetries completion = some t) :
    (∀ u ∈ h.during config maxBootRetries completion, u.NoLeaks) ∧ t.NoLeaks ∧
      (completion.call = .stop → t.heartbeats = ∅ ∧ t.samplers = ∅) := by
  have tidy := run_tidy config maxBootRetries unheld ran
  have along : ∀ u ∈ h.during config maxBootRetries completion, u.NoLeaks := fun u visited =>
    (complete_tidy config maxBootRetries met tidy completed visited).noLeaks
  refine ⟨along, along t (Host.mem_during config maxBootRetries completed), fun stops => ?_⟩
  obtain ⟨call, choices⟩ := completion
  cases stops
  obtain ⟨⟨outcome, t'⟩, ended, rfl⟩ := Option.map_eq_some_iff.mp completed
  exact post_of_eval (stop_silent config tidy) ended

/-- A 1.6J station with two connectors connects, and its boot is accepted. -/
def connected : HostCompletion :=
  ⟨.connect, [.none, .connect (.ok ()), .boot (.ok ⟨.accepted, 300⟩), .none] ++
    List.replicate 3 (.station (answered 0)) ++ [.none]⟩

def transactionStarted : HostCompletion :=
  ⟨.startTransaction 1 "TAG" 0,
    [.pick none, answered 0, answered 7, .none, .none, .none, answered 0, .none].map .station⟩

def stopped : HostCompletion :=
  ⟨.stop, [.none, .station .none, .none, .none, .none, .station .none, .station .none]⟩

/-- A station stops while a transaction is sampled. -/
theorem sampled_station_stops_silent : ∃ h t,
    run (Host.complete (simulator .v16j) 3) .new [connected, transactionStarted] = some h ∧
      h.heartbeats = {0} ∧ h.samplers = {1} ∧ h.complete (simulator .v16j) 3 stopped = some t ∧
      t.NoLeaks ∧ t.heartbeats = ∅ ∧ t.samplers = ∅ := by
  have works : (run (Host.complete (simulator .v16j) 3) .new [connected, transactionStarted]).any fun h =>
      h.heartbeats = {0} ∧ h.samplers = {1} ∧ (h.complete (simulator .v16j) 3 stopped).isSome := by decide
  obtain ⟨h, ran, checked⟩ := (Option.any_eq_true _ _).mp works
  obtain ⟨beats, samples, stops⟩ := of_decide_eq_true checked
  obtain ⟨t, completed⟩ := Option.isSome_iff_exists.mp stops
  have unheld : Along (Host.complete (simulator .v16j) 3) Unheld .new [connected, transactionStarted] :=
    ⟨fun _ => rfl, fun _ _ => ⟨trivial, fun _ _ => trivial⟩⟩
  have met : Unheld h stopped := trivial
  obtain ⟨-, noLeaks, silent⟩ := emitters_never_leak (simulator .v16j) 3 unheld ran met completed
  exact ⟨h, t, ran, beats, samples, completed, noLeaks, silent rfl⟩

/-- A second session starts a second heartbeat, and the handle of the first is gone. -/
theorem reconnect_leaks_heartbeat : ∃ t,
    run (Host.complete (simulator .v16j) 3) .new [connected, ⟨.disconnect, [.none]⟩, connected] = some t ∧
      t.heartbeats = {0, 1} ∧ t.heartbeatHandle = some 1 ∧ ¬t.NoLeaks := by
  have works : (run (Host.complete (simulator .v16j) 3) .new
      [connected, ⟨.disconnect, [.none]⟩, connected]).any fun h =>
        h.heartbeats = {0, 1} ∧ h.heartbeatHandle = some 1 := by decide
  obtain ⟨t, ran, checked⟩ := (Option.any_eq_true _ _).mp works
  obtain ⟨beats, held⟩ := of_decide_eq_true checked
  refine ⟨t, ran, beats, held, fun noLeaks => ?_⟩
  have lost := noLeaks.heartbeat 0 (by simp [beats])
  rw [held] at lost
  cases lost

end Ocpp.ChargePoint
