import Ocpp.ChargePoint.Completed

/-!
# Authorized and energised sessions

A cable plug opens sessions that nobody has authorized, and a later start authorizes such a session only
while it is in the state `EVConnected`. A start that returns a session has authorized and energised it,
and no session draws power unauthorized, as long as no session leaves `EVConnected` in another way.
-/

namespace Ocpp.ChargePoint
open Library Library.Program V16j V201

variable (config : Config) (rfc : Rfc3339)

def DrawsPower (state : ChargingStateEnumType) : Prop :=
  state = .charging ∨ state = .suspendedEV ∨ state = .suspendedEVSE

/-- No session draws power that no start has authorized. -/
def AuthorizedFirst (s : Station) : Prop :=
  ∀ transactionId, (s.v201Sessions.lookup transactionId).isSome →
    DrawsPower (s.cells transactionId).chargingState → s.everAuthorized transactionId

structure Energised (connectorId : Nat) (transactionId : Int) (s : Station) : Prop where
  authorized : (s.cells transactionId).authorized
  identified : ∃ session, s.v201Sessions.lookup transactionId = some session ∧ session.idTag ≠ ""
  charging : s.status connectorId = .charging
  sampled : (s.meterSamplers.lookup transactionId).isSome

def StartsEnergised (s : Station) (completion : Completion) : Prop :=
  AuthorizedFirst s ∧
    match completion.call with
    | .startTransaction connectorId idTag meterStart => ∀ transactionId t,
        (startTransaction config connectorId idTag meterStart).eval exec completion.choices s =
          some (.ok transactionId, t) → Energised connectorId transactionId t
    | _ => True

/-- The conditions on the calls. A start is for a non-empty id tag on a connector of the station; a session
that a cable plug opened there and that is no longer in `EVConnected` is authorized; and a start that
authorizes one goes on to report the connector as charging. A transition is of sessions that have been
authorized. A stop frees no connector on which another plugged session has been authorized. -/
def AuthorizesFirst (s : Station) (completion : Completion) : Prop :=
  completion.call.Drives ∧
    match completion.call with
    | .startTransaction connectorId idTag _ => idTag ≠ "" ∧ connectorId ∈ config.connectors ∧
        (∀ transactionId, s.PlugOpened connectorId transactionId →
          (s.cells transactionId).chargingState ≠ .evConnected → (s.cells transactionId).authorized) ∧
        ∀ t, s.complete config rfc completion = some t → (∃ entry ∈ s.made t, entry.1.Updates) →
          ∀ answer, (.statusNotification connectorId .charging, answer) ∈ s.made t → ¬answer.Fails
    | .transitionChargingState evseId _ => ∀ transactionId, s.LiveOn evseId transactionId →
        s.everAuthorized transactionId
    | .stopTransaction transactionId _ _ => ∀ t connectorId, s.complete config rfc completion = some t →
        s.activeTransactions.lookup transactionId = some connectorId →
        (∃ answer, (available connectorId, answer) ∈ s.made t) →
        ∀ tid, tid ≠ transactionId → s.PlugOpened connectorId tid → ¬s.everAuthorized tid
    | _ => True

structure EnergisedFirst (s : Station) : Prop where
  authorized : ∀ transactionId, (s.v201Sessions.lookup transactionId).isSome →
    (s.cells transactionId).chargingState ≠ .evConnected → s.everAuthorized transactionId
  plugged : ∀ transactionId connectorId session,
    s.activeTransactions.lookup transactionId = some connectorId →
    s.v201Sessions.lookup transactionId = some session → session.plugInitiated →
    s.everAuthorized transactionId →
      session.idTag ≠ "" ∧ s.status connectorId = .charging ∧
        (s.meterSamplers.lookup transactionId).isSome

namespace EnergisedFirst

variable {s t : Station} (inv : EnergisedFirst s)
include inv

theorem authorizedFirst : AuthorizedFirst s := by
  intro transactionId listed draws
  refine inv.authorized transactionId listed fun connected => ?_
  simp [DrawsPower, connected] at draws

theorem of_same (active : t.activeTransactions = s.activeTransactions)
    (sessions : ∀ tid session, t.v201Sessions.lookup tid = some session →
      s.v201Sessions.lookup tid = some session ∧
        ((s.meterSamplers.lookup tid).isSome → (t.meterSamplers.lookup tid).isSome) ∧
        ((t.cells tid).chargingState ≠ .evConnected → s.everAuthorized tid))
    (ever : t.everAuthorized = s.everAuthorized) (status : t.status = s.status) : EnergisedFirst t where
  authorized tid listed past := by
    obtain ⟨session, found⟩ := Option.isSome_iff_exists.mp listed
    rw [ever]
    exact (sessions tid session found).2.2 past
  plugged tid connectorId session live listed plug authorized := by
    obtain ⟨before, sampled, -⟩ := sessions tid session listed
    rw [active] at live
    rw [ever] at authorized
    obtain ⟨identified, charging, registered⟩ :=
      inv.plugged tid connectorId session live before plug authorized
    exact ⟨identified, by rw [status, charging], sampled registered⟩

theorem listed_past {tid : Int} {session : V201Session} (listed : s.v201Sessions.lookup tid = some session)
    (past : (s.cells tid).chargingState ≠ .evConnected) : s.everAuthorized tid :=
  inv.authorized tid (by simp [listed]) past

theorem emit {evseId : Int} {newState : ChargingStateEnumType} {triggerReason : TriggerReasonEnumType}
    {outcome : Except OcppError ChargingStateChangeOutcome}
    (allowed : newState ≠ .evConnected → ∀ tid, s.LiveOn evseId tid → s.everAuthorized tid)
    (ended : EmitOutcome evseId newState triggerReason s outcome t) : EnergisedFirst t := by
  cases ended with
  | inert => exact inv
  | unreported transactionId answer _ _ ended =>
      subst ended
      refine inv.of_same rfl (fun tid session listed => ⟨listed, id, fun past => ?_⟩) rfl rfl
      exact inv.listed_past listed (s.claim_chargingState transactionId tid ▸ past)
  | emitted transactionId live response ended =>
      subst ended
      refine inv.of_same rfl (fun tid session listed => ⟨listed, id, fun past => ?_⟩) rfl rfl
      by_cases here : tid = transactionId
      · subst here
        refine allowed ?_ tid live
        simpa [Station.setState, Station.setCell] using past
      · refine inv.listed_past listed fun connected => past ?_
        simpa [Station.setState, Station.claim, Station.setCell, Station.called, here] using connected

theorem of_touched (transactionId : Int)
    (others : ∀ tid, tid ≠ transactionId →
      t.activeTransactions.lookup tid = s.activeTransactions.lookup tid ∧
        t.v201Sessions.lookup tid = s.v201Sessions.lookup tid ∧ t.cells tid = s.cells tid ∧
        t.everAuthorized tid = s.everAuthorized tid ∧
        ((s.meterSamplers.lookup tid).isSome → (t.meterSamplers.lookup tid).isSome))
    (status : ∀ connectorId, s.status connectorId = .charging → t.status connectorId = .charging)
    (past : (t.cells transactionId).chargingState ≠ .evConnected → t.everAuthorized transactionId)
    (own : ∀ connectorId session, t.activeTransactions.lookup transactionId = some connectorId →
      t.v201Sessions.lookup transactionId = some session → session.plugInitiated →
      t.everAuthorized transactionId → session.idTag ≠ "" ∧ t.status connectorId = .charging ∧
        (t.meterSamplers.lookup transactionId).isSome) : EnergisedFirst t where
  authorized tid listed gone := by
    by_cases here : tid = transactionId
    · subst here
      exact past gone
    · obtain ⟨-, sessions, cells, ever, -⟩ := others tid here
      rw [ever]
      exact inv.authorized tid (sessions ▸ listed) (cells ▸ gone)
  plugged tid connectorId session live listed plug authorized := by
    by_cases here : tid = transactionId
    · subst here
      exact own connectorId session live listed plug authorized
    · obtain ⟨active, sessions, -, ever, samplers⟩ := others tid here
      obtain ⟨identified, charging, sampled⟩ := inv.plugged tid connectorId session (active ▸ live)
        (sessions ▸ listed) plug (ever ▸ authorized)
      exact ⟨identified, status connectorId charging, samplers sampled⟩

theorem plug {evseId : Int} {outcome : Except OcppError ChargingStateChangeOutcome}
    (ended : PlugOutcome evseId s outcome t) : EnergisedFirst t := by
  cases ended with
  | untouched => exact inv
  | emit _ _ emits => exact inv.emit (fun other => absurd rfl other) emits
  | notOpened answer =>
      exact inv.of_same rfl (fun tid session listed => ⟨listed, id, inv.listed_past listed⟩) rfl rfl
  | opened connectorId here response =>
      refine inv.of_touched s.nextV201TransactionId (fun tid other => ?_) (fun _ charging => charging)
        ?_ ?_
      · simp [Station.insertActive, Station.insertSession, Station.called, Station.mintTransactionId, other]
      · simp [Station.insertActive, Station.insertSession]
      · simp [Station.insertActive, Station.insertSession]

omit inv in
theorem energize_charging (connectorId target : Nat) (s : Station)
    (charging : s.status target = .charging ∨ target = connectorId ∧ connectorId ∈ config.connectors) :
    (s.energize config connectorId).status target = .charging := by
  rw [Station.energize_status]
  split_ifs with known
  · rw [Function.update_apply]
    split_ifs with here
    · rfl
    · exact charging.resolve_right fun same => here same.1
  · exact charging.resolve_right fun same => known same.2

/-- A start that authorizes a session the plug has opened, and energises its connector. -/
theorem folded {connectorId : Nat} {idTag : String} {transactionId : Int}
    (prepared authorized response : Response) (identified : idTag ≠ "")
    (known : connectorId ∈ config.connectors) (plugged : s.PlugOpened connectorId transactionId) :
    EnergisedFirst ((((s.fold connectorId idTag transactionId prepared authorized).energize config
      connectorId).called (.statusNotification connectorId .charging) (.replied response)).registerSampler
        transactionId connectorId) := by
  obtain ⟨active, session, listed, plug⟩ := plugged
  have folded := Station.fold_eq connectorId idTag transactionId prepared authorized listed
  refine inv.of_touched transactionId (fun tid other => ?_) (fun target charging => ?_) ?_ ?_
  · simp [Station.called, Station.registerSampler, folded, other]
  · exact energize_charging config _ _ _ (Or.inl (by rw [folded]; exact charging))
  · simp [Station.called, Station.registerSampler, folded]
  · intro target _ live listed' _ _
    simp only [Station.called, Station.registerSampler, Station.energize_activeTransactions,
      Station.energize_v201Sessions, folded, AList.lookup_insert, Option.some.injEq] at live listed'
    rw [active, Option.some.injEq] at live
    subst live listed'
    refine ⟨identified, energize_charging config _ _ _ (Or.inr ⟨rfl, known⟩), ?_⟩
    simp [Station.called, Station.registerSampler]

theorem opened {connectorId : Nat} {idTag : String} {meterStart transactionId : Int} {prepared : Response}
    {u : Station} {outcome : Except OcppError Unit} (v201 : config.protocolVersion = .v201)
    (opening : OpenOutcome config connectorId idTag meterStart
      (s.called (preparing connectorId) (.replied prepared)) (.ok transactionId) u)
    (energized : EnergizeOutcome config connectorId transactionId
      (u.insertActive transactionId connectorId) outcome t) : EnergisedFirst t := by
  cases opening with
  | v16jAccepted v16j => rw [v16j] at v201; cases v201
  | v201Accepted _ response =>
      obtain ⟨active, sessions, -, cells, ever⟩ := energized.same
      obtain ⟨status, samplers⟩ := energized.runs_on
      refine inv.of_touched s.nextV201TransactionId (fun tid other => ?_) (fun target charging => ?_) ?_ ?_
      · refine ⟨?_, ?_, ?_, ?_, samplers tid⟩
        · rw [active]
          exact AList.lookup_insert_ne other
        · rw [sessions]
          exact AList.lookup_insert_ne other
        · rw [cells]
          exact Function.update_of_ne other _ _
        · rw [ever]
          exact Function.update_of_ne other _ _
      · rw [status]
        exact energize_charging config _ _ _ (Or.inl charging)
      · intro _
        rw [ever]
        exact Function.update_self ..
      · intro target session _ listed plug
        rw [sessions] at listed
        cases (AList.lookup_insert _).symm.trans listed
        cases plug

theorem start {connectorId : Nat} {idTag : String} {meterStart : Int} {outcome : Except OcppError Int}
    (v201 : config.protocolVersion = .v201) (identified : idTag ≠ "")
    (known : connectorId ∈ config.connectors)
    (reports : (∃ entry ∈ s.made t, entry.1.Updates) →
      ∀ answer, (.statusNotification connectorId .charging, answer) ∈ s.made t → ¬answer.Fails)
    (ended : StartOutcome config connectorId idTag meterStart s outcome t) : EnergisedFirst t := by
  cases ended with
  | advanced => exact inv
  | notPrepared answer =>
      exact inv.of_same rfl (fun tid session listed => ⟨listed, id, inv.listed_past listed⟩) rfl rfl
  | notAuthorized transactionId plugged prepared answer =>
      refine inv.of_same rfl (fun tid session listed => ⟨listed, id, fun past => ?_⟩) rfl rfl
      exact inv.listed_past listed (s.claim_chargingState transactionId tid ▸ past)
  | folded transactionId plugged connected prepared authorized _ _ energized =>
      cases energized with
      | unreported answer _ fails =>
          -- the fold has sent an update, so the report of the connector is known to have been answered
          obtain ⟨-, session, listed, -⟩ := plugged
          have folded := Station.fold_eq connectorId idTag transactionId prepared authorized listed
          refine absurd (Answer.fails_of_error fails) (reports ?_ answer ?_)
          · refine ⟨(s.authorizedEvent connectorId transactionId, .replied authorized), ?_, rfl⟩
            simp [Station.made, folded]
          · simp [Station.made, folded]
      | energized response => exact inv.folded config prepared authorized response identified known plugged
  | notOpened prepared _ _ opening =>
      cases opening with
      | _ => exact inv.of_same rfl (fun tid session listed => ⟨listed, id, inv.listed_past listed⟩) rfl rfl
  | opened prepared transactionId u opening _ _ energized => exact inv.opened config v201 opening energized

theorem tornDown {connectorId : Nat} {transactionId : Int} (torn : TornDown connectorId transactionId s t) :
    EnergisedFirst t := by
  refine inv.of_same torn.active (fun tid session listed => ?_) torn.ever torn.status
  rw [torn.sessions] at listed
  obtain ⟨other, before⟩ := HashMap.lookup_erase_eq_some.mp listed
  refine ⟨before, ?_, ?_⟩
  · rw [torn.samplers, AList.lookup_erase_ne other]
    exact id
  · rw [torn.cells tid other]
    exact inv.listed_past before

theorem called (request : Request) (answer : Answer) : EnergisedFirst (s.called request answer) :=
  inv.of_same rfl (fun _ _ listed => ⟨listed, id, inv.listed_past listed⟩) rfl rfl

theorem free {connectorId : Nat} {transactionId : Int}
    (alone : ∀ tid, tid ≠ transactionId → s.PlugOpened connectorId tid → ¬s.everAuthorized tid) :
    EnergisedFirst (s.free config connectorId transactionId) := by
  rw [Station.free_eq]
  constructor
  · exact inv.authorized
  · intro tid target session live listed plug authorized
    obtain ⟨other, before⟩ := HashMap.lookup_erase_eq_some.mp live
    obtain ⟨identified, charging, sampled⟩ :=
      inv.plugged tid target session before listed plug authorized
    refine ⟨identified, ?_, by rwa [AList.lookup_erase_ne other]⟩
    have elsewhere : target ≠ connectorId := by
      rintro rfl
      exact alone tid other ⟨before, session, listed, plug⟩ authorized
    dsimp only
    split_ifs
    · rw [Function.update_of_ne elsewhere, charging]
    · exact charging

theorem stop {transactionId meterStop : Int} {reason : Reason} {outcome : Except OcppError Unit}
    (v201 : config.protocolVersion = .v201)
    (alone : ∀ connectorId, s.activeTransactions.lookup transactionId = some connectorId →
      (∃ answer, (available connectorId, answer) ∈ s.made t) →
        ∀ tid, tid ≠ transactionId → s.PlugOpened connectorId tid → ¬s.everAuthorized tid)
    (ended : StopOutcome config transactionId meterStop reason s outcome t) : EnergisedFirst t := by
  have freed : ∀ connectorId u finished,
      CloseOutcome config connectorId transactionId meterStop reason s (.ok ()) u →
      (∀ tid, tid ≠ transactionId → s.PlugOpened connectorId tid → ¬s.everAuthorized tid) →
      EnergisedFirst ((u.called (finishing connectorId) (.replied finished)).free config connectorId
        transactionId) := by
    intro connectorId u finished closing others
    have torn := closing.tornDown config v201
    refine ((inv.tornDown torn).called _ _).free config fun tid other opened authorized => ?_
    obtain ⟨live, session, listed, plug⟩ := opened
    have before : s.v201Sessions.lookup tid = some session := by
      rw [← listed, ← AList.lookup_erase_ne other, ← torn.sessions]
      rfl
    have ever : s.everAuthorized tid := by
      rw [← torn.ever]
      exact authorized
    exact others tid other ⟨torn.active ▸ live, session, before, plug⟩ ever
  cases ended with
  | unknown => exact inv
  | unclosed connectorId active _ _ closing => exact inv.tornDown (closing.tornDown config v201)
  | unfinished connectorId active u closing answer =>
      exact (inv.tornDown (closing.tornDown config v201)).called _ _
  | unavailable connectorId active u closing finished answer =>
      have reported := closing.available_made config finished answer
      exact (freed connectorId u finished closing (alone connectorId active ⟨answer, reported⟩)).called _ _
  | stopped connectorId active u closing finished response _ drained =>
      have reported := closing.available_made config finished (.replied response)
      obtain ⟨_, _, _, _, rfl⟩ := drained
      have reached := (freed connectorId u finished closing
        (alone connectorId active ⟨_, reported⟩)).called (available connectorId) (.replied response)
      exact ⟨reached.authorized, reached.plugged⟩

theorem step {completion : Completion} (v201 : config.protocolVersion = .v201)
    (condition : AuthorizesFirst config rfc s completion)
    (completed : s.complete config rfc completion = some t) : EnergisedFirst t := by
  obtain ⟨drives, condition⟩ := condition
  have ended := drive_outcome config rfc completed drives
  obtain ⟨call, choices⟩ := completion
  cases call with
  | startTransaction connectorId idTag meterStart =>
      obtain ⟨outcome, ended⟩ := ended
      obtain ⟨identified, known, -, reports⟩ := condition
      exact inv.start config v201 identified known (reports t completed) ended
  | stopTransaction transactionId meterStop reason =>
      obtain ⟨outcome, ended⟩ := ended
      exact inv.stop config v201 (fun connectorId => condition t connectorId completed) ended
  | plugInCable evseId =>
      obtain ⟨outcome, ended⟩ := ended
      exact inv.plug ended
  | transitionChargingState evseId newState =>
      rcases ended with rfl | ⟨outcome, ended⟩
      · exact inv
      · exact inv.emit (fun _ => condition) ended
  | deauthorize idTag =>
      obtain rfl : t = s.deauthorize idTag := ended
      refine inv.of_same rfl (fun tid session listed => ⟨listed, id, fun past => ?_⟩) rfl rfl
      refine inv.listed_past listed fun connected => past ?_
      rw [← connected, Station.deauthorize]
      dsimp only
      split_ifs <;> rfl
  | v201SetChargingProfile evseId profile =>
      rcases ended with rfl | ⟨rfl, -⟩
      · exact inv
      · exact ⟨inv.authorized, inv.plugged⟩
  | v201ClearChargingProfile chargingProfileId criteria =>
      obtain ⟨profiles, rfl, -⟩ := ended
      exact ⟨inv.authorized, inv.plugged⟩
  | _ => exact drives.elim

omit inv in
theorem energised_of {connectorId : Nat} {transactionId : Int} (known : connectorId ∈ config.connectors)
    (authorized : (s.cells transactionId).authorized)
    (named : ∃ session, s.v201Sessions.lookup transactionId = some session ∧ session.idTag ≠ "")
    (ended : EnergizeOutcome config connectorId transactionId s (.ok ()) t) :
    Energised connectorId transactionId t := by
  obtain ⟨-, sessions, -, cells, -⟩ := ended.same
  cases ended with
  | energized response =>
      refine ⟨cells ▸ authorized, sessions ▸ named, ?_, ?_⟩
      · exact energize_charging config _ _ _ (Or.inr ⟨rfl, known⟩)
      · simp [Station.registerSampler]

/-- A start that returns has either folded onto a plugged session, opened a transaction of its own, or
found a plugged session that was authorized before. -/
theorem start_ok {connectorId : Nat} {idTag : String} {meterStart transactionId : Int}
    (v201 : config.protocolVersion = .v201) (identified : idTag ≠ "")
    (known : connectorId ∈ config.connectors)
    (authorized : ∀ tid, s.PlugOpened connectorId tid → (s.cells tid).chargingState ≠ .evConnected →
      (s.cells tid).authorized)
    (ended : StartOutcome config connectorId idTag meterStart s (.ok transactionId) t) :
    Energised connectorId transactionId t := by
  cases ended with
  | advanced _ plugged past =>
      obtain ⟨active, session, listed, plug⟩ := plugged
      have ever := inv.listed_past listed past
      obtain ⟨named, charging, sampled⟩ :=
        inv.plugged transactionId connectorId session active listed plug ever
      exact ⟨authorized transactionId ⟨active, session, listed, plug⟩ past, ⟨session, listed, named⟩,
        charging, sampled⟩
  | folded tid plugged connected prepared reported outcome _ energized ended =>
      obtain ⟨active, session, listed, plug⟩ := plugged
      have folded := Station.fold_eq connectorId idTag tid prepared reported listed
      cases outcome with
      | error _ => cases ended
      | ok _ =>
          cases ended
          refine energised_of config known ?_ ?_ energized
          · simp [folded]
          · exact ⟨⟨idTag, session.plugInitiated, none⟩, by simp [folded], identified⟩
  | opened prepared tid u opening outcome _ energized ended =>
      cases outcome with
      | error _ => cases ended
      | ok _ =>
          cases ended
          cases opening with
          | v16jAccepted v16j => rw [v16j] at v201; cases v201
          | v201Accepted _ response =>
              refine energised_of config known ?_ ?_ energized
              · simp [Station.insertActive, Station.insertSession]
              · exact ⟨⟨idTag, false, none⟩, AList.lookup_insert _, identified⟩

end EnergisedFirst

theorem energisedFirst_new : EnergisedFirst Station.new := by
  constructor
  · intro transactionId listed
    simp [Station.new] at listed
  · intro transactionId connectorId session live
    simp [Station.new] at live

/-- In every run of completed calls that meet the conditions, every start that returns a transaction has
authorized and energised it, and no session ever draws power that no start has authorized. -/
theorem started_is_energised {completions : List Completion} (v201 : config.protocolVersion = .v201)
    (along : Along (Station.complete config rfc) (AuthorizesFirst config rfc) Station.new completions) :
    Along (Station.complete config rfc) (StartsEnergised config) Station.new completions ∧
      ∀ s, run (Station.complete config rfc) Station.new completions = some s → AuthorizedFirst s := by
  have kept : ∀ s completion t, EnergisedFirst s → AuthorizesFirst config rfc s completion →
      s.complete config rfc completion = some t → EnergisedFirst t :=
    fun _ _ _ inv condition completed => inv.step config rfc v201 condition completed
  constructor
  · refine along.of_invariant kept (fun s completion inv condition => ?_) energisedFirst_new
    refine ⟨inv.authorizedFirst, ?_⟩
    obtain ⟨call, choices⟩ := completion
    cases call with
    | startTransaction connectorId idTag meterStart =>
        intro transactionId t ran
        obtain ⟨-, identified, known, authorized, -⟩ := condition
        exact inv.start_ok config v201 identified known authorized
          (post_of_eval (startTransaction_outcome config connectorId idTag meterStart s) ran)
    | _ => trivial
  · intro s ran
    exact (run_invariant kept energisedFirst_new along ran).authorizedFirst

/-! ## A session that draws power unauthorized -/

def pluggedIn : Completion :=
  ⟨.plugInCable 1, [.pick none, .none, answered 0, .none, .none]⟩

def foldedStart : Completion :=
  ⟨.startTransaction 1 "TAG" 0, [.pick (some 1), .none, .none, answered 0, .none, answered 0, .none, .none,
    .none, .none, .none, .none, answered 0, .none]⟩

theorem not_fails_of_all {made : List (Request × Answer)} {entry : Request × Answer} (member : entry ∈ made)
    (answered : made.all fun entry => decide ¬entry.2.Fails) : ¬entry.2.Fails :=
  of_decide_eq_true (List.all_eq_true.mp answered entry member)

theorem folded_start_energised :
    ∃ s t, Station.complete (simulator .v201) noDates Station.new pluggedIn = some s ∧
      (startTransaction (simulator .v201) 1 "TAG" 0).eval exec foldedStart.choices s = some (.ok 1, t) ∧
        Energised 1 1 t := by
  have along : Along (Station.complete (simulator .v201) noDates)
      (AuthorizesFirst (simulator .v201) noDates) Station.new [pluggedIn, foldedStart] := by
    refine ⟨⟨trivial, trivial⟩, fun s stepped => ⟨⟨trivial, ?_⟩, fun _ _ => trivial⟩⟩
    cases stepped
    refine ⟨by decide, by decide, ?_, ?_⟩
    · rintro tid ⟨active, -⟩ past
      by_cases plugged : tid = 1
      · subst plugged
        exact absurd rfl past
      · cases (AList.lookup_insert_ne plugged).symm.trans active
    · rintro t ⟨⟩ - answer reported fails
      exact not_fails_of_all reported rfl fails
  have started := (started_is_energised (simulator .v201) noDates rfl along).1
  refine ⟨_, _, rfl, rfl, ?_⟩
  exact (started.2 _ rfl).1.2 1 _ rfl

/-- The driver hook moves the plugged session on before anybody has authorized it. -/
def powered : Completion :=
  ⟨.transitionChargingState 1 .charging, [.pick (some 1), .none, .none, .none, answered 0, .none, .none]⟩

def lateStart : Completion :=
  ⟨.startTransaction 1 "TAG" 0, [.pick (some 1), .none, .none, .none]⟩

theorem late_start_not_energised :
    ∃ s t, run (Station.complete (simulator .v201) noDates) Station.new [pluggedIn, powered] = some s ∧
      (startTransaction (simulator .v201) 1 "TAG" 0).eval exec lateStart.choices s = some (.ok 1, t) ∧
        ¬Energised 1 1 t ∧ ¬AuthorizedFirst s := by
  refine ⟨_, _, rfl, rfl, fun energised => ?_, fun first => ?_⟩
  · exact absurd energised.authorized (by decide)
  · exact absurd (first 1 rfl (Or.inl rfl)) (by decide)

end Ocpp.ChargePoint
