import Ocpp.ChargePoint.Outcomes

/-!
# Runs of completed calls

A charge point whose calls run one after the other, each to its end. What one call leaves behind is
stated once for all calls that touch transactions and their profiles.
-/

namespace Ocpp.ChargePoint
open Library Library.Program V16j V201

variable (config : Config) (rfc : Rfc3339)

/-- A call together with what the environment decides about its operations. -/
structure Completion where
  call : Call
  choices : List Choice

/-- The consumer is task 0. -/
def Call.task : Call → Nat
  | command _ => 0
  | _ => 1

def Station.complete (s : Station) (completion : Completion) : Option Station :=
  (completion.call.start config rfc s completion.call.task).bind fun (p, s) =>
    (p.eval exec completion.choices s).map (·.2)

/-- The calls that open, drive and close transactions or change their profiles. -/
def Call.Drives : Call → Prop
  | startTransaction .. | stopTransaction .. | plugInCable _ | transitionChargingState ..
  | deauthorize _ | v201SetChargingProfile .. | v201ClearChargingProfile .. => True
  | _ => False

/-- Setting a profile installs it on an EVSE with a transaction, or does nothing. -/
def SetProfileOutcome (evseId : Int) (profile : ChargingProfileType) (s t : Station) : Prop :=
  t = s ∨ t = s.installTxProfile evseId profile ∧
    ∃ tid connectorId, s.activeTransactions.lookup tid = some connectorId ∧ evseId = (connectorId : Int)

theorem v201SetChargingProfile_outcome (evseId : Int) (profile : ChargingProfileType) (s : Station) :
    (v201SetChargingProfile evseId profile).wp exec
      (fun _ t => SetProfileOutcome evseId profile s t) s := by
  refine wp_act (fun _ => rfl) ?_
  dsimp only
  split_ifs with other busy
  · exact Or.inl rfl
  · obtain ⟨-, ⟨e, member, here⟩⟩ := And.imp_right List.any_eq_true.mp busy
    refine wp_act (fun _ => rfl) (Or.inr ⟨rfl, e.1, e.2, AList.mem_lookup_iff.mpr member, ?_⟩)
    exact (of_decide_eq_true here).symm
  · exact Or.inl rfl

/-- Clearing only takes profiles away. -/
def ClearProfileOutcome (s t : Station) : Prop :=
  ∃ v201TxProfiles : HashMap Int ChargingProfileType, t = { s with v201TxProfiles } ∧
    ∀ evseId, (v201TxProfiles.lookup evseId).isSome → (s.v201TxProfiles.lookup evseId).isSome

theorem v201ClearChargingProfile_outcome (chargingProfileId : Option Int)
    (criteria : Option ClearChargingProfileType) (s : Station) :
    (v201ClearChargingProfile chargingProfileId criteria).wp exec
      (fun _ t => ClearProfileOutcome s t) s := by
  refine wp_act (fun _ => rfl) ?_
  have each : ∀ (target : Int × ChargingProfileType) u, ClearProfileOutcome s u →
      (if target.2.chargingProfilePurpose = .txProfile then act (.clearTxProfile target.1)
        else pure () : Async Unit).wp exec (fun outcome t => outcome = .ok () ∧ ClearProfileOutcome s t) u := by
    rintro target u ⟨profiles, rfl, kept⟩
    split_ifs
    · intro choice result t performed
      cases performed
      refine ⟨rfl, _, rfl, fun evseId found => kept evseId ?_⟩
      by_cases here : evseId = target.1
      · subst here
        simp at found
      · rwa [AList.lookup_erase_ne here] at found
    · exact ⟨rfl, _, rfl, kept⟩
  exact wp_mono (fun _ _ ended => ended.2) (wp_forM _ (fun target _ => each target) ⟨_, rfl, fun _ found => found⟩)

/-- What one of these calls leaves behind. -/
def DriveOutcome (s t : Station) : Call → Prop
  | .startTransaction connectorId idTag meterStart =>
      ∃ outcome, StartOutcome config connectorId idTag meterStart s outcome t
  | .stopTransaction transactionId meterStop reason =>
      ∃ outcome, StopOutcome config transactionId meterStop reason s outcome t
  | .plugInCable evseId => ∃ outcome, PlugOutcome evseId s outcome t
  | .transitionChargingState evseId newState =>
      t = s ∨ ∃ outcome, EmitOutcome evseId newState .chargingStateChanged s outcome t
  | .deauthorize idTag => t = s.deauthorize idTag
  | .v201SetChargingProfile evseId profile => SetProfileOutcome evseId profile s t
  | .v201ClearChargingProfile _ _ => ClearProfileOutcome s t
  | _ => True

theorem Call.run_driveOutcome {call : Call} (drives : call.Drives) (s : Station) :
    (call.run config rfc).wp exec (fun _ t => DriveOutcome config s t call) s := by
  cases call with
  | startTransaction connectorId idTag meterStart =>
      exact wp_discard (wp_mono (fun _ _ ended => ⟨_, ended⟩)
        (startTransaction_outcome config connectorId idTag meterStart s))
  | stopTransaction transactionId meterStop reason =>
      exact wp_mono (fun _ _ ended => ⟨_, ended⟩)
        (stopTransaction_outcome config transactionId meterStop reason s)
  | plugInCable evseId =>
      exact wp_discard (wp_mono (fun _ _ ended => ⟨_, ended⟩) (plugInCable_outcome config evseId s))
  | transitionChargingState evseId newState =>
      exact wp_discard (wp_mono (fun _ _ ended => ended.imp_right fun emits => ⟨_, emits⟩)
        (transitionChargingState_outcome config evseId newState s))
  | deauthorize idTag => exact wp_act (fun _ => rfl) rfl
  | v201SetChargingProfile evseId profile =>
      exact wp_discard (v201SetChargingProfile_outcome evseId profile s)
  | v201ClearChargingProfile chargingProfileId criteria =>
      exact v201ClearChargingProfile_outcome chargingProfileId criteria s
  | _ => exact drives.elim

theorem Station.complete_eq_some {s t : Station} {completion : Completion}
    (completed : s.complete config rfc completion = some t) :
    ∃ u outcome, completion.call.start config rfc s completion.call.task =
        some (completion.call.run config rfc, u) ∧
      (completion.call.run config rfc).eval exec completion.choices u = some (outcome, t) := by
  obtain ⟨⟨p, u⟩, started, ran⟩ := Option.bind_eq_some_iff.mp completed
  obtain ⟨⟨outcome, t⟩, ended, rfl⟩ := Option.map_eq_some_iff.mp ran
  obtain ⟨rfl, -⟩ := Call.start_shared started
  exact ⟨u, outcome, started, ended⟩

/-- Only a command and a timer are taken from the station when they start. -/
def Call.Fresh : Call → Prop
  | command _ | expire .. | samplerTick .. => False
  | _ => True

theorem Station.complete_fresh {s t : Station} {completion : Completion}
    (completed : s.complete config rfc completion = some t) (fresh : completion.call.Fresh) :
    ∃ outcome, (completion.call.run config rfc).eval exec completion.choices s = some (outcome, t) := by
  obtain ⟨u, outcome, started, ended⟩ := Station.complete_eq_some config rfc completed
  have permitted := (Option.ite_none_left_eq_some.mp started).2
  obtain ⟨call, choices⟩ := completion
  cases call <;> first
    | exact fresh.elim
    | obtain ⟨-, rfl⟩ := Prod.mk.inj (Option.some.inj permitted)
      exact ⟨outcome, ended⟩

theorem Call.Drives.fresh {call : Call} (drives : call.Drives) : call.Fresh := by
  cases call <;> first | exact drives.elim | trivial

theorem drive_outcome {s t : Station} {completion : Completion}
    (completed : s.complete config rfc completion = some t) (drives : completion.call.Drives) :
    DriveOutcome config s t completion.call := by
  obtain ⟨outcome, ran⟩ := Station.complete_fresh config rfc completed drives.fresh
  exact post_of_eval (Call.run_driveOutcome config rfc drives s) ran

end Ocpp.ChargePoint
