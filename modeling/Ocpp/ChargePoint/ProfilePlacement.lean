import Ocpp.ChargePoint.ChargingProfiles
import Ocpp.ChargePoint.CompositeOrder

/-!
# Placement of 1.6J charging profiles

The handlers of `SetChargingProfile`, `ClearChargingProfile` and `GetCompositeSchedule` over the store. Maximum
profiles are placed on the whole charge point only, so no two of the ceilings of a connector tie, and the schedule
that is composed in a requested unit depends on the profiles that are installed and not on how they came to be.
-/

namespace Ocpp.ChargingProfiles
open Library V16j Composite

inductive ChargingProfileStatus
  | accepted
  | rejected
  | notSupported
  deriving DecidableEq, Repr

inductive GetCompositeScheduleStatus
  | accepted
  | rejected
  deriving DecidableEq, Repr

def setProfileStatus (connectorId : Int) (connectorKnown transactionActive : Bool)
    (purpose : ChargingProfilePurposeType) : ChargingProfileStatus :=
  if connectorId ≠ 0 ∧ !connectorKnown then .rejected
  else
    match purpose with
    | .chargePointMaxProfile => if connectorId ≠ 0 then .rejected else .accepted
    | .txProfile => if connectorId = 0 ∨ !transactionActive then .rejected else .accepted
    | .txDefaultProfile => .accepted

/-- The id that is cast to a `ConnectorId`, unless it is 0. -/
def toConnectorId (connectorId : Int) : Option Nat :=
  let id := (BitVec.ofInt 32 connectorId).toNat
  if id = 0 then none else some id

structure GetCompositeScheduleRequest where
  connectorId : Int
  duration : Int
  chargingRateUnit : Option ChargingRateUnitType

structure GetCompositeScheduleResponse where
  status : GetCompositeScheduleStatus
  connectorId : Option Int
  scheduleStart : Option DateTime
  chargingSchedule : Option ChargingSchedule

structure ProfileStation where
  chargingProfiles : ChargingProfileStore
  activeTransactions : HashMap Int Nat

namespace ProfileStation

inductive Action
  | setChargingProfile (connectorId : Int) (csChargingProfiles : ChargingProfile)
  | clearChargingProfile (filter : ChargingProfileStore.ClearFilter)
  | startTransaction (transactionId : Int) (connectorId : Nat)
  | stopTransaction (transactionId : Int)

def new : ProfileStation :=
  ⟨∅, ∅⟩

section

variable (connectors : List Nat) (s : ProfileStation)

def connectorKnown (connectorId : Int) : Bool :=
  (toConnectorId connectorId).any (· ∈ connectors)

def setChargingProfile (connectorId : Int) (csChargingProfiles : ChargingProfile) :
    ChargingProfileStatus × ProfileStation :=
  let transactionActive := (toConnectorId connectorId).any fun cid =>
    s.activeTransactions.entries.any fun e => e.2 = cid
  let status := setProfileStatus connectorId (connectorKnown connectors connectorId) transactionActive
    csChargingProfiles.chargingProfilePurpose
  (status, if status = .accepted then
      { s with chargingProfiles := s.chargingProfiles.set connectorId csChargingProfiles }
    else s)

def step : Action → Option ProfileStation
  | .setChargingProfile connectorId csChargingProfiles =>
      some (s.setChargingProfile connectors connectorId csChargingProfiles).2
  | .clearChargingProfile filter => some { s with chargingProfiles := (s.chargingProfiles.clear filter).2 }
  | .startTransaction transactionId connectorId =>
      some { s with activeTransactions := s.activeTransactions.insert transactionId connectorId }
  | .stopTransaction transactionId => some { s with activeTransactions := s.activeTransactions.erase transactionId }

/-- The profiles of the connector, and those of the whole charge point unless that is what is asked for. -/
def candidates (connectorId : Int) : List ScopedProfile :=
  (s.chargingProfiles.profilesFor connectorId).map (⟨true, ·⟩) ++
    if connectorId ≠ 0 then (s.chargingProfiles.profilesFor 0).map (⟨false, ·⟩) else []

def getCompositeSchedule (start : DateTime) (req : GetCompositeScheduleRequest) : GetCompositeScheduleResponse :=
  let rejected : GetCompositeScheduleResponse := ⟨.rejected, none, none, none⟩
  if req.connectorId ≠ 0 ∧ !connectorKnown connectors req.connectorId then rejected
  else
    match computeComposite (s.candidates req.connectorId) start req.duration req.chargingRateUnit with
    | some schedule => ⟨.accepted, some req.connectorId, some start, some schedule⟩
    | none => rejected

end

/-! ## Where profiles are -/

/-- Maximum profiles are on the whole charge point, profiles of transactions on a connector, and every connector with
profiles is known. -/
structure Placed (connectors : List Nat) (s : ProfileStation) : Prop where
  store : ChargingProfileStore.Inv s.chargingProfiles
  known : ∀ e ∈ s.chargingProfiles.installed, e.1 = 0 ∨ connectorKnown connectors e.1
  max : ∀ e ∈ s.chargingProfiles.installed, e.2.chargingProfilePurpose = .chargePointMaxProfile → e.1 = 0
  transaction : ∀ e ∈ s.chargingProfiles.installed, e.2.chargingProfilePurpose = .txProfile → e.1 ≠ 0

variable {connectors : List Nat} {s t : ProfileStation}

theorem setProfileStatus_accepted {connectorId : Int} {known active : Bool} {purpose : ChargingProfilePurposeType}
    (accepted : setProfileStatus connectorId known active purpose = .accepted) :
    (connectorId = 0 ∨ known) ∧ (purpose = .chargePointMaxProfile → connectorId = 0) ∧
      (purpose = .txProfile → connectorId ≠ 0) := by
  unfold setProfileStatus at accepted
  split at accepted
  · cases accepted
  rename_i unknown
  have placed : connectorId = 0 ∨ known := by
    by_contra neither
    obtain ⟨real, unlisted⟩ := not_or.mp neither
    exact unknown ⟨real, by simpa using unlisted⟩
  refine ⟨placed, ?_, ?_⟩
  · rintro rfl
    by_contra real
    simp [real] at accepted
  · rintro rfl rfl
    simp at accepted

theorem placed_new : Placed connectors new where
  store := ChargingProfileStore.inv_empty
  known := by simp [new, ChargingProfileStore.installed, HashMap.pairs]
  max := by simp [new, ChargingProfileStore.installed, HashMap.pairs]
  transaction := by simp [new, ChargingProfileStore.installed, HashMap.pairs]

/-- A profile that is still there was there before, or is the one that was installed. -/
theorem mem_installed_set {store : ChargingProfileStore} {connectorId : Int} {profile : ChargingProfile}
    {e : Int × ChargingProfile} (member : e ∈ (store.set connectorId profile).installed) :
    e = (connectorId, profile) ∨ e ∈ store.installed := by
  rw [(ChargingProfileStore.installed_set_perm store connectorId profile).mem_iff, List.mem_cons] at member
  exact member.imp_right List.mem_of_mem_filter

theorem Placed.step (placed : Placed connectors s) {action : Action} (stepped : step connectors s action = some t) :
    Placed connectors t := by
  cases action with
  | setChargingProfile connectorId profile =>
      obtain rfl := Option.some.inj stepped
      simp only [setChargingProfile]
      split_ifs with accepted
      · obtain ⟨known, max, transaction⟩ := setProfileStatus_accepted accepted
        refine ⟨placed.store.set connectorId profile, ?_, ?_, ?_⟩
        · intro e member
          obtain rfl | before := mem_installed_set member
          · exact known
          · exact placed.known e before
        · intro e member
          obtain rfl | before := mem_installed_set member
          · exact max
          · exact placed.max e before
        · intro e member
          obtain rfl | before := mem_installed_set member
          · exact transaction
          · exact placed.transaction e before
      · exact placed
  | clearChargingProfile filter =>
      obtain rfl := Option.some.inj stepped
      have kept : ∀ e ∈ ((s.chargingProfiles.clear filter).2).installed, e ∈ s.chargingProfiles.installed := by
        intro e member
        rw [ChargingProfileStore.installed_clear] at member
        exact List.mem_of_mem_filter member
      exact ⟨placed.store.clear filter, fun e member => placed.known e (kept e member),
        fun e member => placed.max e (kept e member), fun e member => placed.transaction e (kept e member)⟩
  | startTransaction transactionId connectorId | stopTransaction transactionId =>
      obtain rfl := Option.some.inj stepped
      exact ⟨placed.store, placed.known, placed.max, placed.transaction⟩

theorem placed_run {actions : List Action} (ran : run (step connectors) new actions = some s) : Placed connectors s :=
  run_invariant (fun _ _ _ placed _ stepped => placed.step stepped) placed_new (.always _ _) ran

/-! ## What is composed -/

theorem mem_candidates {connectorId : Int} {c : ScopedProfile} :
    c ∈ s.candidates connectorId ↔
      (c.specific = true ∧ (connectorId, c.profile) ∈ s.chargingProfiles.installed) ∨
      (c.specific = false ∧ connectorId ≠ 0 ∧ (0, c.profile) ∈ s.chargingProfiles.installed) := by
  obtain ⟨specific, profile⟩ := c
  by_cases whole : connectorId = 0 <;>
    cases specific <;> simp [candidates, whole, ChargingProfileStore.mem_installed]

theorem slots_profilesFor {store : ChargingProfileStore} (inv : ChargingProfileStore.Inv store) (connectorId : Int) :
    ((store.profilesFor connectorId).map slot).Nodup := by
  have onConnector := inv.slots.sublist
    ((List.filter_sublist (p := fun e : Int × ChargingProfile => e.1 = connectorId)).map _)
  rw [ChargingProfileStore.installed, HashMap.pairs_filter_key] at onConnector
  refine List.Nodup.of_map (fun s => (connectorId, s)) ?_
  simpa [Function.comp_def, ChargingProfileStore.profilesFor] using onConnector

theorem Placed.distinct (placed : Placed connectors s) (connectorId : Int) : Distinct (s.candidates connectorId) := by
  have alone : ∀ (specific : Bool) (connectorId : Int),
      (((s.chargingProfiles.profilesFor connectorId).map (ScopedProfile.mk specific)).map fun c =>
        (c.profile.chargingProfilePurpose, c.specific, c.profile.stackLevel)).Nodup := by
    intro specific connectorId
    have slots := slots_profilesFor placed.store connectorId
    refine List.Nodup.of_map (fun key => (key.1, key.2.2)) ?_
    rw [List.map_map, List.map_map]
    exact slots
  rw [Distinct, candidates, List.map_append]
  refine List.Nodup.append (alone true connectorId) ?_ ?_
  · split_ifs
    · exact alone false 0
    · exact List.nodup_nil
  · -- the scope of a candidate tells the two apart
    intro key own inherited
    obtain ⟨c, member, rfl⟩ := List.mem_map.mp own
    obtain ⟨profile, -, rfl⟩ := List.mem_map.mp member
    split_ifs at inherited
    · obtain ⟨d, member', same⟩ := List.mem_map.mp inherited
      obtain ⟨profile', -, rfl⟩ := List.mem_map.mp member'
      simp at same
    · simp at inherited

/-- Maximum profiles are in the scope of the whole charge point. -/
theorem Placed.ceiling_specific (placed : Placed connectors s) {connectorId : Int} {c : ScopedProfile}
    (member : c ∈ s.candidates connectorId) (ceiling : c.profile.chargingProfilePurpose = .chargePointMaxProfile) :
    c.specific = decide (connectorId = 0) := by
  obtain ⟨specific, installed⟩ | ⟨inherited, real, -⟩ := mem_candidates.mp member
  · have whole := placed.max _ installed ceiling
    simp only at whole
    rw [specific, whole, decide_eq_true rfl]
  · rw [inherited, decide_eq_false real]

theorem Placed.ceilingSettled (placed : Placed connectors s) (connectorId : Int) (start : DateTime)
    (durationSecs : Int) (requestedUnit : Option ChargingRateUnitType) :
    CeilingSettled (s.candidates connectorId) start durationSecs requestedUnit := by
  intro t boundary unit x y reporting first second
  obtain ⟨c, ceiling, limit⟩ := List.mem_filterMap.mp first.1
  obtain ⟨d, ceiling', limit'⟩ := List.mem_filterMap.mp second.1
  obtain ⟨among, purpose⟩ := List.mem_filter.mp ceiling
  obtain ⟨among', purpose'⟩ := List.mem_filter.mp ceiling'
  simp only [decide_eq_true_eq] at purpose purpose'
  have level : x.1 = y.1 := le_antisymm (second.2 x first.1) (first.2 y second.1)
  obtain ⟨contrib, limited, rfl⟩ := Option.map_eq_some_iff.mp limit
  obtain ⟨contrib', limited', rfl⟩ := Option.map_eq_some_iff.mp limit'
  -- both are in one scope, and a scope has one ceiling for a stack level
  obtain rfl : c = d := List.inj_on_of_nodup_map (placed.distinct connectorId) among among' (by
    simp only at level
    rw [purpose, purpose', placed.ceiling_specific among purpose, placed.ceiling_specific among' purpose', level])
  rw [limited] at limited'
  cases limited'
  exact .inl rfl

/-- In every reachable state the composite schedule of a connector depends on which profiles are installed, and not on
the requests that have led there, as long as the overrides settle the unit it is reported in. A requested unit does. -/
theorem composite_determined {actions actions' : List Action} {s' : ProfileStation}
    (ran : run (step connectors) new actions = some s) (ran' : run (step connectors) new actions' = some s')
    (same : ∀ e, e ∈ s.chargingProfiles.installed ↔ e ∈ s'.chargingProfiles.installed) (start : DateTime)
    (req : GetCompositeScheduleRequest)
    (settled : req.duration ≤ 0 ∨ Unconstrained (s.candidates req.connectorId) start req.duration ∨
      UnitSettled (s.candidates req.connectorId) req.chargingRateUnit) :
    s.getCompositeSchedule connectors start req = s'.getCompositeSchedule connectors start req := by
  have placed := placed_run ran
  have permuted : (s'.candidates req.connectorId).Perm (s.candidates req.connectorId) := by
    refine (List.perm_ext_iff_of_nodup ((placed_run ran').distinct _).of_map (placed.distinct _).of_map).mpr ?_
    intro c
    simp only [mem_candidates, same]
  have ceilings := placed.ceilingSettled req.connectorId start req.duration req.chargingRateUnit
  have independent : OrderIndependent (s.candidates req.connectorId) start req.duration req.chargingRateUnit :=
    orderIndependent_of_settled (placed.distinct _) (settled.imp_right (·.imp_right (⟨·, ceilings⟩)))
  have composed := independent.1 _ permuted
  simp only [getCompositeSchedule, composed]

def wholeFirst : List Action :=
  [.setChargingProfile 0 (defaultProfile 5 .W 11000), .setChargingProfile 1 (defaultProfile 1 .A 16)]

theorem wholeFirst_determined :
    ∃ s s', run (step [1]) new wholeFirst = some s ∧ run (step [1]) new wholeFirst.reverse = some s' ∧
      (s.getCompositeSchedule [1] ⟨0⟩ ⟨1, 60, some .W⟩).status = .accepted ∧
      s.getCompositeSchedule [1] ⟨0⟩ ⟨1, 60, some .W⟩ = s'.getCompositeSchedule [1] ⟨0⟩ ⟨1, 60, some .W⟩ := by
  have ran : run (step [1]) new wholeFirst = some _ := rfl
  have ran' : run (step [1]) new wholeFirst.reverse = some _ := rfl
  refine ⟨_, _, ran, ran', by decide +kernel, composite_determined ran ran' ?_ ⟨0⟩ ⟨1, 60, some .W⟩ ?_⟩
  · intro e
    have installed : e ∈ [(1, defaultProfile 1 .A 16), ((0 : Int), defaultProfile 5 .W 11000)] ↔
        e ∈ [((0 : Int), defaultProfile 5 .W 11000), (1, defaultProfile 1 .A 16)] := by
      simp [or_comm]
    exact installed
  · exact .inr (.inr nofun)

end ProfileStation

end Ocpp.ChargingProfiles
