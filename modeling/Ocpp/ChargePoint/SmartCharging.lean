import Ocpp.ChargePoint.ProfileStores
import Ocpp.ChargePoint.ReportStreams
import Ocpp.ChargePoint.V201ReportedPower

/-!
# Smart charging

What the profiles of a 2.0.1 station are installed for: `GetCompositeSchedule` reports the limits in force on an EVSE,
and every tick of the meter sampler of a transaction is bound by them. A tick reads the stores one after the other,
while requests and calls go on changing them.
-/

namespace Ocpp.ChargePoint
open Library V201 V201ChargingProfiles
open ReportStreams (GenericStatusEnumType)

/-! ## Profiles in force -/

namespace ProfileStores

variable (s : ProfileStores) (evseId : Int)

/-- `V201TxDefaultProfileStore::effective_for`. -/
def txDefaultProfileFor : Option ChargingProfileType :=
  (s.v201TxDefaultProfiles.lookup evseId).or (s.v201TxDefaultProfiles.lookup 0)

/-- `V201StationCeilingStore::effective_for`. -/
def stationCeilingFor (kind : CeilingKind) : Option ChargingProfileType :=
  (s.v201StationCeilings.lookup (kind, evseId)).or (s.v201StationCeilings.lookup (kind, 0))

def effectiveProfile : Option ChargingProfileType :=
  match s.station.v201TxProfiles.lookup evseId with
  | some profile => some profile
  | none => s.txDefaultProfileFor evseId

def ceilings : List ChargingProfileType :=
  (s.stationCeilingFor evseId .max).toList ++ (s.stationCeilingFor evseId .external).toList

theorem Consistent.claim {stores : ProfileStores} (inv : stores.Consistent) (transactionId : Int) :
    ({ stores with station := stores.station.claim transactionId } : ProfileStores).Consistent where
  routed := by
    intro purpose
    cases purpose with
    | txProfile => exact inv.routed .txProfile
    | txDefaultProfile => exact inv.routed .txDefaultProfile
    | chargingStationMaxProfile => exact inv.routed .chargingStationMaxProfile
    | chargingStationExternalConstraints => exact inv.routed .chargingStationExternalConstraints
  queued := inv.queued

variable {s evseId}

/-- The action leaves the profile where it is. -/
def Action.Keeps (evseId : Int) (profile : ChargingProfileType) : Action → Prop
  | .call _ => profile.chargingProfilePurpose ≠ .txProfile
  | .setChargingProfile evseId' profile' =>
      profile'.chargingProfilePurpose = profile.chargingProfilePurpose → evseId' ≠ evseId
  | .clearChargingProfile chargingProfileId criteria => ¬Selects chargingProfileId criteria (evseId, profile)

theorem Routed.keeps (config : Config) (rfc : Rfc3339) (routed : s.Routed) {t : ProfileStores}
    {profile : ChargingProfileType} (held : s.slot profile.chargingProfilePurpose evseId = some profile)
    {action : Action} (keeps : action.Keeps evseId profile) (stepped : s.step config rfc action = some t) :
    t.slot profile.chargingProfilePurpose evseId = some profile := by
  cases action with
  | call completion =>
      obtain ⟨-, station, -, rfl⟩ := step_call config rfc stepped
      cases purpose : profile.chargingProfilePurpose with
      | txProfile => exact absurd purpose keeps
      | txDefaultProfile | chargingStationMaxProfile | chargingStationExternalConstraints =>
          rw [purpose] at held
          exact held
  | setChargingProfile evseId' profile' =>
      obtain rfl := Option.some.inj stepped
      simp only [setChargingProfile]
      split_ifs
      · rw [slot_install, if_neg]
        · exact held
        · rintro ⟨same, rfl⟩
          exact keeps same.symm rfl
      · exact held
  | clearChargingProfile chargingProfileId criteria =>
      obtain rfl := Option.some.inj stepped
      refine (s.slot_foldl_remove).mpr ⟨held, fun other matched same => keeps ?_⟩
      obtain ⟨member, selected⟩ := mem_matches.mp matched
      obtain ⟨purpose, held'⟩ := mem_installed.mp member
      rw [← routed purpose evseId other held', same, held] at held'
      cases held'
      exact selected

theorem effectiveProfile_installed {profile : ChargingProfileType}
    (effective : s.effectiveProfile evseId = some profile) : ∃ evseId, (evseId, profile) ∈ s.installed := by
  rw [effectiveProfile] at effective
  split at effective
  next profile' installed =>
    obtain rfl := Option.some.inj effective
    exact ⟨evseId, mem_installed.mpr ⟨.txProfile, installed⟩⟩
  next =>
    obtain own | ⟨-, stationWide⟩ := Option.or_eq_some_iff.mp effective
    · exact ⟨evseId, mem_installed.mpr ⟨.txDefaultProfile, own⟩⟩
    · exact ⟨0, mem_installed.mpr ⟨.txDefaultProfile, stationWide⟩⟩

theorem stationCeilingFor_slot {kind : CeilingKind} {profile : ChargingProfileType}
    (found : s.stationCeilingFor evseId kind = some profile) :
    ∃ purpose evseId, s.slot purpose evseId = some profile ∧ CeilingKind.fromPurpose purpose = some kind := by
  obtain own | ⟨-, stationWide⟩ := Option.or_eq_some_iff.mp found
  · cases kind with
    | max => exact ⟨.chargingStationMaxProfile, evseId, own, rfl⟩
    | external => exact ⟨.chargingStationExternalConstraints, evseId, own, rfl⟩
  · cases kind with
    | max => exact ⟨.chargingStationMaxProfile, 0, stationWide, rfl⟩
    | external => exact ⟨.chargingStationExternalConstraints, 0, stationWide, rfl⟩

theorem stationCeilingFor_installed {kind : CeilingKind} {profile : ChargingProfileType}
    (found : s.stationCeilingFor evseId kind = some profile) : ∃ evseId, (evseId, profile) ∈ s.installed := by
  obtain ⟨purpose, evseId, slot, -⟩ := stationCeilingFor_slot found
  exact ⟨evseId, mem_installed.mpr ⟨purpose, slot⟩⟩

theorem Consistent.stationCeilingFor_purpose (inv : s.Consistent) {kind : CeilingKind} {profile : ChargingProfileType}
    (found : s.stationCeilingFor evseId kind = some profile) :
    CeilingKind.fromPurpose profile.chargingProfilePurpose = some kind := by
  obtain ⟨purpose, evseId, slot, own⟩ := stationCeilingFor_slot found
  rw [inv.routed purpose evseId profile slot]
  exact own

theorem Consistent.txDefaultProfile_purpose (inv : s.Consistent) {profile : ChargingProfileType}
    (default : s.txDefaultProfileFor evseId = some profile) : profile.chargingProfilePurpose = .txDefaultProfile := by
  obtain own | ⟨-, stationWide⟩ := Option.or_eq_some_iff.mp default
  · exact inv.routed .txDefaultProfile evseId profile own
  · exact inv.routed .txDefaultProfile 0 profile stationWide

theorem Consistent.effectiveProfile_purpose (inv : s.Consistent) {profile : ChargingProfileType}
    (effective : s.effectiveProfile evseId = some profile) : profile.chargingProfilePurpose =
      if (s.slot .txProfile evseId).isSome then .txProfile else .txDefaultProfile := by
  rw [effectiveProfile] at effective
  rw [slot]
  split at effective
  next profile' installed =>
    obtain rfl := Option.some.inj effective
    rw [installed, Option.isSome_some, if_pos rfl]
    exact inv.routed .txProfile evseId profile' installed
  next absent =>
    rw [absent, Option.isSome_none, if_neg Bool.false_ne_true]
    exact inv.txDefaultProfile_purpose effective

end ProfileStores

/-! ## Composite schedules -/

structure ConnectorConfig where
  maxVoltage : ℚ
  maxPower : ℚ

structure V201GetCompositeScheduleRequest where
  duration : Int
  evseId : Int
  chargingRateUnit : Option ChargingRateUnitEnumType

structure V201GetCompositeScheduleResponse where
  status : GenericStatusEnumType
  schedule : Option CompositeScheduleType

def nominalVoltage (connectors : HashMap Nat ConnectorConfig) (evseId : Int) : ℚ :=
  -- the id is cast to an unsigned one, and 0 is the id of no connector
  let id := (BitVec.ofInt 32 evseId).toNat
  if id = 0 then 230 else (connectors.lookup id).elim 230 (·.maxVoltage)

def v201GetCompositeSchedule (text : Rfc3339) (connectors : HashMap Nat ConnectorConfig) (s : ProfileStores)
    (windowStart : DateTime) (req : V201GetCompositeScheduleRequest) : V201GetCompositeScheduleResponse :=
  match s.effectiveProfile req.evseId with
  | none => ⟨.rejected, none⟩
  | some profile =>
      match composeCompositeScheduleCapped text req.evseId profile (s.ceilings req.evseId) windowStart req.duration
          req.chargingRateUnit (nominalVoltage connectors req.evseId) with
      | some schedule => ⟨.accepted, some schedule⟩
      | none => ⟨.rejected, none⟩

/-! ## The meter sampler -/

structure MeterReading where
  energyWh : ℚ
  timestamp : DateTime

inductive ReadingContextEnumType
  | transactionBegin
  | samplePeriodic
  | transactionEnd
  deriving DecidableEq, Repr

inductive MeasurandEnumType
  | energyActiveImportRegister
  | powerActiveImport
  deriving DecidableEq, Repr

structure SampledValueType where
  value : ℚ
  context : ReadingContextEnumType
  measurand : MeasurandEnumType
  deriving DecidableEq, Repr

def periodicMeterValue (energyWh : ℚ) (boundedPowerW : Option ℚ) : List SampledValueType :=
  ⟨energyWh, .samplePeriodic, .energyActiveImportRegister⟩ ::
    (boundedPowerW.map fun powerW => ⟨powerW, .samplePeriodic, .powerActiveImport⟩).toList

/-- What a tick has taken of its transaction and its connector, and when it began. -/
structure Tick where
  begun : Nat
  elapsedS : Int
  seqNo : Int
  reading : MeterReading
  naturalPowerW : ℚ
  nominalVoltageV : ℚ

/-- A tick is suspended before each of the stores. -/
inductive SamplerStage
  | waiting
  | ticked (begun : Nat) (elapsedS : Int)
  | online (begun : Nat) (elapsedS : Int)
  | claimed (begun : Nat) (elapsedS seqNo : Int)
  | metered (tick : Tick)
  | undecided (tick : Tick)
  | resolved (tick : Tick) (effectiveProfile : Option ChargingProfileType)
  | capped (tick : Tick) (effectiveProfile maxCeiling : Option ChargingProfileType)

/-- Where the tick under way began, if one is. -/
def SamplerStage.begun : SamplerStage → Option Nat
  | .waiting => none
  | .ticked begun _ | .online begun _ | .claimed begun _ _ => some begun
  | .metered tick | .undecided tick | .resolved tick _ | .capped tick _ _ => some tick.begun

structure MeterSampler where
  transactionId : Int
  connectorId : Nat
  txStart : DateTime
  elapsedS : Int
  stage : SamplerStage

/-- The id of the connector, cast to the id of an EVSE. -/
def MeterSampler.evseId (sampler : MeterSampler) : Int :=
  (BitVec.ofNat 32 sampler.connectorId).toInt

/-- A `TransactionEvent(Updated)` that a tick has sent, with the stores from when the tick began to when it was sent. -/
structure PeriodicSample where
  sampler : MeterSampler
  tick : Tick
  meterValue : List SampledValueType
  during : List ProfileStores

/-- The power the sample stands for: the bound it reports, and the natural power if it reports none. -/
def PeriodicSample.powerW (sample : PeriodicSample) : ℚ :=
  ((sample.meterValue.find? (·.measurand = .powerActiveImport)).map (·.value)).getD sample.tick.naturalPowerW

structure SmartCharging where
  stores : ProfileStores
  isConnected : Bool
  samplers : Nat → Option MeterSampler
  samples : List PeriodicSample
  /-- The stores so far, the last of which are the present ones. -/
  history : List ProfileStores

namespace SmartCharging

inductive Action
  | stores (action : ProfileStores.Action)
  | setConnected (isConnected : Bool)
  | startMeterSampler (handle : Nat) (transactionId : Int) (connectorId : Nat) (txStart : DateTime)
  | advance (handle : Nat) (reading : MeterReading)
  | abort (handle : Nat)

def new : SmartCharging where
  stores := .new
  isConnected := false
  samplers _ := none
  samples := []
  history := [.new]

def update (s : SmartCharging) (stores : ProfileStores) : SmartCharging :=
  { s with stores, history := s.history ++ [stores] }

def setSampler (s : SmartCharging) (handle : Nat) (sampler : Option MeterSampler) : SmartCharging :=
  { s with samplers := Function.update s.samplers handle sampler }

def saturatingAdd (a b : Int) : Int :=
  max (-2 ^ 31) (min (a + b) (2 ^ 31 - 1))

section

variable (config : Config) (text : Rfc3339) (connectors : HashMap Nat ConnectorConfig) (meterValuesInterval : Nat)

/-- One step of a sampler, up to the next store or connector it waits for. -/
def advance (s : SmartCharging) (handle : Nat) (sampler : MeterSampler) (reading : MeterReading) : SmartCharging :=
  let goto stage := s.setSampler handle (some { sampler with stage })
  match sampler.stage with
  | .waiting =>
      let intervalSecs := (BitVec.ofNat 32 (max meterValuesInterval 1)).toInt
      s.setSampler handle (some { sampler with
        elapsedS := saturatingAdd sampler.elapsedS intervalSecs
        stage := .ticked (s.history.length - 1) sampler.elapsedS })
  | .ticked begun elapsedS => goto (if s.isConnected then .online begun elapsedS else .waiting)
  | .online begun elapsedS =>
      match s.stores.station.v201Sessions.lookup sampler.transactionId with
      | none => goto .waiting
      | some _ =>
          let seqNo := (s.stores.station.cells sampler.transactionId).nextSeqNo
          (s.update { s.stores with station := s.stores.station.claim sampler.transactionId }).setSampler handle
            (some { sampler with stage := .claimed begun elapsedS seqNo })
  | .claimed begun elapsedS seqNo =>
      match connectors.lookup sampler.connectorId with
      | some cfg => goto (.metered ⟨begun, elapsedS, seqNo, reading, cfg.maxPower, cfg.maxVoltage⟩)
      | none => goto .waiting
  | .metered tick =>
      match s.stores.station.v201TxProfiles.lookup sampler.evseId with
      | some profile => goto (.resolved tick (some profile))
      | none => goto (.undecided tick)
  | .undecided tick => goto (.resolved tick (s.stores.txDefaultProfileFor sampler.evseId))
  | .resolved tick effectiveProfile =>
      goto (.capped tick effectiveProfile (s.stores.stationCeilingFor sampler.evseId .max))
  | .capped tick effectiveProfile maxCeiling =>
      let ceilings := maxCeiling.toList ++ (s.stores.stationCeilingFor sampler.evseId .external).toList
      let boundedPowerW := boundedPowerWCapped text effectiveProfile ceilings tick.elapsedS sampler.txStart
        tick.naturalPowerW tick.nominalVoltageV
      let sample : PeriodicSample :=
        { sampler, tick
          meterValue := periodicMeterValue tick.reading.energyWh boundedPowerW
          during := s.history.drop tick.begun }
      { goto .waiting with samples := s.samples ++ [sample] }

def step (s : SmartCharging) : Action → Option SmartCharging
  | .stores action => (s.stores.step config text action).map s.update
  | .setConnected isConnected => some { s with isConnected }
  | .startMeterSampler handle transactionId connectorId txStart =>
      match s.samplers handle with
      | some _ => none
      | none => some (s.setSampler handle (some ⟨transactionId, connectorId, txStart, 0, .waiting⟩))
  | .advance handle reading =>
      (s.samplers handle).map fun sampler => s.advance text connectors meterValuesInterval handle sampler reading
  | .abort handle => some (s.setSampler handle none)

end

/-! ## What a tick has read -/

/-- The effective profile was read from the two stores one after the other. -/
def Resolved (during : List ProfileStores) (evseId : Int) (effectiveProfile : Option ChargingProfileType) : Prop :=
  (∃ stores ∈ during, ∃ profile, stores.station.v201TxProfiles.lookup evseId = some profile ∧
    effectiveProfile = some profile) ∨
  (∃ stores ∈ during, stores.station.v201TxProfiles.lookup evseId = none) ∧
    ∃ stores ∈ during, effectiveProfile = stores.txDefaultProfileFor evseId

def Read (during : List ProfileStores) (evseId : Int) : SamplerStage → Prop
  | .undecided _ => ∃ stores ∈ during, stores.station.v201TxProfiles.lookup evseId = none
  | .resolved _ effectiveProfile => Resolved during evseId effectiveProfile
  | .capped _ effectiveProfile maxCeiling => Resolved during evseId effectiveProfile ∧
      ∃ stores ∈ during, maxCeiling = stores.stationCeilingFor evseId .max
  | _ => True

/-- The sample is bounded by what its tick has read of the stores while it ran. -/
structure Sampled (text : Rfc3339) (sample : PeriodicSample) (effectiveProfile maxCeiling externalCeiling :
    Option ChargingProfileType) : Prop where
  meterValue : sample.meterValue = periodicMeterValue sample.tick.reading.energyWh (boundedPowerWCapped text
    effectiveProfile (maxCeiling.toList ++ externalCeiling.toList) sample.tick.elapsedS sample.sampler.txStart
    sample.tick.naturalPowerW sample.tick.nominalVoltageV)
  resolved : Resolved sample.during sample.sampler.evseId effectiveProfile
  max : ∃ stores ∈ sample.during, maxCeiling = stores.stationCeilingFor sample.sampler.evseId .max
  external : ∃ stores ∈ sample.during, externalCeiling = stores.stationCeilingFor sample.sampler.evseId .external

structure Inv (text : Rfc3339) (s : SmartCharging) : Prop where
  present : s.history.getLast? = some s.stores
  consistent : ∀ stores ∈ s.history, stores.Consistent
  stages : ∀ handle sampler, s.samplers handle = some sampler → ∀ begun ∈ sampler.stage.begun,
    begun < s.history.length ∧ Read (s.history.drop begun) sampler.evseId sampler.stage
  samples : ∀ sample ∈ s.samples, sample.during ⊆ s.history.drop sample.tick.begun ∧
    ∃ effectiveProfile maxCeiling externalCeiling, Sampled text sample effectiveProfile maxCeiling externalCeiling

/-! ### Steps -/

variable {config : Config} {text : Rfc3339} {connectors : HashMap Nat ConnectorConfig} {meterValuesInterval : Nat}
  {s t : SmartCharging}

theorem Read.mono {during during' : List ProfileStores} (subset : during ⊆ during') {evseId : Int}
    {stage : SamplerStage} (read : Read during evseId stage) : Read during' evseId stage := by
  have resolved : ∀ {profile}, Resolved during evseId profile → Resolved during' evseId profile := by
    rintro profile (⟨stores, member, found⟩ | ⟨⟨stores, member, absent⟩, stores', member', default⟩)
    · exact .inl ⟨stores, subset member, found⟩
    · exact .inr ⟨⟨stores, subset member, absent⟩, stores', subset member', default⟩
  cases stage with
  | undecided tick =>
      obtain ⟨stores, member, absent⟩ := read
      exact ⟨stores, subset member, absent⟩
  | resolved tick effectiveProfile => exact resolved read
  | capped tick effectiveProfile maxCeiling =>
      obtain ⟨profile, stores, member, ceiling⟩ := read
      exact ⟨resolved profile, stores, subset member, ceiling⟩
  | waiting | ticked | online | claimed | metered => trivial

theorem new_inv : Inv text new where
  present := rfl
  consistent := by
    intro stores member
    obtain rfl := List.mem_singleton.mp member
    exact ProfileStores.consistent_new
  stages := by simp [new]
  samples := by simp [new]

theorem drop_update (s : SmartCharging) (stores : ProfileStores) (n : Nat) :
    s.history.drop n ⊆ (s.update stores).history.drop n := by
  rw [update, List.drop_append]
  exact List.subset_append_left ..

theorem Inv.update (inv : Inv text s) {stores : ProfileStores} (consistent : stores.Consistent) :
    Inv text (s.update stores) where
  present := List.getLast?_concat ..
  consistent := by
    intro stores' member
    obtain before | rfl := List.mem_append.mp member |>.imp_right List.mem_singleton.mp
    · exact inv.consistent stores' before
    · exact consistent
  stages := by
    intro handle sampler found begun under
    obtain ⟨inside, read⟩ := inv.stages handle sampler found begun under
    refine ⟨?_, read.mono (s.drop_update stores begun)⟩
    rw [SmartCharging.update, List.length_append]
    exact Nat.lt_add_right _ inside
  samples := by
    intro sample member
    obtain ⟨during, sampled⟩ := inv.samples sample member
    exact ⟨List.Subset.trans during (s.drop_update stores _), sampled⟩

theorem Inv.setSampler (inv : Inv text s) {handle : Nat} {sampler : Option MeterSampler}
    (own : ∀ own ∈ sampler, ∀ begun ∈ own.stage.begun,
      begun < s.history.length ∧ Read (s.history.drop begun) own.evseId own.stage) :
    Inv text (s.setSampler handle sampler) where
  present := inv.present
  consistent := inv.consistent
  stages := by
    intro handle' sampler' found
    simp only [SmartCharging.setSampler, Function.update_apply] at found
    split_ifs at found
    · exact own sampler' found
    · exact inv.stages handle' sampler' found
  samples := inv.samples

theorem Inv.seen (inv : Inv text s) {begun : Nat} (inside : begun < s.history.length) :
    s.stores ∈ s.history.drop begun := by
  obtain ⟨before, whole⟩ := List.getLast?_eq_some_iff.mp inv.present
  rw [whole, List.length_append, List.length_singleton] at inside
  rw [whole, List.drop_append_of_le_length (by omega)]
  exact List.mem_append_right _ (List.mem_singleton_self _)

/-- A sampler goes on with the tick under way, or waits for the next one. -/
theorem Inv.resume (inv : Inv text s) {handle : Nat} {sampler : MeterSampler} {stage stage' : SamplerStage}
    (found : s.samplers handle = some sampler) (suspended : sampler.stage = stage)
    (under : ∀ begun ∈ stage'.begun, stage.begun = some begun)
    (next : ∀ during, s.stores ∈ during → Read during sampler.evseId stage → Read during sampler.evseId stage') :
    Inv text (s.setSampler handle (some { sampler with stage := stage' })) := by
  refine inv.setSampler ?_
  rintro _ ⟨⟩ begun began
  subst suspended
  obtain ⟨inside, read⟩ := inv.stages handle sampler found begun (under begun began)
  exact ⟨inside, next _ (inv.seen inside) read⟩

theorem Inv.send (inv : Inv text s) {sample : PeriodicSample}
    (during : sample.during = s.history.drop sample.tick.begun)
    {effectiveProfile maxCeiling externalCeiling : Option ChargingProfileType}
    (sampled : Sampled text sample effectiveProfile maxCeiling externalCeiling) :
    Inv text { s with samples := s.samples ++ [sample] } where
  present := inv.present
  consistent := inv.consistent
  stages := inv.stages
  samples := by
    intro sample' member
    obtain before | rfl := List.mem_append.mp member |>.imp_right List.mem_singleton.mp
    · exact inv.samples sample' before
    · exact ⟨during ▸ List.Subset.refl _, _, _, _, sampled⟩

theorem Inv.advance (inv : Inv text s) {handle : Nat} {sampler : MeterSampler}
    (found : s.samplers handle = some sampler) (reading : MeterReading) :
    Inv text (s.advance text connectors meterValuesInterval handle sampler reading) := by
  fun_cases s.advance text connectors meterValuesInterval handle sampler reading
  case case1 waiting intervalSecs =>
    refine inv.setSampler ?_
    rintro _ ⟨⟩ begun ⟨⟩
    have some : s.history ≠ [] := by
      intro none
      have present := inv.present
      simp [none] at present
    have positive := List.length_pos_iff.mpr some
    exact ⟨by omega, trivial⟩
  case case2 begun elapsedS ticked =>
    refine inv.resume found ticked ?_ fun during present read => ?_
    · split_ifs
      · exact fun _ began => began
      · exact fun _ => nofun
    · split_ifs <;> trivial
  case case3 begun elapsedS online ended => exact inv.resume found online nofun fun _ _ _ => trivial
  case case4 begun elapsedS online session held seqNo =>
    have present := inv.consistent s.stores (List.mem_of_getLast? inv.present)
    have consistent := present.claim sampler.transactionId
    have kept := (inv.update consistent).stages handle sampler found
    refine (inv.update consistent).setSampler ?_
    rintro _ ⟨⟩ begun' began
    exact ⟨(kept begun' (online ▸ began)).1, trivial⟩
  case case5 begun elapsedS seqNo claimed cfg configured =>
    exact inv.resume found claimed (fun _ began => began) fun _ _ _ => trivial
  case case6 begun elapsedS seqNo claimed unknown => exact inv.resume found claimed nofun fun _ _ _ => trivial
  case case7 tick metered profile installed =>
    refine inv.resume found metered (fun _ began => began) fun during present _ => ?_
    exact .inl ⟨s.stores, present, profile, installed, rfl⟩
  case case8 tick metered absent =>
    exact inv.resume found metered (fun _ began => began) fun during present _ => ⟨s.stores, present, absent⟩
  case case9 tick undecided =>
    refine inv.resume found undecided (fun _ began => began) fun during present read => ?_
    exact .inr ⟨read, s.stores, present, rfl⟩
  case case10 tick effectiveProfile resolved =>
    refine inv.resume found resolved (fun _ began => began) fun during present read => ?_
    exact ⟨read, s.stores, present, rfl⟩
  case case11 goto tick effectiveProfile maxCeiling capped ceilings boundedPowerW sample src =>
    obtain ⟨inside, read⟩ := inv.stages handle sampler found tick.begun (capped ▸ rfl)
    rw [capped] at read
    have waiting : Inv text (s.setSampler handle (some { sampler with stage := .waiting })) :=
      inv.resume found capped nofun fun _ _ _ => trivial
    exact waiting.send rfl ⟨rfl, read.1, read.2, s.stores, inv.seen inside, rfl⟩

theorem Inv.step (inv : Inv text s) {action : Action}
    (stepped : step config text connectors meterValuesInterval s action = some t) : Inv text t := by
  cases action with
  | stores action =>
      obtain ⟨stores, acted, rfl⟩ := Option.map_eq_some_iff.mp stepped
      exact inv.update ((inv.consistent _ (List.mem_of_getLast? inv.present)).step config text acted)
  | setConnected isConnected =>
      obtain rfl := Option.some.inj stepped
      exact ⟨inv.present, inv.consistent, inv.stages, inv.samples⟩
  | startMeterSampler handle transactionId connectorId txStart =>
      simp only [SmartCharging.step] at stepped
      split at stepped
      · cases stepped
      · obtain rfl := Option.some.inj stepped
        refine inv.setSampler ?_
        rintro _ ⟨⟩
        exact nofun
  | advance handle reading =>
      obtain ⟨sampler, found, rfl⟩ := Option.map_eq_some_iff.mp stepped
      exact inv.advance found reading
  | abort handle =>
      obtain rfl := Option.some.inj stepped
      exact inv.setSampler (by simp)

theorem inv_run {actions : List Action}
    (ran : run (step config text connectors meterValuesInterval) new actions = some s) : Inv text s :=
  run_invariant (fun _ _ _ inv _ stepped => inv.step stepped) new_inv (.always _ _) ran

/-! ## The power of a sample -/

/-- A tick may be bound by the profile, because it was in force at a moment of it. -/
def Constrains (during : List ProfileStores) (evseId : Int) (profile : ChargingProfileType) : Prop :=
  Resolved during evseId (some profile) ∨
    ∃ kind, ∃ stores ∈ during, stores.stationCeilingFor evseId kind = some profile

/-- The power is the natural one or a limit that was in force while the tick ran, and it is not above any limit that
was in force for all of that time. A power is reported when it is below the natural one. -/
structure Bounded (text : Rfc3339) (sample : PeriodicSample) : Prop where
  natural : sample.powerW ≤ sample.tick.naturalPowerW
  reported : (∃ value ∈ sample.meterValue, value.measurand = .powerActiveImport) ↔
    sample.powerW < sample.tick.naturalPowerW
  attained : sample.powerW = sample.tick.naturalPowerW ∨
    ∃ profile, Constrains sample.during sample.sampler.evseId profile ∧
      activeLimitW text profile sample.tick.elapsedS sample.sampler.txStart sample.tick.nominalVoltageV =
        some sample.powerW
  profile : ∀ profile, (∀ stores ∈ sample.during, stores.effectiveProfile sample.sampler.evseId = some profile) →
    ∀ limit ∈ activeLimitW text profile sample.tick.elapsedS sample.sampler.txStart sample.tick.nominalVoltageV,
      sample.powerW ≤ limit
  ceiling : ∀ kind profile,
    (∀ stores ∈ sample.during, stores.stationCeilingFor sample.sampler.evseId kind = some profile) →
    ∀ limit ∈ activeLimitW text profile sample.tick.elapsedS sample.sampler.txStart sample.tick.nominalVoltageV,
      sample.powerW ≤ limit

theorem powerW_eq {sample : PeriodicSample} {boundedPowerW : Option ℚ}
    (meterValue : sample.meterValue = periodicMeterValue sample.tick.reading.energyWh boundedPowerW) :
    sample.powerW = boundedPowerW.getD sample.tick.naturalPowerW := by
  cases boundedPowerW <;> simp [PeriodicSample.powerW, meterValue, periodicMeterValue]

theorem boundedPowerWCapped_isLeast (text : Rfc3339) (effectiveProfile : Option ChargingProfileType)
    (ceilings : List ChargingProfileType) (elapsedS : Int) (txStart : DateTime) (naturalPowerW nominalVoltageV : ℚ) :
    IsLeast {x | x = naturalPowerW ∨ ∃ profile ∈ effectiveProfile.toList ++ ceilings,
        activeLimitW text profile elapsedS txStart nominalVoltageV = some x}
      ((boundedPowerWCapped text effectiveProfile ceilings elapsedS txStart naturalPowerW nominalVoltageV).getD
        naturalPowerW) := by
  have limitW : (boundedPowerWCapped text effectiveProfile ceilings elapsedS txStart naturalPowerW nominalVoltageV).getD
      naturalPowerW = ((termsInForce text (effectiveProfile.toList ++ ceilings) elapsedS txStart nominalVoltageV).map
        Prod.fst).foldl min naturalPowerW := by
    rw [← foldl_tightenW, boundedPowerWCapped]
    split_ifs with below
    · rfl
    · refine le_antisymm (not_lt.mp below) ?_
      rw [foldl_tightenW]
      exact (foldl_min_isLeast _ _).2 (.inl rfl)
  have terms : {x | x = naturalPowerW ∨ ∃ profile ∈ effectiveProfile.toList ++ ceilings,
        activeLimitW text profile elapsedS txStart nominalVoltageV = some x} =
      {x | x = naturalPowerW ∨ x ∈ (termsInForce text (effectiveProfile.toList ++ ceilings) elapsedS txStart
        nominalVoltageV).map Prod.fst} := by
    ext x
    simp [termsInForce, activeLimitW_eq, or_and_right, exists_or]
  rw [limitW, terms]
  exact foldl_min_isLeast _ _

/-- A profile that was the effective one for all of the time is the one that was read. -/
theorem Resolved.stable {during : List ProfileStores} {evseId : Int} {effectiveProfile : Option ChargingProfileType}
    (resolved : Resolved during evseId effectiveProfile) (consistent : ∀ stores ∈ during, stores.Consistent)
    {profile : ChargingProfileType} (stable : ∀ stores ∈ during, stores.effectiveProfile evseId = some profile) :
    effectiveProfile = some profile := by
  obtain ⟨stores, member, own, installed, rfl⟩ | ⟨⟨stores, member, absent⟩, stores', member', rfl⟩ := resolved
  · have here := stable stores member
    rwa [ProfileStores.effectiveProfile, installed] at here
  · have default := stable stores member
    have here := stable stores' member'
    simp only [ProfileStores.effectiveProfile, absent] at default
    cases installed : stores'.station.v201TxProfiles.lookup evseId with
    | none => rwa [ProfileStores.effectiveProfile, installed] at here
    | some own =>
        -- no profile is of both purposes
        obtain rfl : own = profile := by simpa [ProfileStores.effectiveProfile, installed] using here
        have purpose := (consistent stores' member').routed .txProfile evseId own installed
        rw [(consistent stores member).txDefaultProfile_purpose default] at purpose
        cases purpose

theorem Sampled.bounded {sample : PeriodicSample} {effectiveProfile maxCeiling externalCeiling :
    Option ChargingProfileType} (sampled : Sampled text sample effectiveProfile maxCeiling externalCeiling)
    (consistent : ∀ stores ∈ sample.during, stores.Consistent) : Bounded text sample := by
  obtain ⟨meterValue, resolved, ⟨stores, member, rfl⟩, stores', member', rfl⟩ := sampled
  have powerW := powerW_eq meterValue
  obtain ⟨attained, least⟩ := boundedPowerWCapped_isLeast text effectiveProfile
    ((stores.stationCeilingFor sample.sampler.evseId .max).toList ++
      (stores'.stationCeilingFor sample.sampler.evseId .external).toList) sample.tick.elapsedS sample.sampler.txStart
    sample.tick.naturalPowerW sample.tick.nominalVoltageV
  rw [← powerW] at attained least
  constructor
  case natural => exact least (.inl rfl)
  case reported =>
    rw [meterValue, powerW, boundedPowerWCapped]
    split_ifs with below
    · simpa [periodicMeterValue] using below
    · simp [periodicMeterValue]
  case attained =>
    obtain natural | ⟨profile, constrains, limit⟩ := attained
    · exact .inl natural
    · refine .inr ⟨profile, ?_, limit⟩
      simp only [List.mem_append, Option.mem_toList] at constrains
      obtain effective | max | external := constrains
      · exact .inl (effective ▸ resolved)
      · exact .inr ⟨.max, stores, member, max⟩
      · exact .inr ⟨.external, stores', member', external⟩
  case profile =>
    intro profile stable limit limited
    refine least (.inr ⟨profile, ?_, limited⟩)
    simp [resolved.stable consistent stable]
  case ceiling =>
    intro kind profile stable limit limited
    refine least (.inr ⟨profile, ?_, limited⟩)
    cases kind with
    | max => simp [stable stores member]
    | external => simp [stable stores' member']

def ceilingSite : HashMap Nat ConnectorConfig :=
  (∅ : HashMap _ _).insert 1 ⟨230, 7360⟩

def siteStep : SmartCharging → Action → Option SmartCharging :=
  step (simulator .v201) newYearText ceilingSite 60

def openedSession : List Action :=
  [.stores (.call ⟨.plugInCable 1, [.pick none, .none, answered 0, .none, .none]⟩),
    .stores (.setChargingProfile 0 singlePhaseProfile), .setConnected true,
    .startMeterSampler 0 1 1 ⟨1767225600000000000⟩]

def oneTick : List Action :=
  List.replicate 8 (.advance 0 ⟨1200, ⟨1767225600000000000⟩⟩)

theorem step_history {action : Action} (stepped : step config text connectors meterValuesInterval s action = some t) :
    t.history = s.history ∨ ∃ stores, t.history = s.history ++ [stores] ∧
      (stores.slot = s.stores.slot ∨
        ∃ action', action = .stores action' ∧ s.stores.step config text action' = some stores) := by
  cases action with
  | stores action =>
      obtain ⟨stores, acted, rfl⟩ := Option.map_eq_some_iff.mp stepped
      exact .inr ⟨stores, rfl, .inr ⟨action, rfl, acted⟩⟩
  | setConnected isConnected =>
      obtain rfl := Option.some.inj stepped
      exact .inl rfl
  | startMeterSampler handle transactionId connectorId txStart =>
      simp only [step] at stepped
      split at stepped
      · cases stepped
      · obtain rfl := Option.some.inj stepped
        exact .inl rfl
  | advance handle reading =>
      obtain ⟨sampler, found, rfl⟩ := Option.map_eq_some_iff.mp stepped
      fun_cases s.advance text connectors meterValuesInterval handle sampler reading
      case case4 =>
        refine .inr ⟨_, rfl, .inl ?_⟩
        funext purpose
        cases purpose <;> rfl
      all_goals exact .inl rfl
  | abort handle =>
      obtain rfl := Option.some.inj stepped
      exact .inl rfl

/-- Since it was put there, the profile has stayed the one of its purpose on the EVSE. -/
structure Held (since : Nat) (evseId : Int) (profile : ChargingProfileType) (s : SmartCharging) : Prop where
  later : since < s.history.length
  slot : ∀ stores ∈ s.history.drop since, stores.slot profile.chargingProfilePurpose evseId = some profile

/-- Nothing is installed in place of the profile, and no clear selects it. -/
def Keeps (evseId : Int) (profile : ChargingProfileType) : Action → Prop
  | .stores action => action.Keeps evseId profile
  | _ => True

theorem Held.step {since : Nat} {evseId : Int} {profile : ChargingProfileType} {action : Action} (inv : Inv text s)
    (held : Held since evseId profile s) (keeps : Keeps evseId profile action)
    (stepped : step config text connectors meterValuesInterval s action = some t) : Held since evseId profile t := by
  obtain same | ⟨stores, grown, kept⟩ := step_history stepped
  · exact ⟨same ▸ held.later, same ▸ held.slot⟩
  · have present := held.slot s.stores (inv.seen held.later)
    have slot : stores.slot profile.chargingProfilePurpose evseId = some profile := by
      obtain same | ⟨action', rfl, acted⟩ := kept
      · rw [same]
        exact present
      · have consistent := inv.consistent s.stores (List.mem_of_getLast? inv.present)
        exact consistent.routed.keeps config text present keeps acted
    refine ⟨?_, fun stores' member => ?_⟩
    · rw [grown, List.length_append]
      exact Nat.lt_add_right _ held.later
    · rw [grown, List.drop_append_of_le_length held.later.le] at member
      obtain before | rfl := List.mem_append.mp member |>.imp_right List.mem_singleton.mp
      · exact held.slot stores' before
      · exact slot

theorem Held.run {since : Nat} {evseId : Int} {profile : ChargingProfileType} {actions : List Action}
    (inv : Inv text s) (held : Held since evseId profile s)
    (keeps : ∀ action ∈ actions, Keeps evseId profile action)
    (ran : run (SmartCharging.step config text connectors meterValuesInterval) s actions = some t) :
    Inv text t ∧ Held since evseId profile t := by
  induction actions generalizing s with
  | nil =>
      obtain rfl := Option.some.inj ran
      exact ⟨inv, held⟩
  | cons action actions ih =>
      obtain ⟨u, stepped, rest⟩ := Option.bind_eq_some_iff.mp ran
      have here := keeps action List.mem_cons_self
      exact ih (inv.step stepped) (held.step inv here stepped) (fun a member => keeps a (List.mem_cons_of_mem _ member))
        rest

theorem setChargingProfile_ceiling (stores : ProfileStores) {evseId : Int} {profile : ChargingProfileType}
    {kind : CeilingKind} (ceiling : CeilingKind.fromPurpose profile.chargingProfilePurpose = some kind) :
    (stores.setChargingProfile evseId profile).2 = stores.install evseId profile := by
  rw [ProfileStores.setChargingProfile]
  cases purpose : profile.chargingProfilePurpose with
  | txProfile | txDefaultProfile =>
      rw [purpose] at ceiling
      cases ceiling
  | chargingStationMaxProfile | chargingStationExternalConstraints => rfl

theorem held_install {evseId : Int} {profile : ChargingProfileType} {kind : CeilingKind}
    (ceiling : CeilingKind.fromPurpose profile.chargingProfilePurpose = some kind) :
    Held s.history.length evseId profile (s.update (s.stores.setChargingProfile evseId profile).2) where
  later := by simp [update]
  slot := by
    intro stores member
    obtain rfl : stores = s.stores.install evseId profile := by
      simpa [update, setChargingProfile_ceiling s.stores ceiling] using member
    rw [ProfileStores.slot_install, if_pos ⟨rfl, rfl⟩]

theorem stationCeilingFor_slot {stores : ProfileStores} {evseId evseId' : Int} {profile : ChargingProfileType}
    {kind : CeilingKind} (ceiling : CeilingKind.fromPurpose profile.chargingProfilePurpose = some kind)
    (held : stores.slot profile.chargingProfilePurpose evseId = some profile)
    (own : evseId' = evseId ∨ evseId = 0 ∧ stores.v201StationCeilings.lookup (kind, evseId') = none) :
    stores.stationCeilingFor evseId' kind = some profile := by
  have installed : stores.v201StationCeilings.lookup (kind, evseId) = some profile := by
    cases purpose : profile.chargingProfilePurpose with
    | txProfile | txDefaultProfile =>
        rw [purpose] at ceiling
        cases ceiling
    | chargingStationMaxProfile | chargingStationExternalConstraints =>
        rw [purpose] at ceiling held
        cases ceiling
        exact held
  obtain rfl | ⟨rfl, absent⟩ := own
  · rw [ProfileStores.stationCeilingFor, installed, Option.some_or]
  · rw [ProfileStores.stationCeilingFor, absent, installed, Option.none_or]

/-- Once a ceiling is installed, no tick that begins after it samples a power above the limit of the ceiling, until
another one takes its place or a clear selects it. -/
theorem installed_ceiling_caps {before after : List Action} {evseId : Int} {profile : ChargingProfileType}
    {kind : CeilingKind} (ceiling : CeilingKind.fromPurpose profile.chargingProfilePurpose = some kind)
    (ran : run (step config text connectors meterValuesInterval) new before = some s)
    (later : run (step config text connectors meterValuesInterval) s
      (.stores (.setChargingProfile evseId profile) :: after) = some t)
    (keeps : ∀ action ∈ after, Keeps evseId profile action) {sample : PeriodicSample} (member : sample ∈ t.samples)
    (begun : s.history.length ≤ sample.tick.begun)
    (own : sample.sampler.evseId = evseId ∨ evseId = 0 ∧
      ∀ stores ∈ sample.during, stores.v201StationCeilings.lookup (kind, sample.sampler.evseId) = none) :
    ∀ limit ∈ activeLimitW text profile sample.tick.elapsedS sample.sampler.txStart sample.tick.nominalVoltageV,
      sample.powerW ≤ limit := by
  obtain ⟨u, installed, rest⟩ := Option.bind_eq_some_iff.mp later
  have inv := (inv_run ran).step installed
  obtain rfl : s.update (s.stores.setChargingProfile evseId profile).2 = u := Option.some.inj installed
  obtain ⟨inv, held⟩ := (held_install ceiling).run inv keeps rest
  obtain ⟨during, _, _, _, sampled⟩ := inv.samples sample member
  have bounded := sampled.bounded fun stores seen => inv.consistent stores (List.mem_of_mem_drop (during seen))
  refine bounded.ceiling kind profile fun stores seen => ?_
  have slot := held.slot stores (List.drop_subset_drop_left _ begun (during seen))
  exact stationCeilingFor_slot ceiling slot (own.imp_right fun own => ⟨own.1, own.2 stores seen⟩)

theorem siteCeiling_caps : ∃ s t, run siteStep new openedSession = some s ∧
    run siteStep s (.stores (.setChargingProfile 1 siteCeiling) :: oneTick) = some t ∧
    ∃ sample ∈ t.samples, sample.powerW ≤ 6000 := by
  have reached : ((run siteStep new openedSession).bind fun s =>
      (run siteStep s (.stores (.setChargingProfile 1 siteCeiling) :: oneTick)).map fun t =>
        (s.history.length, t.samples.map fun sample => (sample.tick.begun, sample.sampler.evseId,
          activeLimitW newYearText siteCeiling sample.tick.elapsedS sample.sampler.txStart sample.tick.nominalVoltageV))) =
      some (3, [(3, 1, some 6000)]) := by
    decide +kernel
  obtain ⟨s, ran, reached⟩ := Option.bind_eq_some_iff.mp reached
  obtain ⟨t, later, reached⟩ := Option.map_eq_some_iff.mp reached
  obtain ⟨length, samples⟩ := Prod.mk.inj reached
  obtain ⟨sample, rest, sent, taken, -⟩ := List.map_eq_cons_iff.mp samples
  have member : sample ∈ t.samples := sent ▸ List.mem_cons_self
  simp only [Prod.mk.injEq] at taken
  obtain ⟨begun, evseId, limit⟩ := taken
  refine ⟨s, t, ran, later, sample, member, ?_⟩
  have ceiling : CeilingKind.fromPurpose siteCeiling.chargingProfilePurpose = some .max := rfl
  refine installed_ceiling_caps ceiling ran later ?_ member (by omega) (.inl evseId) 6000 limit
  intro action ticked
  obtain rfl := List.eq_of_mem_replicate ticked
  trivial

/-! ## What is reported -/

/-- The schedule is that of the effective profile under the ceilings in force, and there is none when that profile
limits nothing in the window. -/
structure Composed (text : Rfc3339) (connectors : HashMap Nat ConnectorConfig) (s : ProfileStores)
    (windowStart : DateTime) (req : V201GetCompositeScheduleRequest) (response : V201GetCompositeScheduleResponse) :
    Prop where
  rejected : response.status = .rejected ↔ response.schedule = none
  accepted : response.status = .accepted ↔ ∃ base, s.effectiveProfile req.evseId = some base ∧
    ∃ t, 0 ≤ t ∧ t < req.duration ∧ (resolveActive text base t windowStart).isSome
  limits : ∀ schedule, response.schedule = some schedule → ∃ base, s.effectiveProfile req.evseId = some base ∧
    let contribution := fun profile t => compositeContributionAt text profile t windowStart
      (reportedUnit base req.chargingRateUnit) (nominalVoltage connectors req.evseId)
    schedule.chargingRateUnit = reportedUnit base req.chargingRateUnit ∧
    ∀ t, 0 ≤ t → t < req.duration → ∀ b phases, contribution base t = some (b, phases) →
      ∃ period, reportedAt schedule t = some period ∧ period.numberPhases = phases ∧
        IsLeast {x | x = b ∨ ∃ kind ceiling, s.stationCeilingFor req.evseId kind = some ceiling ∧
          ∃ phases', contribution ceiling t = some (x, phases')} period.limit

theorem mem_ceilings {stores : ProfileStores} {evseId : Int} {profile : ChargingProfileType} :
    profile ∈ stores.ceilings evseId ↔ ∃ kind, stores.stationCeilingFor evseId kind = some profile := by
  simp only [ProfileStores.ceilings, List.mem_append, Option.mem_toList]
  constructor
  · rintro (max | external)
    · exact ⟨.max, max⟩
    · exact ⟨.external, external⟩
  · rintro ⟨kind, found⟩
    cases kind with
    | max => exact .inl found
    | external => exact .inr found

section Composition

variable {evseId duration : Int} {base : ChargingProfileType} {ceilings : List ChargingProfileType}
  {windowStart : DateTime} {unit : Option ChargingRateUnitEnumType} {nominalVoltageV : ℚ}
  (formed : ∀ profile ∈ base :: ceilings, WellFormed text profile windowStart)
include formed

/-- The composition yields nothing exactly when the base limits nothing in the window. -/
theorem composeCompositeScheduleCapped_eq_none :
    composeCompositeScheduleCapped text evseId base ceilings windowStart duration unit nominalVoltageV = none ↔
      ∀ t, 0 ≤ t → t < duration → resolveActive text base t windowStart = none := by
  by_cases positive : 0 < duration
  · have silent := cappedRuns_eq_nil text base ceilings windowStart duration unit nominalVoltageV positive formed
    rw [composeCompositeScheduleCapped_eq text evseId base ceilings windowStart duration unit nominalVoltageV positive]
    simpa [compositeContributionAt] using silent
  · constructor
    · intro _ t low high
      omega
    · intro _
      rw [composeCompositeScheduleCapped, if_pos (not_lt.mp positive)]

theorem reportedAt_composed {schedule : CompositeScheduleType}
    (composed : composeCompositeScheduleCapped text evseId base ceilings windowStart duration unit nominalVoltageV =
      some schedule) :
    schedule.chargingRateUnit = reportedUnit base unit ∧ ∀ t, 0 ≤ t → t < duration → ∀ b phases,
      compositeContributionAt text base t windowStart (reportedUnit base unit) nominalVoltageV = some (b, phases) →
      ∃ period, reportedAt schedule t = some period ∧ period.numberPhases = phases ∧
        IsLeast {x | x = b ∨ ∃ ceiling ∈ ceilings, ∃ phases', compositeContributionAt text ceiling t windowStart
          (reportedUnit base unit) nominalVoltageV = some (x, phases')} period.limit := by
  have positive : 0 < duration := by
    by_contra closed
    rw [composeCompositeScheduleCapped, if_pos (not_lt.mp closed)] at composed
    cases composed
  rw [composeCompositeScheduleCapped_eq text evseId base ceilings windowStart duration unit nominalVoltageV positive]
    at composed
  split at composed
  · cases composed
  · obtain rfl := Option.some.inj composed
    refine ⟨rfl, fun t low high b phases contributes => ?_⟩
    obtain ⟨limit, here, least⟩ := cappedContributionAt_isLeast text base ceilings windowStart nominalVoltageV
      (reportedUnit base unit) contributes
    have held := heldAt_cappedRuns text base ceilings windowStart duration unit nominalVoltageV positive formed low
      high here
    obtain ⟨e, last, same⟩ := Option.map_eq_some_iff.mp held
    refine ⟨⟨e.1, e.2.1, e.2.2, none⟩, ?_, by rw [same], by rw [same]; exact least⟩
    refine (getLast?_filter_map _ ChargingSchedulePeriodType.startPeriod (fun _ => rfl) _ t).trans ?_
    rw [last]
    rfl

end Composition

theorem composed {stores : ProfileStores} {windowStart : DateTime} {req : V201GetCompositeScheduleRequest}
    (formed : ∀ profile, (stores.effectiveProfile req.evseId = some profile ∨ profile ∈ stores.ceilings req.evseId) →
      WellFormed text profile windowStart) :
    Composed text connectors stores windowStart req
      (v201GetCompositeSchedule text connectors stores windowStart req) := by
  rw [v201GetCompositeSchedule]
  cases effective : stores.effectiveProfile req.evseId with
  | none => exact ⟨by simp, by simp [effective], by simp⟩
  | some base =>
      have formedAll : ∀ profile ∈ base :: stores.ceilings req.evseId, WellFormed text profile windowStart := by
        intro profile member
        obtain rfl | ceiling := List.mem_cons.mp member
        · exact formed profile (.inl effective)
        · exact formed profile (.inr ceiling)
      cases result : composeCompositeScheduleCapped text req.evseId base (stores.ceilings req.evseId) windowStart
          req.duration req.chargingRateUnit (nominalVoltage connectors req.evseId) with
      | none =>
          have idle := (composeCompositeScheduleCapped_eq_none formedAll).mp result
          constructor
          case rejected => simp [result]
          case limits => simp [result]
          case accepted =>
            simp only [result, reduceCtorEq, false_iff]
            rintro ⟨_, same, t, low, high, active⟩
            cases effective.symm.trans same
            rw [idle t low high] at active
            cases active
      | some schedule =>
          constructor
          case rejected => simp [result]
          case accepted =>
            simp only [result, true_iff]
            by_contra idle
            refine absurd result (ne_of_eq_of_ne ?_ (Option.some_ne_none schedule).symm)
            refine (composeCompositeScheduleCapped_eq_none formedAll).mpr fun t low high => ?_
            by_contra active
            exact idle ⟨base, effective, t, low, high, Option.isSome_iff_ne_none.mpr active⟩
          case limits =>
            simp only [result]
            rintro _ ⟨⟩
            refine ⟨base, effective, ?_⟩
            obtain ⟨reportedIn, reported⟩ := reportedAt_composed formedAll result
            refine ⟨reportedIn, fun t low high b phases contributes => ?_⟩
            obtain ⟨period, found, phased, least⟩ := reported t low high b phases contributes
            refine ⟨period, found, phased, ?_⟩
            simpa only [mem_ceilings, ← exists_and_right, exists_comm (α := CeilingKind)] using least

def nightSite : List Action :=
  [.stores (.setChargingProfile 0 eveningProfile), .stores (.setChargingProfile 1 nightCeiling)]

end SmartCharging

end Ocpp.ChargePoint
