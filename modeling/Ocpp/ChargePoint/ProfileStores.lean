import Ocpp.ChargePoint.Completed

/-!
# The stores of 2.0.1 charging profiles

The transaction profiles of a station, its default profiles (`v201_tx_default_profile.rs`) and its ceilings
(`v201_station_ceiling.rs`), with the handlers of `SetChargingProfile`, `ClearChargingProfile` and
`GetChargingProfiles`. A clear matches on one snapshot of the three stores and removes each match from the
store its purpose names. The other calls of the station run to their end in between.
-/

namespace Ocpp.ChargePoint
open Library Library.Program V201

inductive CeilingKind
  | max
  | external
  deriving DecidableEq, Repr

def CeilingKind.fromPurpose : ChargingProfilePurposeEnumType → Option CeilingKind
  | .chargingStationMaxProfile => some .max
  | .chargingStationExternalConstraints => some .external
  | .txProfile | .txDefaultProfile => none

inductive ClearChargingProfileStatusEnumType
  | accepted
  | unknown
  deriving DecidableEq, Repr

inductive GetChargingProfileStatusEnumType
  | accepted
  | noProfiles
  deriving DecidableEq, Repr

inductive ChargingLimitSourceEnumType
  | ems
  | other
  | so
  | cso
  deriving DecidableEq, Repr

structure ChargingProfileCriterionType where
  chargingProfilePurpose : Option ChargingProfilePurposeEnumType
  stackLevel : Option Int
  chargingProfileId : Option (List Int)
  chargingLimitSource : Option (List ChargingLimitSourceEnumType)
  deriving DecidableEq, Repr

def v201ChargingLimitSource : ChargingProfilePurposeEnumType → ChargingLimitSourceEnumType
  | .chargingStationExternalConstraints => .so
  | .txProfile | .txDefaultProfile | .chargingStationMaxProfile => .cso

def v201GetChargingProfilesMatches (evseId : Option Int) (criterion : ChargingProfileCriterionType)
    (installed : List (Int × ChargingProfileType)) : List (Int × ChargingProfileType) :=
  installed.filter fun (slotEvse, profile) =>
    evseId.all (· = slotEvse) ∧
      criterion.chargingProfilePurpose.all (· = profile.chargingProfilePurpose) ∧
      criterion.stackLevel.all (· = profile.stackLevel) ∧
      criterion.chargingProfileId.all (profile.id ∈ ·) ∧
      criterion.chargingLimitSource.all (v201ChargingLimitSource profile.chargingProfilePurpose ∈ ·)

def v201SetChargingProfileStatus (purpose : ChargingProfilePurposeEnumType) (hasActiveTransaction : Bool) :
    RequestStatus × Option StatusInfoType :=
  match purpose with
  | .txProfile => if hasActiveTransaction then (.accepted, none) else (.rejected, some noOngoingTransaction)
  | .txDefaultProfile => (.accepted, none)
  | .chargingStationMaxProfile | .chargingStationExternalConstraints => (.accepted, none)

structure ProfileStores where
  station : Station
  v201TxDefaultProfiles : HashMap Int ChargingProfileType
  v201StationCeilings : HashMap (CeilingKind × Int) ChargingProfileType

namespace ProfileStores

def new : ProfileStores where
  station := .new
  v201TxDefaultProfiles := ∅
  v201StationCeilings := ∅

variable (s : ProfileStores)

def install (evseId : Int) (profile : ChargingProfileType) : ProfileStores :=
  match profile.chargingProfilePurpose with
  | .txProfile => { s with station := s.station.installTxProfile evseId profile }
  | .txDefaultProfile => { s with v201TxDefaultProfiles := s.v201TxDefaultProfiles.insert evseId profile }
  | .chargingStationMaxProfile | .chargingStationExternalConstraints =>
      match CeilingKind.fromPurpose profile.chargingProfilePurpose with
      | some kind => { s with v201StationCeilings := s.v201StationCeilings.insert (kind, evseId) profile }
      | none => s

def setChargingProfile (evseId : Int) (profile : ChargingProfileType) :
    (RequestStatus × Option StatusInfoType) × ProfileStores :=
  let hasActiveTransaction := 1 ≤ evseId ∧
    s.station.activeTransactions.entries.any fun e => (e.2 : Int) = evseId
  let answer := v201SetChargingProfileStatus profile.chargingProfilePurpose hasActiveTransaction
  (answer, if answer.1 = .accepted then s.install evseId profile else s)

/-- The combined snapshot of the three stores, without the kinds of the ceilings. -/
def installed : List (Int × ChargingProfileType) :=
  s.station.v201TxProfiles.entries.map (fun e => (e.1, e.2)) ++
    s.v201TxDefaultProfiles.entries.map (fun e => (e.1, e.2)) ++
    s.v201StationCeilings.entries.map (fun e => (e.1.2, e.2))

def remove (slot : Int × ChargingProfileType) : ProfileStores :=
  match slot.2.chargingProfilePurpose with
  | .txProfile => { s with station := s.station.clearTxProfile slot.1 }
  | .txDefaultProfile => { s with v201TxDefaultProfiles := s.v201TxDefaultProfiles.erase slot.1 }
  | .chargingStationMaxProfile | .chargingStationExternalConstraints =>
      match CeilingKind.fromPurpose slot.2.chargingProfilePurpose with
      | some kind => { s with v201StationCeilings := s.v201StationCeilings.erase (kind, slot.1) }
      | none => s

def clearChargingProfile (chargingProfileId : Option Int) (criteria : Option ClearChargingProfileType) :
    ClearChargingProfileStatusEnumType × ProfileStores :=
  let matched := v201ClearChargingProfileMatches chargingProfileId criteria s.installed
  (if matched.isEmpty then .unknown else .accepted, matched.foldl remove s)

/-- The answer, and the profiles that are reported. -/
def getChargingProfiles (evseId : Option Int) (criterion : ChargingProfileCriterionType) :
    GetChargingProfileStatusEnumType × List (Int × ChargingProfileType) :=
  let matched := v201GetChargingProfilesMatches evseId criterion s.installed
  (if matched.isEmpty then .noProfiles else .accepted, matched)

/-! ## One store for each purpose -/

/-- The profile that is installed for a purpose on an EVSE. -/
def slot : ChargingProfilePurposeEnumType → Int → Option ChargingProfileType
  | .txProfile, evseId => s.station.v201TxProfiles.lookup evseId
  | .txDefaultProfile, evseId => s.v201TxDefaultProfiles.lookup evseId
  | .chargingStationMaxProfile, evseId => s.v201StationCeilings.lookup (.max, evseId)
  | .chargingStationExternalConstraints, evseId => s.v201StationCeilings.lookup (.external, evseId)

theorem mem_installed {s : ProfileStores} {evseId : Int} {profile : ChargingProfileType} :
    (evseId, profile) ∈ s.installed ↔ ∃ purpose, s.slot purpose evseId = some profile := by
  simp only [installed, List.mem_append, List.mem_map]
  constructor
  · rintro ((⟨e, member, same⟩ | ⟨e, member, same⟩) | ⟨⟨⟨kind, _⟩, _⟩, member, same⟩) <;> cases same
    · exact ⟨.txProfile, HashMap.mem_entries.mp member⟩
    · exact ⟨.txDefaultProfile, HashMap.mem_entries.mp member⟩
    · cases kind with
      | max => exact ⟨.chargingStationMaxProfile, HashMap.mem_entries.mp member⟩
      | external => exact ⟨.chargingStationExternalConstraints, HashMap.mem_entries.mp member⟩
  · rintro ⟨purpose, held⟩
    cases purpose with
    | txProfile => exact .inl (.inl ⟨⟨evseId, profile⟩, HashMap.mem_entries.mpr held, rfl⟩)
    | txDefaultProfile => exact .inl (.inr ⟨⟨evseId, profile⟩, HashMap.mem_entries.mpr held, rfl⟩)
    | chargingStationMaxProfile => exact .inr ⟨⟨(.max, evseId), profile⟩, HashMap.mem_entries.mpr held, rfl⟩
    | chargingStationExternalConstraints =>
        exact .inr ⟨⟨(.external, evseId), profile⟩, HashMap.mem_entries.mpr held, rfl⟩

theorem slot_install (evseId : Int) (profile : ChargingProfileType)
    (purpose : ChargingProfilePurposeEnumType) (evseId' : Int) :
    (s.install evseId profile).slot purpose evseId' =
      if purpose = profile.chargingProfilePurpose ∧ evseId' = evseId then some profile
      else s.slot purpose evseId' := by
  cases own : profile.chargingProfilePurpose <;> cases purpose <;>
    simp [install, own, slot, CeilingKind.fromPurpose, Station.installTxProfile, HashMap.lookup_insert]

theorem slot_remove (matched : Int × ChargingProfileType) (purpose : ChargingProfilePurposeEnumType)
    (evseId : Int) :
    (s.remove matched).slot purpose evseId =
      if purpose = matched.2.chargingProfilePurpose ∧ evseId = matched.1 then none
      else s.slot purpose evseId := by
  cases own : matched.2.chargingProfilePurpose <;> cases purpose <;>
    simp [remove, own, slot, CeilingKind.fromPurpose, Station.clearTxProfile, HashMap.lookup_erase]

theorem slot_foldl_remove {matched : List (Int × ChargingProfileType)}
    {purpose : ChargingProfilePurposeEnumType} {evseId : Int} {profile : ChargingProfileType} :
    (matched.foldl remove s).slot purpose evseId = some profile ↔ s.slot purpose evseId = some profile ∧
      ∀ other, (evseId, other) ∈ matched → other.chargingProfilePurpose ≠ purpose := by
  induction matched generalizing s with
  | nil => simp
  | cons first rest ih =>
      rw [List.foldl_cons, ih, slot_remove]
      constructor
      · rintro ⟨held, later⟩
        split_ifs at held with here
        refine ⟨held, fun other member same => ?_⟩
        obtain rfl | member := List.mem_cons.mp member
        · exact here ⟨same.symm, rfl⟩
        · exact later other member same
      · rintro ⟨held, apart⟩
        refine ⟨?_, fun other member => apart other (List.mem_cons_of_mem _ member)⟩
        rw [if_neg]
        · exact held
        · rintro ⟨rfl, rfl⟩
          exact apart first.2 List.mem_cons_self rfl

/-! ## Clearing -/

def Routed : Prop :=
  ∀ purpose evseId profile, s.slot purpose evseId = some profile → profile.chargingProfilePurpose = purpose

def Selects (chargingProfileId : Option Int) (criteria : Option ClearChargingProfileType)
    (slot : Int × ChargingProfileType) : Prop :=
  match chargingProfileId, criteria with
  | some id, _ => slot.2.id = id
  | none, some c => (∀ evseId ∈ c.evseId, evseId = slot.1) ∧
      (∀ purpose ∈ c.chargingProfilePurpose, purpose = slot.2.chargingProfilePurpose) ∧
      ∀ stackLevel ∈ c.stackLevel, stackLevel = slot.2.stackLevel
  | none, none => True

theorem mem_matches {chargingProfileId : Option Int} {criteria : Option ClearChargingProfileType}
    {installed : List (Int × ChargingProfileType)} {slot : Int × ChargingProfileType} :
    slot ∈ v201ClearChargingProfileMatches chargingProfileId criteria installed ↔
      slot ∈ installed ∧ Selects chargingProfileId criteria slot := by
  rw [v201ClearChargingProfileMatches, List.mem_filter]
  cases chargingProfileId with
  | some id => simp [Selects]
  | none => cases criteria <;> simp [Selects, Option.all_eq_true]

variable {s}

theorem Routed.mem_clear (routed : s.Routed) (chargingProfileId : Option Int)
    (criteria : Option ClearChargingProfileType) (slot : Int × ChargingProfileType) :
    slot ∈ (s.clearChargingProfile chargingProfileId criteria).2.installed ↔
      slot ∈ s.installed ∧ ¬ Selects chargingProfileId criteria slot := by
  obtain ⟨evseId, profile⟩ := slot
  simp only [clearChargingProfile, mem_installed, slot_foldl_remove]
  constructor
  · rintro ⟨purpose, held, apart⟩
    refine ⟨⟨purpose, held⟩, fun selected => ?_⟩
    have matched := mem_matches.mpr ⟨mem_installed.mpr ⟨purpose, held⟩, selected⟩
    exact apart profile matched (routed purpose evseId profile held)
  · rintro ⟨⟨purpose, held⟩, unselected⟩
    refine ⟨purpose, held, fun other matched same => unselected ?_⟩
    obtain ⟨member, selected⟩ := mem_matches.mp matched
    obtain ⟨purpose', held'⟩ := mem_installed.mp member
    -- two profiles of one purpose on one EVSE are the same profile
    rw [← routed purpose' evseId other held', same, held] at held'
    cases held'
    exact selected

theorem Routed.clear (routed : s.Routed) (chargingProfileId : Option Int)
    (criteria : Option ClearChargingProfileType) :
    (s.clearChargingProfile chargingProfileId criteria).2.Routed := by
  intro purpose evseId profile held
  exact routed purpose evseId profile (s.slot_foldl_remove.mp held).1

theorem Routed.install (routed : s.Routed) (evseId : Int) (profile : ChargingProfileType) :
    (s.install evseId profile).Routed := by
  intro purpose evseId' profile' held
  rw [slot_install] at held
  split_ifs at held with own
  · cases held
    exact own.1.symm
  · exact routed purpose evseId' profile' held

theorem clear_accepted (chargingProfileId : Option Int) (criteria : Option ClearChargingProfileType) :
    (s.clearChargingProfile chargingProfileId criteria).1 = .accepted ↔
      ∃ slot ∈ s.installed, Selects chargingProfileId criteria slot := by
  simp only [clearChargingProfile]
  split_ifs with none
  · simp only [false_iff]
    rintro ⟨slot, member, selected⟩
    rw [List.isEmpty_iff] at none
    have matched := mem_matches.mpr ⟨member, selected⟩
    rw [none] at matched
    cases matched
  · simp only [true_iff]
    rw [List.isEmpty_iff] at none
    obtain ⟨slot, matched⟩ := List.exists_mem_of_ne_nil _ none
    exact ⟨slot, mem_matches.mp matched⟩

end ProfileStores

/-! ## What the other calls install -/

/-- A queued start carries a transaction profile, if it carries one. -/
def RemoteCommand.OwnProfile : RemoteCommand → Prop
  | startTransaction _ _ _ chargingProfile _ =>
      ∀ profile ∈ chargingProfile, profile.chargingProfilePurpose = .txProfile
  | _ => True

def Op.OwnProfile : Op → Prop
  | installTxProfile _ profile => profile.chargingProfilePurpose = .txProfile
  | enqueue command => command.OwnProfile
  | _ => True

structure Station.OwnProfiles (s : Station) : Prop where
  profiles : ∀ evseId profile, s.v201TxProfiles.lookup evseId = some profile →
    profile.chargingProfilePurpose = .txProfile
  commands : ∀ command ∈ s.commands, command.OwnProfile

theorem Op.effect_v201TxProfiles {op : Op} {choice : Choice} {s : Station} {evseId : Int}
    {profile : ChargingProfileType}
    (held : (op.effect choice s).v201TxProfiles.lookup evseId = some profile) :
    s.v201TxProfiles.lookup evseId = some profile ∨ op = .installTxProfile evseId profile := by
  cases op
  case installTxProfile evseId' profile' =>
    simp only [effect, Station.installTxProfile, HashMap.lookup_insert] at held
    split_ifs at held with same
    · cases held
      exact .inr (same ▸ rfl)
    · exact .inl held
  case clearTxProfile evseId' =>
    simp only [effect, Station.clearTxProfile, HashMap.lookup_erase] at held
    split_ifs at held
    exact .inl held
  case setIdentity tid idTag groupIdToken =>
    obtain ⟨v201Sessions, identified⟩ := s.setIdentity_eq tid idTag groupIdToken
    rw [effect, identified] at held
    exact .inl held
  case removeTimers ids =>
    obtain ⟨expiryTimers, timers, removed⟩ := s.removeTimers_eq ids
    rw [effect, removed] at held
    exact .inl held
  case claimListedSeqNo | expireReservation | takeIfIdle =>
    simp only [effect] at held
    split_ifs at held <;> exact .inl held
  case call => cases choice <;> exact .inl held
  all_goals exact .inl held

theorem Station.OwnProfiles.exec {s t : Station} (own : s.OwnProfiles) {op : Op} {choice : Choice}
    {result : op.Result} (carries : op.OwnProfile) (performed : exec s op choice = some (result, t)) :
    t.OwnProfiles := by
  rw [exec_effect performed]
  constructor
  · intro evseId profile held
    obtain held | rfl := Op.effect_v201TxProfiles held
    · exact own.profiles evseId profile held
    · exact carries
  · intro command queued
    obtain queued | rfl := Op.effect_commands queued
    · exact own.commands command queued
    · exact carries

theorem startTransactionWithRemoteStartId_ownProfile (config : Config) {chargingProfile : Option ChargingProfileType}
    (own : ∀ profile ∈ chargingProfile, profile.chargingProfilePurpose = .txProfile) (connectorId : Nat)
    (idTag : String) (meterStart : Int) (remoteStartId : Option Int) (groupIdToken : Option IdTokenType) :
    (startTransactionWithRemoteStartId config connectorId idTag meterStart remoteStartId
      chargingProfile groupIdToken).Within Op.OwnProfile := by
  apply within_startTransaction
  · intro op folds
    cases op <;> first | exact own _ folds | exact folds.elim | trivial
  · intro op opens
    cases op <;> first | exact own _ opens | exact opens.elim | trivial
  · exact fun _ => trivial

theorem requestStartTransaction_ownProfile (config : Config) (req : RequestStartTransactionRequest) :
    (requestStartTransaction config req).Within Op.OwnProfile := by
  unfold requestStartTransaction
  split_ifs with foreign
  · trivial
  · split
    · trivial
    · refine (within_act trivial).bind fun status => ?_
      split_ifs
      · refine (within_act ?_).bind fun _ => trivial
        intro profile given
        by_contra other
        apply foreign
        rw [Option.mem_def.mp given]
        simpa using other
      · trivial

theorem remoteStartTransaction_ownProfile (config : Config) (connectorId : Option Nat) (idTag : String) :
    (remoteStartTransaction config connectorId idTag).Within Op.OwnProfile := by
  unfold remoteStartTransaction
  dsimp only
  split_ifs
  · trivial
  · refine (within_act trivial).bind fun status => ?_
    split_ifs
    · refine (within_act ?_).bind fun _ => trivial
      simp [Op.OwnProfile, RemoteCommand.OwnProfile]
    · trivial

theorem remoteStopTransaction_ownProfile (transactionId : Int) :
    (remoteStopTransaction transactionId).Within Op.OwnProfile := by
  refine (within_act trivial).bind fun found => ?_
  cases found with
  | none => trivial
  | some connectorId => exact (within_act trivial).bind fun _ => trivial

theorem deferredCommand_ownProfile {command : RemoteCommand} (deferred : deferredCommand command) :
    command.OwnProfile := by
  cases command <;> trivial

theorem reportCommand_ownProfile {command : RemoteCommand} (reports : reportCommand command) :
    command.OwnProfile := by
  cases command <;> trivial

theorem RemoteCommand.run_ownProfile (config : Config) {command : RemoteCommand} (own : command.OwnProfile) :
    (command.run config).Within Op.OwnProfile := by
  cases command
  case startTransaction connectorId idTag remoteStartId chargingProfile groupIdToken =>
    exact (startTransactionWithRemoteStartId_ownProfile config own connectorId idTag 0 remoteStartId
      groupIdToken).bind fun _ => trivial
  all_goals
    refine (RemoteCommand.run_within config _).mono fun op inside => ?_
    cases op
  case reset.enqueue | stopTransaction.enqueue => exact deferredCommand_ownProfile inside
  all_goals first
    | trivial
    | exact inside.elim
    | obtain ⟨_, ⟨⟩, -⟩ := inside

/-- The calls whose handlers the stores have of their own. -/
def Call.SetsProfiles : Call → Prop
  | v201SetChargingProfile .. | v201ClearChargingProfile .. => True
  | _ => False

theorem Call.run_ownProfile (config : Config) (rfc : Rfc3339) {call : Call} (other : ¬call.SetsProfiles)
    (queued : ∀ command, call = .command command → command.OwnProfile) :
    (call.run config rfc).Within Op.OwnProfile := by
  cases call
  case startTransaction connectorId idTag meterStart =>
    exact (startTransactionWithRemoteStartId_ownProfile config (by simp) connectorId idTag meterStart none
      none).bind fun _ => trivial
  case requestStartTransaction req =>
    exact (requestStartTransaction_ownProfile config req).bind fun _ => trivial
  case remoteStartTransaction connectorId idTag =>
    exact (remoteStartTransaction_ownProfile config connectorId idTag).bind fun _ => trivial
  case remoteStopTransaction transactionId =>
    exact (remoteStopTransaction_ownProfile transactionId).bind fun _ => trivial
  case triggerTransactionEvent evseId => exact (within_act trivial).bind fun _ => trivial
  case v201SetChargingProfile | v201ClearChargingProfile => exact absurd trivial other
  case command command => exact RemoteCommand.run_ownProfile config (queued command rfl)
  all_goals
    refine (Call.run_within config rfc _).mono fun op inside => ?_
    cases op
  case stopTransaction.enqueue => exact deferredCommand_ownProfile inside
  case v16jReserveNow.enqueue | v201ReserveNow.enqueue | cancelReservation.enqueue | expire.enqueue =>
    exact reportCommand_ownProfile inside
  case v16jReset.enqueue => cases inside; trivial
  case v201Reset.enqueue => cases inside; trivial
  case v201ChangeAvailability.enqueue => obtain ⟨_, _, rfl⟩ := inside; trivial
  all_goals first
    | trivial
    | exact inside.elim
    | obtain ⟨_, ⟨⟩⟩ := inside

/-! ## Runs -/

namespace ProfileStores

inductive Action
  | call (completion : Completion)
  | setChargingProfile (evseId : Int) (profile : ChargingProfileType)
  | clearChargingProfile (chargingProfileId : Option Int) (criteria : Option ClearChargingProfileType)

variable (config : Config) (rfc : Rfc3339)

def step (s : ProfileStores) : Action → Option ProfileStores
  | .call completion =>
      match completion.call with
      | .v201SetChargingProfile .. | .v201ClearChargingProfile .. => none
      | _ => (s.station.complete config rfc completion).map fun station => { s with station }
  | .setChargingProfile evseId profile => some (s.setChargingProfile evseId profile).2
  | .clearChargingProfile chargingProfileId criteria => some (s.clearChargingProfile chargingProfileId criteria).2

/-- Every store holds only profiles of its own purpose. -/
structure OwnPurposes (s : ProfileStores) : Prop where
  transactions : ∀ evseId profile, s.station.v201TxProfiles.lookup evseId = some profile →
    profile.chargingProfilePurpose = .txProfile
  defaults : ∀ evseId profile, s.v201TxDefaultProfiles.lookup evseId = some profile →
    profile.chargingProfilePurpose = .txDefaultProfile
  ceilings : ∀ kind evseId profile, s.v201StationCeilings.lookup (kind, evseId) = some profile →
    CeilingKind.fromPurpose profile.chargingProfilePurpose = some kind

/-- A clear removes what it selects and nothing else, and what it selected is not reported any more. A clear
by id ignores its criteria. -/
structure Clears (s : ProfileStores) (chargingProfileId : Option Int)
    (criteria : Option ClearChargingProfileType) : Prop where
  accepted : (s.clearChargingProfile chargingProfileId criteria).1 = .accepted ↔
    ∃ slot ∈ s.installed, Selects chargingProfileId criteria slot
  removed : ∀ slot, slot ∈ (s.clearChargingProfile chargingProfileId criteria).2.installed ↔
    slot ∈ s.installed ∧ ¬ Selects chargingProfileId criteria slot
  repeated : ((s.clearChargingProfile chargingProfileId criteria).2.clearChargingProfile chargingProfileId
    criteria).1 = .unknown
  unreported : chargingProfileId = none → ∀ criterion : ChargingProfileCriterionType,
    criterion.chargingProfilePurpose = criteria.bind (·.chargingProfilePurpose) →
    criterion.stackLevel = criteria.bind (·.stackLevel) →
    (s.clearChargingProfile chargingProfileId criteria).2.getChargingProfiles
      (criteria.bind (·.evseId)) criterion = (.noProfiles, [])
  unreportedId : ∀ id, chargingProfileId = some id → ∀ evseId (criterion : ChargingProfileCriterionType),
    criterion.chargingProfileId = some [id] →
    (s.clearChargingProfile chargingProfileId criteria).2.getChargingProfiles evseId criterion =
      (.noProfiles, [])

theorem Routed.ownPurposes {s : ProfileStores} (routed : s.Routed) : s.OwnPurposes where
  transactions := routed .txProfile
  defaults := routed .txDefaultProfile
  ceilings := by
    intro kind evseId profile held
    cases kind with
    | max => rw [routed .chargingStationMaxProfile evseId profile held, CeilingKind.fromPurpose]
    | external => rw [routed .chargingStationExternalConstraints evseId profile held, CeilingKind.fromPurpose]

theorem getChargingProfiles_none {s : ProfileStores} {evseId : Option Int}
    {criterion : ChargingProfileCriterionType}
    (unmatched : ∀ slot ∈ s.installed, slot ∉ v201GetChargingProfilesMatches evseId criterion [slot]) :
    s.getChargingProfiles evseId criterion = (.noProfiles, []) := by
  have none : v201GetChargingProfilesMatches evseId criterion s.installed = [] := by
    rw [v201GetChargingProfilesMatches, List.filter_eq_nil_iff]
    intro slot member matched
    apply unmatched slot member
    rw [v201GetChargingProfilesMatches, List.mem_filter]
    exact ⟨List.mem_singleton_self slot, matched⟩
  simp [getChargingProfiles, none]

theorem Routed.clears {s : ProfileStores} (routed : s.Routed) (chargingProfileId : Option Int)
    (criteria : Option ClearChargingProfileType) : s.Clears chargingProfileId criteria where
  accepted := clear_accepted chargingProfileId criteria
  removed := routed.mem_clear chargingProfileId criteria
  repeated := by
    generalize after : (s.clearChargingProfile chargingProfileId criteria).2 = t
    have rejected : (t.clearChargingProfile chargingProfileId criteria).1 ≠ .accepted := by
      rw [Ne, clear_accepted]
      rintro ⟨slot, member, selected⟩
      rw [← after, routed.mem_clear] at member
      exact member.2 selected
    cases answer : (t.clearChargingProfile chargingProfileId criteria).1 with
    | accepted => exact absurd answer rejected
    | unknown => rfl
  unreported := by
    rintro rfl criterion purpose stackLevel
    apply getChargingProfiles_none
    intro slot member matched
    apply ((routed.mem_clear none criteria slot).mp member).2
    rw [v201GetChargingProfilesMatches, List.mem_filter] at matched
    cases criteria with
    | none => trivial
    | some c =>
        have named := matched.2
        simp only [purpose, stackLevel, Option.bind_some, decide_eq_true_eq] at named
        obtain ⟨here, same, level, -⟩ := named
        simpa [Selects, Option.all_eq_true] using And.intro here (And.intro same level)
  unreportedId := by
    rintro id rfl evseId criterion asked
    apply getChargingProfiles_none
    intro slot member matched
    apply ((routed.mem_clear (some id) criteria slot).mp member).2
    rw [v201GetChargingProfilesMatches, List.mem_filter] at matched
    have named := matched.2
    simp only [asked, decide_eq_true_eq] at named
    simpa [Selects] using named.2.2.2.1

/-- The stores are routed, and so is what is still to be installed. -/
structure Consistent (s : ProfileStores) : Prop where
  routed : s.Routed
  queued : ∀ command ∈ s.station.commands, command.OwnProfile

theorem consistent_new : Consistent new where
  routed := by
    intro purpose evseId profile held
    cases purpose <;> simp [new, Station.new, slot] at held
  queued := by simp [new, Station.new]

theorem install_commands (s : ProfileStores) (evseId : Int) (profile : ChargingProfileType) :
    (s.install evseId profile).station.commands = s.station.commands := by
  unfold install
  split <;> (try split) <;> rfl

theorem foldl_remove_commands (s : ProfileStores) (matched : List (Int × ChargingProfileType)) :
    (matched.foldl remove s).station.commands = s.station.commands := by
  induction matched generalizing s with
  | nil => rfl
  | cons first rest ih =>
      rw [List.foldl_cons, ih]
      unfold remove
      split <;> (try split) <;> rfl

theorem complete_ownProfiles {s t : Station} {completion : Completion} (own : s.OwnProfiles)
    (other : ¬completion.call.SetsProfiles) (completed : s.complete config rfc completion = some t) :
    t.OwnProfiles := by
  obtain ⟨u, outcome, started, ended⟩ := Station.complete_eq_some config rfc completed
  obtain ⟨kept, queued⟩ := Call.start_commands started
  obtain ⟨-, commands, timers, rfl⟩ := Call.start_shared started
  have footprint : (completion.call.run config rfc).Within Op.OwnProfile :=
    Call.run_ownProfile config rfc other fun command same => own.commands command (queued command same)
  refine post_of_eval (footprint.wp ?_ ?_) ended
  · exact fun _ _ _ _ _ carries own performed => own.exec carries performed
  · exact ⟨own.profiles, fun command member => own.commands command (kept command member)⟩

theorem step_call {s t : ProfileStores} {completion : Completion}
    (stepped : step config rfc s (.call completion) = some t) :
    ¬completion.call.SetsProfiles ∧ ∃ station, s.station.complete config rfc completion = some station ∧
      t = { s with station } := by
  simp only [step] at stepped
  split at stepped
  · cases stepped
  · cases stepped
  · rename_i notSet notClear
    obtain ⟨station, completed, rfl⟩ := Option.map_eq_some_iff.mp stepped
    refine ⟨fun sets => ?_, station, completed, rfl⟩
    cases asked : completion.call <;> rw [asked] at sets <;> first | exact sets.elim | skip
    · exact notSet _ _ asked
    · exact notClear _ _ asked

theorem Consistent.step {s t : ProfileStores} {action : Action} (inv : Consistent s)
    (stepped : step config rfc s action = some t) : Consistent t := by
  cases action with
  | call completion =>
      obtain ⟨other, station, completed, rfl⟩ := step_call config rfc stepped
      have own := complete_ownProfiles config rfc ⟨inv.routed .txProfile, inv.queued⟩ other completed
      refine ⟨fun purpose evseId profile held => ?_, own.commands⟩
      cases purpose with
      | txProfile => exact own.profiles evseId profile held
      | txDefaultProfile => exact inv.routed .txDefaultProfile evseId profile held
      | chargingStationMaxProfile => exact inv.routed .chargingStationMaxProfile evseId profile held
      | chargingStationExternalConstraints =>
          exact inv.routed .chargingStationExternalConstraints evseId profile held
  | setChargingProfile evseId profile =>
      obtain rfl := Option.some.inj stepped
      simp only [setChargingProfile]
      split_ifs
      · refine ⟨inv.routed.install evseId profile, ?_⟩
        rw [install_commands]
        exact inv.queued
      · exact inv
  | clearChargingProfile chargingProfileId criteria =>
      obtain rfl := Option.some.inj stepped
      refine ⟨inv.routed.clear chargingProfileId criteria, ?_⟩
      simp only [clearChargingProfile]
      rw [foldl_remove_commands]
      exact inv.queued

/-- After every run the stores hold profiles of their own purposes, and a clear does exactly what it says. -/
theorem profile_stores_agree {actions : List Action} {s : ProfileStores}
    (ran : run (step config rfc) new actions = some s) :
    s.OwnPurposes ∧ ∀ chargingProfileId criteria, s.Clears chargingProfileId criteria := by
  have inv : Consistent s :=
    run_invariant (fun _ _ _ inv _ stepped => inv.step config rfc stepped) consistent_new (.always _ _) ran
  exact ⟨inv.routed.ownPurposes, inv.routed.clears⟩

def defaultProfile (id : Int) : ChargingProfileType where
  id
  stackLevel := 0
  chargingProfilePurpose := .txDefaultProfile
  chargingProfileKind := .relative
  chargingSchedule := []
  recurrencyKind := none
  validFrom := none
  validTo := none
  transactionId := none

def twoDefaults : List Action :=
  [.setChargingProfile 0 (defaultProfile 1), .setChargingProfile 1 (defaultProfile 2)]

theorem twoDefaults_agree : ∃ s, run (step (simulator .v201) noDates) new twoDefaults = some s ∧
    s.installed = [(1, defaultProfile 2), (0, defaultProfile 1)] ∧ s.OwnPurposes ∧
    ∀ chargingProfileId criteria, s.Clears chargingProfileId criteria := by
  have ran : run (step (simulator .v201) noDates) new twoDefaults = some _ := rfl
  exact ⟨_, ran, rfl, profile_stores_agree (simulator .v201) noDates ran⟩

/-- The clear of one default by its id leaves the other one, which its criteria name too. -/
theorem clearedById_reported : ∃ s, run (step (simulator .v201) noDates) new twoDefaults = some s ∧
    (s.clearChargingProfile (some 1) (some ⟨none, some .txDefaultProfile, some 0⟩)).1 = .accepted ∧
    (s.clearChargingProfile (some 1) (some ⟨none, some .txDefaultProfile, some 0⟩)).2.getChargingProfiles none
      ⟨some .txDefaultProfile, some 0, none, none⟩ = (.accepted, [(1, defaultProfile 2)]) :=
  ⟨_, rfl, rfl, rfl⟩

end ProfileStores

end Ocpp.ChargePoint
