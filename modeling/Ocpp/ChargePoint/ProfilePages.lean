import Mathlib.Data.Prod.Lex
import Ocpp.ChargePoint.ProfileStores
import Ocpp.Library.Grouping

/-!
# The pages of `ReportChargingProfiles`

`v201_report_charging_profiles_pages` of `v201_command.rs`: the profiles that a `GetChargingProfiles` matches, one
page for each EVSE and limit source. Each of the three stores is a map that gives its profiles in some order.
-/

namespace Ocpp.ChargePoint
open Library V201

def ChargingLimitSourceEnumType.index : ChargingLimitSourceEnumType → Nat
  | ems => 0
  | other => 1
  | so => 2
  | cso => 3

theorem ChargingLimitSourceEnumType.index_injective : Function.Injective index := by
  intro source source' same
  cases source <;> cases source' <;> first | rfl | cases same

/-- The derived order, that of the variants. -/
instance : LinearOrder ChargingLimitSourceEnumType :=
  .lift' ChargingLimitSourceEnumType.index ChargingLimitSourceEnumType.index_injective

structure ReportChargingProfilesRequest where
  requestId : Int
  chargingLimitSource : ChargingLimitSourceEnumType
  chargingProfile : List ChargingProfileType
  evseId : Int
  tbc : Option Bool
deriving DecidableEq

def ReportChargingProfilesRequest.key (page : ReportChargingProfilesRequest) :
    Int ×ₗ ChargingLimitSourceEnumType :=
  toLex (page.evseId, page.chargingLimitSource)

def profileKey (slot : Int × ChargingProfileType) : Int × ChargingLimitSourceEnumType :=
  (slot.1, v201ChargingLimitSource slot.2.chargingProfilePurpose)

/-- The vectors of the `BTreeMap`, before they are sorted. -/
def profilesByKey (matched : List (Int × ChargingProfileType)) :
    HashMap (Int × ChargingLimitSourceEnumType) (List ChargingProfileType) :=
  group profileKey (fun _ => []) (fun profiles slot => profiles ++ [slot.2]) matched

/-- The entries of the `BTreeMap`, in the order of its keys. -/
def profileEntries (matched : List (Int × ChargingProfileType)) :
    List ((Int ×ₗ ChargingLimitSourceEnumType) × List ChargingProfileType) :=
  sortByKey (·.1) ((profilesByKey matched).entries.map fun e => (toLex e.1, sortByKey (·.id) e.2))

def v201ReportChargingProfilesPages (requestId : Int) (matched : List (Int × ChargingProfileType)) :
    List ReportChargingProfilesRequest :=
  let byKey := profileEntries matched
  let last := byKey.length - 1
  byKey.mapIdx fun i e =>
    { requestId
      chargingLimitSource := (ofLex e.1).2
      chargingProfile := e.2
      evseId := (ofLex e.1).1
      tbc := if i < last then some true else none }

/-- Orders in which the maps of the three stores give their profiles. -/
structure ProfileStores.Walk (s : ProfileStores) where
  transactions : List (Σ _ : Int, ChargingProfileType)
  defaults : List (Σ _ : Int, ChargingProfileType)
  ceilings : List (Σ _ : CeilingKind × Int, ChargingProfileType)
  transactions_perm : transactions.Perm s.station.v201TxProfiles.entries
  defaults_perm : defaults.Perm s.v201TxDefaultProfiles.entries
  ceilings_perm : ceilings.Perm s.v201StationCeilings.entries

def ProfileStores.Walk.installed {s : ProfileStores} (walk : s.Walk) : List (Int × ChargingProfileType) :=
  walk.transactions.map (fun e => (e.1, e.2)) ++ walk.defaults.map (fun e => (e.1, e.2)) ++
    walk.ceilings.map (fun e => (e.1.2, e.2))

def ProfileStores.Walk.pages {s : ProfileStores} (walk : s.Walk) (requestId : Int) (evseId : Option Int)
    (criterion : ChargingProfileCriterionType) : List ReportChargingProfilesRequest :=
  v201ReportChargingProfilesPages requestId (v201GetChargingProfilesMatches evseId criterion walk.installed)

/-- The pages do not depend on the orders of the maps, have ascending keys and a profile each, all but the last are to
be continued, and together they hold the matching profiles, each once and on the page of its EVSE and source. -/
structure PagesExact (s : ProfileStores) (requestId : Int) (evseId : Option Int)
    (criterion : ChargingProfileCriterionType) (pages : List ReportChargingProfilesRequest) : Prop where
  ordered : ∀ walk : s.Walk, walk.pages requestId evseId criterion = pages
  ascending : pages.Pairwise fun page page' => page.key < page'.key
  nonempty : ∀ page ∈ pages, page.chargingProfile ≠ [] ∧ page.requestId = requestId
  once : (pages.flatMap fun page => page.chargingProfile.map fun profile => (page.evseId, profile)).Perm
    (v201GetChargingProfilesMatches evseId criterion s.installed)
  own : ∀ page ∈ pages, ∀ profile ∈ page.chargingProfile,
    v201ChargingLimitSource profile.chargingProfilePurpose = page.chargingLimitSource
  continued : ∀ i page, pages[i]? = some page → page.tbc = if i + 1 < pages.length then some true else none

/-! ## Pages -/

variable {requestId : Int} {matched : List (Int × ChargingProfileType)}

variable (requestId matched) in
theorem pages_entries : (v201ReportChargingProfilesPages requestId matched).map
    (fun page => (page.key, page.chargingProfile)) = profileEntries matched := by
  apply List.ext_getElem?
  intro i
  rw [v201ReportChargingProfilesPages, List.getElem?_map, List.getElem?_mapIdx, Option.map_map]
  exact Option.map_id_fun ▸ rfl

theorem profilesByKey_keys : ((profilesByKey matched).entries.map fun e =>
    ((toLex e.1, sortByKey (·.id) e.2) : (Int ×ₗ ChargingLimitSourceEnumType) × List ChargingProfileType)).map (·.1) =
      (profilesByKey matched).keys.map toLex := by
  rw [List.map_map, AList.keys, List.keys, List.map_map]
  rfl

variable (matched) in
theorem profileEntries_ascending : (profileEntries matched).Pairwise fun e e' => e.1 < e'.1 := by
  have distinct : ((profileEntries matched).map (·.1)).Nodup := by
    rw [profileEntries, ((sortByKey_perm _ _).map _).nodup_iff, profilesByKey_keys]
    exact (profilesByKey matched).keys_nodup.map toLex.injective
  exact ((sortByKey_sorted _ _).and (List.pairwise_map.mp distinct)).imp fun ⟨le, ne⟩ => lt_of_le_of_ne le ne

theorem mem_profileEntries {e : (Int ×ₗ ChargingLimitSourceEnumType) × List ChargingProfileType} :
    e ∈ profileEntries matched ↔ ∃ profiles, (profilesByKey matched).lookup (ofLex e.1) = some profiles ∧
      e.2 = sortByKey (·.id) profiles := by
  rw [profileEntries, (sortByKey_perm _ _).mem_iff, List.mem_map]
  constructor
  · rintro ⟨⟨k, profiles⟩, member, rfl⟩
    exact ⟨profiles, HashMap.mem_entries.mp member, rfl⟩
  · rintro ⟨profiles, held, sorted⟩
    refine ⟨⟨ofLex e.1, profiles⟩, HashMap.mem_entries.mpr held, ?_⟩
    rw [← sorted]
    rfl

theorem lookup_profilesByKey {k : Int × ChargingLimitSourceEnumType} {profiles : List ChargingProfileType}
    (held : (profilesByKey matched).lookup k = some profiles) :
    profiles ≠ [] ∧ profiles = (matched.filter (profileKey · = k)).map (·.2) := by
  have some_ : (matched.filter (profileKey · = k)) ≠ [] := by
    rw [← gathered_isSome (fun _ => []) (fun profiles slot => profiles ++ [slot.2]), ← lookup_group]
    exact Option.isSome_of_eq_some held
  have gathered := gathered_vector (·.2) (matched.filter (profileKey · = k))
  rw [← lookup_group, show (group profileKey _ _ matched).lookup k = some profiles from held, Option.getD_some]
    at gathered
  exact ⟨fun none => some_ (List.map_eq_nil_iff.mp (gathered.symm.trans none)), gathered⟩

theorem profileEntries_eq {matched' : List (Int × ChargingProfileType)}
    (same : ∀ k, matched.filter (profileKey · = k) = matched'.filter (profileKey · = k)) :
    profileEntries matched = profileEntries matched' := by
  have lookups : ∀ k, (profilesByKey matched).lookup k = (profilesByKey matched').lookup k := by
    intro k
    rw [profilesByKey, profilesByKey, lookup_group, lookup_group, same]
  apply sortByKey_eq_of_perm
  · apply map_entries_perm
    intro k
    rw [lookups]
  · intro e member e' member' tied
    obtain ⟨⟨k, profiles⟩, held, rfl⟩ := List.mem_map.mp member
    obtain ⟨⟨k', profiles'⟩, held', rfl⟩ := List.mem_map.mp member'
    obtain rfl := toLex.injective tied
    rw [HashMap.mem_entries] at held held'
    rw [held] at held'
    rw [Option.some.inj held']

theorem pages_eq {matched' : List (Int × ChargingProfileType)}
    (same : ∀ k, matched.filter (profileKey · = k) = matched'.filter (profileKey · = k)) :
    v201ReportChargingProfilesPages requestId matched = v201ReportChargingProfilesPages requestId matched' := by
  rw [v201ReportChargingProfilesPages, v201ReportChargingProfilesPages, profileEntries_eq same]

theorem mem_page {page : ReportChargingProfilesRequest}
    (member : page ∈ v201ReportChargingProfilesPages requestId matched) :
    page.requestId = requestId ∧ page.chargingProfile ≠ [] ∧ ∀ profile ∈ page.chargingProfile,
      v201ChargingLimitSource profile.chargingProfilePurpose = page.chargingLimitSource := by
  have entry : (page.key, page.chargingProfile) ∈ profileEntries matched := by
    rw [← pages_entries requestId]
    exact List.mem_map_of_mem member
  obtain ⟨profiles, held, sorted⟩ := mem_profileEntries.mp entry
  obtain ⟨some_, gathered⟩ := lookup_profilesByKey held
  have requested : page.requestId = requestId := by
    obtain ⟨i, -, rfl⟩ := List.mem_mapIdx.mp member
    rfl
  change page.chargingProfile = _ at sorted
  refine ⟨requested, ?_, ?_⟩
  · rw [sorted]
    exact fun none => some_ (List.perm_nil.mp (none ▸ (sortByKey_perm _ _).symm))
  · intro profile inside
    rw [sorted, (sortByKey_perm _ _).mem_iff, gathered] at inside
    obtain ⟨slot, kept, rfl⟩ := List.mem_map.mp inside
    exact congrArg Prod.snd (of_decide_eq_true (List.mem_filter.mp kept).2)

theorem pages_perm : ((v201ReportChargingProfilesPages requestId matched).flatMap fun page =>
    page.chargingProfile.map fun profile => (page.evseId, profile)).Perm matched := by
  have entries : ((v201ReportChargingProfilesPages requestId matched).flatMap fun page =>
      page.chargingProfile.map fun profile => (page.evseId, profile)) =
        (profileEntries matched).flatMap fun e => e.2.map fun profile => ((ofLex e.1).1, profile) := by
    rw [← pages_entries requestId, List.flatMap_map]
    rfl
  have keyed : ((profilesByKey matched).entries.flatMap fun e => e.2.map fun profile => (e.1.1, profile)) =
      (HashMap.pairs (profilesByKey matched)).map fun e => (e.1.1, e.2) := by
    rw [HashMap.pairs, List.map_flatMap]
    simp only [List.map_map, Function.comp_def]
  have sorted : ((profileEntries matched).flatMap fun e => e.2.map fun profile => ((ofLex e.1).1, profile)).Perm
      ((profilesByKey matched).entries.flatMap fun e =>
        (sortByKey (·.id) e.2).map fun profile => (e.1.1, profile)) := by
    have order := (sortByKey_perm (fun e : (Int ×ₗ ChargingLimitSourceEnumType) × List ChargingProfileType => e.1)
      ((profilesByKey matched).entries.map fun e => (toLex e.1, sortByKey (·.id) e.2))).flatMap_right
      fun e => e.2.map fun profile => ((ofLex e.1).1, profile)
    rwa [List.flatMap_map] at order
  have unsorted : ((profilesByKey matched).entries.flatMap fun e =>
      (sortByKey (·.id) e.2).map fun profile => (e.1.1, profile)).Perm
        ((profilesByKey matched).entries.flatMap fun e => e.2.map fun profile => (e.1.1, profile)) :=
    List.Perm.flatMap_left _ fun e _ => (sortByKey_perm _ _).map _
  have grouped : ((HashMap.pairs (profilesByKey matched)).map fun e => (e.1.1, e.2)).Perm matched := by
    have pairs := (pairs_group profileKey (·.2) matched).map fun e => (e.1.1, e.2)
    rw [List.map_map] at pairs
    exact pairs.trans (.of_eq (List.map_id matched))
  rw [entries]
  exact sorted.trans (unsorted.trans (.trans (.of_eq keyed) grouped))

theorem tbc_page {i : Nat} {page : ReportChargingProfilesRequest}
    (here : (v201ReportChargingProfilesPages requestId matched)[i]? = some page) :
    page.tbc = if i + 1 < (v201ReportChargingProfilesPages requestId matched).length then some true else none := by
  rw [v201ReportChargingProfilesPages, List.getElem?_mapIdx] at here
  obtain ⟨e, inside, rfl⟩ := Option.map_eq_some_iff.mp here
  have bound := (List.getElem?_eq_some_iff.mp inside).1
  rw [v201ReportChargingProfilesPages, List.length_mapIdx]
  dsimp only
  congr 1
  simp only [eq_iff_iff]
  omega

/-! ## Walks -/

namespace ProfileStores

variable {s : ProfileStores}

theorem filter_keyed {κ : Type} [DecidableEq κ] {store : HashMap κ ChargingProfileType}
    {walk : List (Σ _ : κ, ChargingProfileType)} (same : walk.Perm store.entries) (evseId : κ → Int)
    (p : Int × ChargingProfileType → Bool)
    (one : ∀ k k' profile profile', store.lookup k = some profile → store.lookup k' = some profile' →
      p (evseId k, profile) → p (evseId k', profile') → k = k') :
    (walk.map fun e => (evseId e.1, e.2)).filter p = (store.entries.map fun e => (evseId e.1, e.2)).filter p := by
  rw [List.filter_map, List.filter_map]
  congr 1
  apply filter_eq_of_perm same
  · exact List.Nodup.of_map Sigma.fst ((same.map Sigma.fst).nodup_iff.mpr store.keys_nodup)
  · rintro ⟨k, profile⟩ member ⟨k', profile'⟩ member' kept kept'
    have held := HashMap.mem_entries.mp (same.mem_iff.mp member)
    have held' := HashMap.mem_entries.mp (same.mem_iff.mp member')
    obtain rfl := one k k' profile profile' held held' kept kept'
    obtain rfl := Option.some.inj (held.symm.trans held')
    rfl

/-- Every ceiling is stored under the kind of its own purpose, as `SetChargingProfile` stores it. -/
def CeilingsOwn (s : ProfileStores) : Prop :=
  ∀ kind evseId profile, s.v201StationCeilings.lookup (kind, evseId) = some profile →
    CeilingKind.fromPurpose profile.chargingProfilePurpose = some kind

theorem CeilingsOwn.kind_eq (own : s.CeilingsOwn) {evseId : Int} {kind kind' : CeilingKind}
    {profile profile' : ChargingProfileType} (held : s.v201StationCeilings.lookup (kind, evseId) = some profile)
    (held' : s.v201StationCeilings.lookup (kind', evseId) = some profile')
    (source : v201ChargingLimitSource profile.chargingProfilePurpose =
      v201ChargingLimitSource profile'.chargingProfilePurpose) : kind = kind' := by
  have purpose := own kind evseId profile held
  have purpose' := own kind' evseId profile' held'
  cases named : profile.chargingProfilePurpose <;> cases named' : profile'.chargingProfilePurpose <;>
    simp_all [CeilingKind.fromPurpose, v201ChargingLimitSource]

theorem CeilingsOwn.matches_eq (own : s.CeilingsOwn) (walk : s.Walk) (evseId : Option Int)
    (criterion : ChargingProfileCriterionType) (k : Int × ChargingLimitSourceEnumType) :
    (v201GetChargingProfilesMatches evseId criterion walk.installed).filter (profileKey · = k) =
      (v201GetChargingProfilesMatches evseId criterion s.installed).filter (profileKey · = k) := by
  have keyed : ∀ {matched matched' : Bool} {evse evse' : Int} {profile profile' : ChargingProfileType},
      (decide (profileKey (evse, profile) = k) && matched) = true →
      (decide (profileKey (evse', profile') = k) && matched') = true →
      evse = evse' ∧ v201ChargingLimitSource profile.chargingProfilePurpose =
        v201ChargingLimitSource profile'.chargingProfilePurpose := by
    intro matched matched' evse evse' profile profile' kept kept'
    have here := of_decide_eq_true (Bool.and_eq_true_iff.mp kept).1
    have here' := of_decide_eq_true (Bool.and_eq_true_iff.mp kept').1
    exact Prod.mk.inj (here.trans here'.symm)
  simp only [v201GetChargingProfilesMatches, List.filter_filter]
  rw [Walk.installed, installed, List.filter_append, List.filter_append, List.filter_append, List.filter_append]
  congr 1
  · congr 1
    · exact filter_keyed walk.transactions_perm id _ fun _ _ _ _ _ _ kept kept' => (keyed kept kept').1
    · exact filter_keyed walk.defaults_perm id _ fun _ _ _ _ _ _ kept kept' => (keyed kept kept').1
  · apply filter_keyed walk.ceilings_perm (·.2)
    rintro ⟨kind, evse⟩ ⟨kind', evse'⟩ profile profile' held held' kept kept'
    obtain ⟨rfl, source⟩ := keyed kept kept'
    rw [own.kind_eq held held' source]

variable (config : Config) (rfc : Rfc3339)

/-- The pages of every report are exact, whatever the stores hold: after every run the ceilings are stored under the
kinds of their own purposes, and no more is needed. -/
theorem charging_profile_pages_exact :
    (∀ actions s, run (step config rfc) new actions = some s → s.CeilingsOwn) ∧
      ∀ s : ProfileStores, s.CeilingsOwn → ∀ requestId evseId criterion,
        ∃ pages, PagesExact s requestId evseId criterion pages := by
  refine ⟨fun actions s ran => (profile_stores_agree config rfc ran).1.ceilings, ?_⟩
  intro s own requestId evseId criterion
  refine ⟨v201ReportChargingProfilesPages requestId (v201GetChargingProfilesMatches evseId criterion s.installed),
    ?_, ?_, ?_, pages_perm, ?_, fun i page => tbc_page⟩
  · exact fun walk => pages_eq (own.matches_eq walk evseId criterion)
  · have ascending := profileEntries_ascending
      (v201GetChargingProfilesMatches evseId criterion s.installed)
    rw [← pages_entries requestId, List.pairwise_map] at ascending
    exact ascending
  · intro page member
    obtain ⟨requested, some_, -⟩ := mem_page member
    exact ⟨some_, requested⟩
  · exact fun page member => (mem_page member).2.2

/-- Two profiles with one id on one page, and an external ceiling on a page of its own. -/
def sharedId : List Action :=
  [.setChargingProfile 1 { defaultProfile 7 with chargingProfilePurpose := .chargingStationMaxProfile },
    .setChargingProfile 1 (defaultProfile 7),
    .setChargingProfile 1 { defaultProfile 8 with chargingProfilePurpose := .chargingStationExternalConstraints }]

theorem sharedId_pages : ∃ s pages, run (step (simulator .v201) noDates) new sharedId = some s ∧
    s.installed.length = 3 ∧ PagesExact s 5 (some 1) ⟨none, none, none, none⟩ pages := by
  have ran : run (step (simulator .v201) noDates) new sharedId = some _ := rfl
  obtain ⟨own, exact_⟩ := charging_profile_pages_exact (simulator .v201) noDates
  obtain ⟨pages, paged⟩ := exact_ _ (own sharedId _ ran) 5 (some 1) ⟨none, none, none, none⟩
  exact ⟨_, pages, ran, rfl, paged⟩

end ProfileStores

end Ocpp.ChargePoint
