import Mathlib.Data.List.Perm.Basic
import Ocpp.Library.HashMap
import Ocpp.Library.Iterator
import Ocpp.Library.Transition
import Ocpp.Types.Charging

/-!
# The store of 1.6J charging profiles

`charging_profiles.rs`: the profiles installed on each connector, connector 0 for the charge point as
a whole. The store is read as the list of its profiles, each with its connector (`installed`); `set`
and `clear` are then a replacement and a removal on that list.
-/

namespace Ocpp.ChargingProfiles
open Library V16j

inductive ClearChargingProfileStatus
  | accepted
  | unknown
  deriving DecidableEq, Repr

abbrev ChargingProfileStore := HashMap Int (List ChargingProfile)

def slot (profile : ChargingProfile) : ChargingProfilePurposeType × Int :=
  (profile.chargingProfilePurpose, profile.stackLevel)

namespace ChargingProfileStore

def pruned (store : ChargingProfileStore) : ChargingProfileStore :=
  HashMap.retain (fun _ profiles => !profiles.isEmpty) store

def set (store : ChargingProfileStore) (connectorId : Int) (profile : ChargingProfile) :
    ChargingProfileStore :=
  let evicted := HashMap.mapValues (fun _ profiles =>
    profiles.filter (·.chargingProfileId ≠ profile.chargingProfileId)) store
  let kept := ((evicted.lookup connectorId).getD []).filter fun p => slot p ≠ slot profile
  pruned (evicted.insert connectorId (kept ++ [profile]))

/-- The filters of a `ClearChargingProfile` request; an absent one matches any value. -/
structure ClearFilter where
  id : Option Int
  connectorId : Option Int
  purpose : Option ChargingProfilePurposeType
  stackLevel : Option Int
  deriving DecidableEq, Repr

def admits {α : Type} [DecidableEq α] (wanted : Option α) (value : α) : Bool :=
  match wanted with
  | none => true
  | some v => value = v

def ClearFilter.matchesProfile (filter : ClearFilter) (profile : ChargingProfile) : Bool :=
  admits filter.id profile.chargingProfileId &&
    admits filter.purpose profile.chargingProfilePurpose &&
    admits filter.stackLevel profile.stackLevel

def ClearFilter.matches (filter : ClearFilter) (connectorId : Int) (profile : ChargingProfile) :
    Bool :=
  admits filter.connectorId connectorId && filter.matchesProfile profile

def ClearFilter.remaining (filter : ClearFilter) (connectorId : Int)
    (profiles : List ChargingProfile) : List ChargingProfile :=
  if admits filter.connectorId connectorId then
    profiles.filter fun p => !filter.matchesProfile p
  else profiles

def clear (store : ChargingProfileStore) (filter : ClearFilter) :
    ClearChargingProfileStatus × ChargingProfileStore :=
  let removed := store.entries.foldl
    (fun removed e => removed + (e.2.length - (filter.remaining e.1 e.2).length)) 0
  (if 0 < removed then .accepted else .unknown,
    pruned (HashMap.mapValues filter.remaining store))

def profilesFor (store : ChargingProfileStore) (connectorId : Int) : List ChargingProfile :=
  (store.lookup connectorId).getD []

def installed (store : ChargingProfileStore) : List (Int × ChargingProfile) :=
  HashMap.pairs store

/-! ## One operation -/

theorem installed_pruned (store : ChargingProfileStore) :
    installed (pruned store) = installed store :=
  HashMap.pairs_retain_nonempty store

theorem pruned_nonempty {store : ChargingProfileStore} {e} (member : e ∈ (pruned store).entries) :
    e.2 ≠ [] := by
  simpa using (List.mem_filter.mp member).2

theorem installed_set_perm (store : ChargingProfileStore) (connectorId : Int)
    (profile : ChargingProfile) :
    (installed (set store connectorId profile)).Perm
      ((connectorId, profile) :: (installed store).filter fun e =>
        e.2.chargingProfileId ≠ profile.chargingProfileId ∧
          ¬(e.1 = connectorId ∧ slot e.2 = slot profile)) := by
  let evicted := HashMap.mapValues (fun _ profiles =>
    profiles.filter (·.chargingProfileId ≠ profile.chargingProfileId)) store
  let other := fun e : Int × ChargingProfile => decide ¬(e.1 = connectorId ∧ slot e.2 = slot profile)
  have unslotted : (installed store).filter (fun e =>
        e.2.chargingProfileId ≠ profile.chargingProfileId ∧
          ¬(e.1 = connectorId ∧ slot e.2 = slot profile)) = (installed evicted).filter other := by
    have others : installed evicted = (installed store).filter fun e =>
        e.2.chargingProfileId ≠ profile.chargingProfileId :=
      HashMap.pairs_mapValues_filter
        (fun _ (p : ChargingProfile) => p.chargingProfileId ≠ profile.chargingProfileId) store
    rw [others, List.filter_filter]
    refine List.filter_congr fun e _ => ?_
    simp only [other, Bool.decide_and]
    exact Bool.and_comm _ _
  have here : (((evicted.lookup connectorId).getD []).filter fun p => slot p ≠ slot profile).map
        (connectorId, ·) =
      ((installed evicted).filter other).filter fun e => e.1 = connectorId := by
    have keyed := congrArg (List.filter fun e : Int × ChargingProfile => slot e.2 ≠ slot profile)
      (HashMap.pairs_filter_key evicted connectorId)
    rw [List.filter_filter, List.filter_map] at keyed
    rw [List.filter_filter]
    refine keyed.symm.trans (List.filter_congr fun e _ => ?_)
    by_cases there : e.1 = connectorId <;> simp [other, there]
  have elsewhere : (HashMap.pairs evicted).filter (fun e => e.1 ≠ connectorId) =
      ((installed evicted).filter other).filter fun e => !decide (e.1 = connectorId) := by
    rw [List.filter_filter]
    refine List.filter_congr fun e _ => ?_
    by_cases there : e.1 = connectorId <;> simp [other, there]
  change (installed (pruned (evicted.insert connectorId _))).Perm _
  rw [installed_pruned, installed, HashMap.pairs_insert, List.map_append, here, elsewhere, unslotted,
    List.map_singleton, List.append_assoc, List.singleton_append]
  exact List.perm_middle.trans (List.Perm.cons _ (List.filter_append_perm _ _))

theorem remaining_eq (filter : ClearFilter) (connectorId : Int) (profiles : List ChargingProfile) :
    filter.remaining connectorId profiles =
      profiles.filter fun p => !filter.matches connectorId p := by
  unfold ClearFilter.remaining ClearFilter.matches
  split_ifs with admitted <;> simp [admitted]

theorem installed_clear (store : ChargingProfileStore) (filter : ClearFilter) :
    installed (clear store filter).2 =
      (installed store).filter fun e => !filter.matches e.1 e.2 := by
  have kept : HashMap.mapValues filter.remaining store =
      HashMap.mapValues (fun c ps => ps.filter fun p => !filter.matches c p) store := by
    simp only [HashMap.mapValues, remaining_eq]
  rw [clear, installed_pruned, kept]
  exact HashMap.pairs_mapValues_filter (fun c p => !filter.matches c p) store

theorem mem_installed {store : ChargingProfileStore} {connectorId : Int} {profile : ChargingProfile} :
    (connectorId, profile) ∈ installed store ↔ profile ∈ profilesFor store connectorId := by
  have keyed := HashMap.pairs_filter_key store connectorId
  have same : (connectorId, profile) ∈ installed store ↔
      (connectorId, profile) ∈ (HashMap.pairs store).filter fun e => e.1 = connectorId := by
    simp [installed]
  rw [same, keyed]
  simp [profilesFor]

theorem clear_status (store : ChargingProfileStore) (filter : ClearFilter) :
    (clear store filter).1 = .accepted ↔
      ∃ e ∈ installed store, filter.matches e.1 e.2 := by
  have removed : 0 < store.entries.foldl
        (fun removed e => removed + (e.2.length - (filter.remaining e.1 e.2).length)) 0 ↔
      ∃ e ∈ installed store, filter.matches e.1 e.2 := by
    simp only [foldl_add_pos_iff, lt_irrefl, false_or, remaining_eq, Nat.sub_pos_iff_lt,
      List.length_filter_lt_length_iff_exists, Prod.exists, installed, HashMap.mem_pairs,
      Bool.not_eq_true', Bool.not_eq_false]
    constructor
    · rintro ⟨e, member, p, inside, matched⟩
      exact ⟨e.1, p, ⟨e.2, member, inside⟩, matched⟩
    · rintro ⟨c, p, ⟨ps, member, inside⟩, matched⟩
      exact ⟨⟨c, ps⟩, member, p, inside, matched⟩
  rw [← removed, clear]
  split_ifs with positive <;> simp [positive]

theorem clear_clear (store : ChargingProfileStore) (filter : ClearFilter) :
    clear (clear store filter).2 filter = (.unknown, (clear store filter).2) := by
  have settled : ∀ e ∈ (clear store filter).2.entries, filter.remaining e.1 e.2 = e.2 := by
    intro e member
    rw [remaining_eq, List.filter_eq_self]
    intro p inside
    have left : (e.1, p) ∈ installed (clear store filter).2 :=
      HashMap.mem_pairs.mpr ⟨e.2, member, inside⟩
    rw [installed_clear] at left
    exact (List.mem_filter.mp left).2
  have status : (clear (clear store filter).2 filter).1 = .unknown := by
    have none : ¬(clear (clear store filter).2 filter).1 = .accepted := by
      rw [clear_status, installed_clear]
      rintro ⟨e, member, matched⟩
      simpa [matched] using (List.mem_filter.mp member).2
    cases answer : (clear (clear store filter).2 filter).1 with
    | accepted => exact absurd answer none
    | unknown => rfl
  refine Prod.ext status ?_
  change pruned (HashMap.mapValues filter.remaining (clear store filter).2) = _
  rw [HashMap.mapValues_eq_self settled]
  exact HashMap.retain_eq_self fun e member => by simpa using pruned_nonempty member

/-! ## Runs -/

inductive Operation
  | set (connectorId : Int) (profile : ChargingProfile)
  | clear (filter : ClearFilter)

def operate (store : ChargingProfileStore) : Operation → ChargingProfileStore
  | .set connectorId profile => set store connectorId profile
  | .clear filter => (clear store filter).2

/-- Ids are unique in the store, slots on each connector, and no connector is left without
profiles. -/
structure Inv (store : ChargingProfileStore) : Prop where
  ids : ((installed store).map (·.2.chargingProfileId)).Nodup
  slots : ((installed store).map fun e => (e.1, slot e.2)).Nodup
  nonempty : ∀ e ∈ store.entries, e.2 ≠ []

theorem inv_empty : Inv (∅ : ChargingProfileStore) := by
  refine ⟨?_, ?_, ?_⟩ <;> simp [installed, HashMap.pairs]

theorem Inv.set {store : ChargingProfileStore} (inv : Inv store) (connectorId : Int)
    (profile : ChargingProfile) : Inv (set store connectorId profile) := by
  have perm := installed_set_perm store connectorId profile
  refine ⟨?_, ?_, fun e member => pruned_nonempty member⟩
  · rw [(perm.map _).nodup_iff, List.map_cons, List.nodup_cons]
    refine ⟨?_, inv.ids.sublist (List.filter_sublist.map _)⟩
    simp +contextual
  · rw [(perm.map _).nodup_iff, List.map_cons, List.nodup_cons]
    refine ⟨?_, inv.slots.sublist (List.filter_sublist.map _)⟩
    simp +contextual

theorem Inv.clear {store : ChargingProfileStore} (inv : Inv store) (filter : ClearFilter) :
    Inv (clear store filter).2 := by
  refine ⟨?_, ?_, fun e member => pruned_nonempty member⟩
  · rw [installed_clear]
    exact inv.ids.sublist (List.filter_sublist.map _)
  · rw [installed_clear]
    exact inv.slots.sublist (List.filter_sublist.map _)

theorem inv_run (operations : List Operation) : Inv (operations.foldl operate ∅) := by
  refine List.foldlRecOn operations operate inv_empty fun store inv operation _ => ?_
  cases operation with
  | set connectorId profile => exact inv.set connectorId profile
  | clear filter => exact inv.clear filter

/-- Every run keeps ids unique in the store and slots unique on each connector; in the state it
leaves, `set` installs its profile and evicts only its id and its slot, and `clear` removes exactly
what it matches. -/
theorem chargingProfileStore_run (operations : List Operation) :
    let store := operations.foldl operate ∅
    ((installed store).map (·.2.chargingProfileId)).Nodup ∧
    (∀ c ps, store.lookup c = some ps → (ps.map slot).Nodup ∧ ps ≠ []) ∧
    (∀ c p, p ∈ profilesFor (set store c p) c ∧
      ∀ d q, q ∈ profilesFor (set store c p) d ↔ (d, q) = (c, p) ∨ q ∈ profilesFor store d ∧
        q.chargingProfileId ≠ p.chargingProfileId ∧ ¬(d = c ∧ slot q = slot p)) ∧
    ∀ filter,
      (∀ d q, q ∈ profilesFor (clear store filter).2 d ↔
        q ∈ profilesFor store d ∧ ¬filter.matches d q) ∧
      ((clear store filter).1 = .accepted ↔ ∃ d, ∃ q ∈ profilesFor store d, filter.matches d q) ∧
      clear (clear store filter).2 filter = (.unknown, (clear store filter).2) := by
  intro store
  have inv := inv_run operations
  refine ⟨inv.ids, ?_, ?_, ?_⟩
  · intro c ps found
    have member : ⟨c, ps⟩ ∈ store.entries := AList.mem_lookup_iff.mp found
    refine ⟨?_, inv.nonempty ⟨c, ps⟩ member⟩
    have onConnector := inv.slots.sublist
      ((List.filter_sublist (p := fun e : Int × ChargingProfile => e.1 = c)).map _)
    rw [installed, HashMap.pairs_filter_key, found] at onConnector
    refine List.Nodup.of_map (fun s => (c, s)) ?_
    simpa [Function.comp_def] using onConnector
  · intro c p
    have changed (d : Int) (q : ChargingProfile) : q ∈ profilesFor (set store c p) d ↔
        (d, q) = (c, p) ∨ q ∈ profilesFor store d ∧
          q.chargingProfileId ≠ p.chargingProfileId ∧ ¬(d = c ∧ slot q = slot p) := by
      rw [← mem_installed, ← mem_installed, (installed_set_perm store c p).mem_iff]
      simp only [List.mem_cons, List.mem_filter, decide_eq_true_eq]
    exact ⟨(changed c p).mpr (Or.inl rfl), changed⟩
  · intro filter
    refine ⟨fun d q => ?_, ?_, clear_clear store filter⟩
    · rw [← mem_installed, ← mem_installed, installed_clear]
      simp
    · rw [clear_status]
      simp only [Prod.exists, mem_installed]

end ChargingProfileStore

end Ocpp.ChargingProfiles
