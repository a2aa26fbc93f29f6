import Mathlib.Data.List.AList

/-!
# Hash maps

The `HashMap` of the Rust standard library as an association list without duplicate keys, with the
operations `AList` does not have: the number of entries, `values_mut`, `retain`, and the view of a map
of vectors as one list of keyed values. The order of the entries stands for the iteration order.
-/

namespace Ocpp.Library

abbrev HashMap (κ ν : Type*) := AList fun _ : κ => ν

namespace HashMap

variable {κ ν : Type*}

def size (map : HashMap κ ν) : Nat :=
  map.entries.length

@[simp] theorem size_empty : size (∅ : HashMap κ ν) = 0 := rfl

theorem size_eq_keys (map : HashMap κ ν) : size map = map.keys.length := by
  simp [size, AList.keys, List.keys]

section Update

variable [DecidableEq κ]

theorem size_insert (map : HashMap κ ν) (k : κ) (v : ν) :
    size (map.insert k v) = if k ∈ map then size map else size map + 1 := by
  rw [size_eq_keys, AList.keys_insert, List.length_cons, size_eq_keys]
  split_ifs with member
  · have found := AList.mem_keys.mp member
    rw [List.length_erase_of_mem found]
    have := List.length_pos_of_mem found
    omega
  · rw [List.erase_of_not_mem fun found => member (AList.mem_keys.mpr found)]

theorem size_erase (map : HashMap κ ν) (k : κ) :
    size (map.erase k) = if k ∈ map then size map - 1 else size map := by
  rw [size_eq_keys, AList.keys_erase, size_eq_keys]
  split_ifs with member
  · rw [List.length_erase_of_mem (AList.mem_keys.mp member)]
  · rw [List.erase_of_not_mem fun found => member (AList.mem_keys.mpr found)]

theorem mem_entries {map : HashMap κ ν} {k : κ} {v : ν} :
    (⟨k, v⟩ : Sigma fun _ : κ => ν) ∈ map.entries ↔ map.lookup k = some v :=
  AList.mem_lookup_iff.symm

theorem lookup_insert (map : HashMap κ ν) (k k' : κ) (v : ν) :
    (map.insert k v).lookup k' = if k' = k then some v else map.lookup k' := by
  split_ifs with same
  · subst same
    exact AList.lookup_insert map
  · exact AList.lookup_insert_ne same

theorem lookup_erase (map : HashMap κ ν) (k k' : κ) :
    (map.erase k).lookup k' = if k' = k then none else map.lookup k' := by
  split_ifs with same
  · subst same
    exact AList.lookup_erase k' map
  · exact AList.lookup_erase_ne same

theorem lookup_insert_eq_some {map : HashMap κ ν} {k k' : κ} {v w : ν} :
    (map.insert k v).lookup k' = some w ↔ k' = k ∧ v = w ∨ k' ≠ k ∧ map.lookup k' = some w := by
  rw [lookup_insert]
  split_ifs with same <;> simp [same]

theorem lookup_erase_eq_some {map : HashMap κ ν} {k k' : κ} {w : ν} :
    (map.erase k).lookup k' = some w ↔ k' ≠ k ∧ map.lookup k' = some w := by
  rw [lookup_erase]
  split_ifs with same <;> simp [same]

theorem lookup_insert_isSome {map : HashMap κ ν} {k k' : κ} {v : ν} (held : (map.lookup k').isSome) :
    ((map.insert k v).lookup k').isSome := by
  rw [lookup_insert]
  split_ifs
  · rfl
  · exact held

theorem lookup_removeIf [DecidableEq ν] (map : HashMap κ ν) (k k' : κ) (v : ν) :
    (if map.lookup k = some v then map.erase k else map).lookup k' =
      if k' = k ∧ map.lookup k = some v then none else map.lookup k' := by
  by_cases same : k' = k
  · subst same
    split_ifs with held <;> simp_all
  · split_ifs with held
    · simp_all
    · exact AList.lookup_erase_ne same
    · simp_all
    · rfl

theorem lookup_of_erase {map : HashMap κ ν} {k k' : κ} {v : ν}
    (found : (map.erase k).lookup k' = some v) : map.lookup k' = some v :=
  (lookup_erase_eq_some.mp found).2

omit [DecidableEq κ] in
theorem size_pos_of_mem {map : HashMap κ ν} {k : κ} (member : k ∈ map) : 0 < size map := by
  rw [size_eq_keys]
  exact List.length_pos_of_mem (AList.mem_keys.mp member)

end Update

def mapValues (f : κ → ν → ν) (map : HashMap κ ν) : HashMap κ ν where
  entries := map.entries.map fun e => ⟨e.1, f e.1 e.2⟩
  nodupKeys := by
    have keys : (map.entries.map fun e => (⟨e.1, f e.1 e.2⟩ : Sigma fun _ : κ => ν)).keys =
        map.entries.keys := by
      simp [List.keys, Function.comp_def]
    rw [List.NodupKeys, keys]
    exact map.nodupKeys

def mapTo {ν' : Type*} (f : κ → ν → ν') (map : HashMap κ ν) : HashMap κ ν' where
  entries := map.entries.map fun e => ⟨e.1, f e.1 e.2⟩
  nodupKeys := by
    have keys : (map.entries.map fun e => (⟨e.1, f e.1 e.2⟩ : Sigma fun _ : κ => ν')).keys = map.entries.keys := by
      simp [List.keys, Function.comp_def]
    rw [List.NodupKeys, keys]
    exact map.nodupKeys

theorem lookup_mapTo [DecidableEq κ] {ν' : Type*} (f : κ → ν → ν') (map : HashMap κ ν) (k : κ) :
    (mapTo f map).lookup k = (map.lookup k).map (f k) := by
  ext w
  rw [← Option.mem_def, AList.mem_lookup_iff, Option.map_eq_some_iff]
  constructor
  · intro member
    obtain ⟨⟨k', v⟩, held, same⟩ := List.mem_map.mp member
    cases same
    exact ⟨v, mem_entries.mp held, rfl⟩
  · rintro ⟨v, held, rfl⟩
    exact List.mem_map.mpr ⟨⟨k, v⟩, mem_entries.mpr held, rfl⟩

def retain (keep : κ → ν → Bool) (map : HashMap κ ν) : HashMap κ ν where
  entries := map.entries.filter fun e => keep e.1 e.2
  nodupKeys := map.nodupKeys.sublist List.filter_sublist

theorem mapValues_eq_self {f : κ → ν → ν} {map : HashMap κ ν}
    (fixed : ∀ e ∈ map.entries, f e.1 e.2 = e.2) : mapValues f map = map := by
  apply AList.ext
  calc map.entries.map (fun e => (⟨e.1, f e.1 e.2⟩ : Sigma fun _ : κ => ν))
      = map.entries.map id := List.map_congr_left fun e member => by rw [fixed e member]; rfl
    _ = map.entries := List.map_id _

theorem retain_eq_self {keep : κ → ν → Bool} {map : HashMap κ ν}
    (kept : ∀ e ∈ map.entries, keep e.1 e.2) : retain keep map = map :=
  AList.ext (List.filter_eq_self.mpr kept)

theorem lookup_retain [DecidableEq κ] (keep : κ → ν → Bool) (map : HashMap κ ν) (k : κ) :
    (retain keep map).lookup k = (map.lookup k).filter (keep k) := by
  ext v
  rw [← Option.mem_def, ← Option.mem_def, Option.mem_filter_iff, AList.mem_lookup_iff,
    AList.mem_lookup_iff]
  exact List.mem_filter

section Same

variable [DecidableEq κ] (map : HashMap κ ν)

theorem lookup_insert_same_iff (k : κ) (v : ν) :
    (∀ k', (map.insert k v).lookup k' = map.lookup k') ↔ map.lookup k = some v := by
  constructor
  · intro same
    rw [← same k, AList.lookup_insert]
  · intro held k'
    by_cases here : k' = k
    · rw [here, AList.lookup_insert, held]
    · exact AList.lookup_insert_ne here

theorem lookup_retain_same_iff (keep : κ → ν → Bool) :
    (∀ k, (retain keep map).lookup k = map.lookup k) ↔ ∀ k v, map.lookup k = some v → keep k v := by
  constructor
  · intro same k v held
    have kept := (lookup_retain keep map k).symm.trans (same k)
    rw [held, Option.filter_eq_some_iff] at kept
    exact kept.2
  · intro kept k
    rw [lookup_retain]
    cases held : map.lookup k with
    | none => rfl
    | some v => exact Option.filter_eq_some_iff.mpr ⟨rfl, kept k v held⟩

end Same

/-! ## Maps of vectors -/

/-- The values of a map of vectors, each with its key. -/
def pairs (map : HashMap κ (List ν)) : List (κ × ν) :=
  map.entries.flatMap fun e => e.2.map (e.1, ·)

theorem mem_pairs {map : HashMap κ (List ν)} {k : κ} {v : ν} :
    (k, v) ∈ pairs map ↔ ∃ vs, ⟨k, vs⟩ ∈ map.entries ∧ v ∈ vs := by
  simp only [pairs, List.mem_flatMap, List.mem_map, Prod.mk.injEq]
  constructor
  · rintro ⟨⟨k, vs⟩, member, v, inside, rfl, rfl⟩
    exact ⟨vs, member, inside⟩
  · rintro ⟨vs, member, inside⟩
    exact ⟨⟨k, vs⟩, member, v, inside, rfl, rfl⟩

theorem pairs_mapValues_filter (keep : κ → ν → Bool) (map : HashMap κ (List ν)) :
    pairs (mapValues (fun k vs => vs.filter (keep k)) map) =
      (pairs map).filter fun e => keep e.1 e.2 := by
  simp [pairs, mapValues, List.flatMap_map, List.filter_flatMap, List.filter_map, Function.comp_def]

theorem pairs_retain_nonempty (map : HashMap κ (List ν)) :
    pairs (retain (fun _ vs => !vs.isEmpty) map) = pairs map := by
  simp only [pairs, retain]
  induction map.entries with
  | nil => rfl
  | cons e es ih =>
      cases empty : e.2 with
      | nil => simp [empty, ih]
      | cons v vs => simp [empty, ih]

section Keyed

variable [DecidableEq κ]

theorem filter_key_eq_nil {es : List (Sigma fun _ : κ => List ν)} {k : κ} (absent : k ∉ es.keys) :
    (es.flatMap fun e => e.2.map (e.1, ·)).filter (fun e => e.1 = k) = [] := by
  apply List.filter_eq_nil_iff.mpr
  intro pair member
  obtain ⟨e, inside, keyed⟩ := List.mem_flatMap.mp member
  obtain ⟨v, -, rfl⟩ := List.mem_map.mp keyed
  have ne : e.1 ≠ k := fun same => absent (same ▸ List.mem_keys_of_mem inside)
  simpa using ne

theorem pairs_filter_key (map : HashMap κ (List ν)) (k : κ) :
    (pairs map).filter (fun e => e.1 = k) = ((map.lookup k).getD []).map (k, ·) := by
  obtain ⟨es, nodup⟩ := map
  simp only [pairs, AList.lookup]
  induction es with
  | nil => rfl
  | cons e es ih =>
      obtain ⟨fresh, nodup'⟩ := List.nodupKeys_cons.mp nodup
      rw [List.flatMap_cons, List.filter_append]
      by_cases here : e.1 = k
      · obtain ⟨k, vs⟩ := e
        obtain rfl := here
        simp only [List.dlookup_cons_eq, Option.getD_some, filter_key_eq_nil fresh, List.append_nil]
        exact List.filter_eq_self.mpr (by simp)
      · have missed : (e.2.map (e.1, ·)).filter (fun pair : κ × ν => pair.1 = k) = [] := by
          simp [List.filter_map, Function.comp_def, here]
        rw [missed, List.nil_append, ih nodup', List.dlookup_cons_ne _ _ (Ne.symm here)]

theorem pairs_erase (map : HashMap κ (List ν)) (k : κ) :
    pairs (map.erase k) = (pairs map).filter fun e => e.1 ≠ k := by
  obtain ⟨es, nodup⟩ := map
  change ((es.kerase k).flatMap fun e => e.2.map (e.1, ·)) =
    (es.flatMap fun e => e.2.map (e.1, ·)).filter fun e => e.1 ≠ k
  induction es with
  | nil => rfl
  | cons e es ih =>
      obtain ⟨fresh, nodup'⟩ := List.nodupKeys_cons.mp nodup
      by_cases here : k = e.1
      · have others : (es.flatMap fun e => e.2.map (e.1, ·)).filter (fun pair => pair.1 ≠ k) =
            es.flatMap fun e => e.2.map (e.1, ·) := by
          rw [List.filter_eq_self]
          intro pair member
          have absent := List.filter_eq_nil_iff.mp (filter_key_eq_nil (here ▸ fresh)) pair member
          simpa using absent
        rw [List.kerase_cons_eq here, List.flatMap_cons, List.filter_append, others]
        simp [List.filter_map, Function.comp_def, here]
      · rw [List.kerase_cons_ne here, List.flatMap_cons, List.flatMap_cons, List.filter_append,
          ih nodup']
        congr 1
        exact (List.filter_eq_self.mpr (by simp [Ne.symm here])).symm

theorem pairs_insert (map : HashMap κ (List ν)) (k : κ) (vs : List ν) :
    pairs (map.insert k vs) = vs.map (k, ·) ++ (pairs map).filter fun e => e.1 ≠ k := by
  rw [← pairs_erase]
  rfl

end Keyed

end HashMap

end Ocpp.Library
