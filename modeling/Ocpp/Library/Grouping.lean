import Mathlib.Data.List.Perm.Basic
import Ocpp.Library.HashMap
import Ocpp.Library.Iterator

/-!
# Grouping

A loop that sends every item to the entry of its key in a map. The first item of a key makes the entry, and every
item is pushed to it. What the rows made of two maps have in common is read off their lookups.
-/

namespace Ocpp.Library

variable {α κ γ : Type*}

theorem filter_eq_of_perm {xs ys : List α} {p : α → Bool} (same : xs.Perm ys) (distinct : xs.Nodup)
    (one : ∀ x ∈ xs, ∀ y ∈ xs, p x → p y → x = y) : xs.filter p = ys.filter p := by
  have kept : (xs.filter p).Perm (ys.filter p) := same.filter p
  cases shown : xs.filter p with
  | nil =>
      rw [shown] at kept
      exact (List.nil_perm.mp kept).symm
  | cons x rest =>
      cases rest with
      | nil =>
          rw [shown] at kept
          exact List.singleton_perm.mp kept
      | cons y rest =>
          obtain ⟨inside, keeps⟩ := List.mem_filter.mp (shown ▸ List.mem_cons_self : x ∈ xs.filter p)
          obtain ⟨inside', keeps'⟩ :=
            List.mem_filter.mp (shown ▸ List.mem_cons_of_mem _ List.mem_cons_self : y ∈ xs.filter p)
          have twice := distinct.filter p
          rw [shown, one x inside y inside' keeps keeps'] at twice
          exact absurd List.mem_cons_self (List.nodup_cons.mp twice).1

section Group

variable [DecidableEq κ] (key : α → κ) (init : α → γ) (push : γ → α → γ)

def group (items : List α) : HashMap κ γ :=
  items.foldl (fun groups x => groups.insert (key x) (push ((groups.lookup (key x)).getD (init x)) x)) ∅

/-- What the items of one key leave in their entry. -/
def gathered : List α → Option γ
  | [] => none
  | x :: rest => some ((x :: rest).foldl push (init x))

theorem gathered_concat (items : List α) (x : α) :
    gathered init push (items ++ [x]) = some (push ((gathered init push items).getD (init x)) x) := by
  cases items with
  | nil => rfl
  | cons y rest => simp [gathered, List.foldl_append]

theorem lookup_group (items : List α) (k : κ) :
    (group key init push items).lookup k = gathered init push (items.filter (key · = k)) := by
  induction items using List.reverseRecOn with
  | nil => rfl
  | append_singleton items x ih =>
      simp only [group, List.foldl_append, List.foldl_cons, List.foldl_nil] at ih ⊢
      rw [HashMap.lookup_insert, List.filter_append]
      split_ifs with same
      · subst same
        rw [ih, List.filter_cons_of_pos (by simp), List.filter_nil, gathered_concat]
      · rw [ih, List.filter_cons_of_neg (by simpa using Ne.symm same), List.filter_nil, List.append_nil]

theorem gathered_isSome {items : List α} : (gathered init push items).isSome ↔ items ≠ [] := by
  cases items <;> simp [gathered]

theorem lookup_group_isSome {items : List α} {k : κ} :
    ((group key init push items).lookup k).isSome ↔ ∃ x ∈ items, key x = k := by
  rw [lookup_group, gathered_isSome, Ne, List.filter_eq_nil_iff]
  simp

theorem gathered_vector {ν : Type*} (value : α → ν) (items : List α) :
    (gathered (fun _ => []) (fun vs x => vs ++ [value x]) items).getD [] = items.map value := by
  have pushed : ∀ (items : List α) (vs : List ν),
      items.foldl (fun vs x => vs ++ [value x]) vs = vs ++ items.map value := by
    intro items
    induction items with
    | nil => simp
    | cons x rest ih => simp [ih]
  cases items with
  | nil => rfl
  | cons x rest => exact pushed (x :: rest) []

theorem perm_of_filter_key {ν : Type*} {xs ys : List (κ × ν)}
    (same : ∀ k, (xs.filter (·.1 = k)).Perm (ys.filter (·.1 = k))) : xs.Perm ys := by
  classical
  rw [List.perm_iff_count]
  rintro ⟨k, v⟩
  have counts := (same k).count_eq (k, v)
  rwa [List.count_filter (by simp), List.count_filter (by simp)] at counts

theorem pairs_group {ν : Type*} (value : α → ν) (items : List α) :
    (HashMap.pairs (group key (fun _ => []) (fun vs x => vs ++ [value x]) items)).Perm
      (items.map fun x => (key x, value x)) := by
  apply perm_of_filter_key
  intro k
  rw [HashMap.pairs_filter_key, lookup_group, gathered_vector, List.filter_map, List.map_map]
  apply List.Perm.of_eq
  apply List.map_congr_left
  intro x member
  have here : key x = k := by simpa using (List.mem_filter.mp member).2
  rw [Function.comp_apply, here]

end Group

/-! ## Rows -/

section Rows

variable [DecidableEq κ] {γ' ρ : Type*}

theorem map_entries_eq (map : HashMap κ γ) (row : (Σ _ : κ, γ) → ρ) :
    map.entries.map row = map.keys.filterMap fun k => (map.lookup k).map fun g => row ⟨k, g⟩ := by
  have found : ∀ e ∈ map.entries, ((map.lookup e.1).map fun g => row ⟨e.1, g⟩) = some (row e) := by
    rintro ⟨k, g⟩ member
    rw [HashMap.mem_entries.mp member]
    rfl
  rw [AList.keys, List.keys, List.filterMap_map]
  generalize map.entries = entries at found ⊢
  induction entries with
  | nil => rfl
  | cons e rest ih =>
      have first := found e List.mem_cons_self
      rw [List.map_cons, ih fun e' member => found e' (List.mem_cons_of_mem e member), List.filterMap_cons]
      simp only [Function.comp_apply, first]

theorem map_entries_perm {map : HashMap κ γ} {map' : HashMap κ γ'} {row : (Σ _ : κ, γ) → ρ}
    {row' : (Σ _ : κ, γ') → ρ}
    (same : ∀ k, ((map.lookup k).map fun g => row ⟨k, g⟩) = (map'.lookup k).map fun g => row' ⟨k, g⟩) :
    (map.entries.map row).Perm (map'.entries.map row') := by
  have keys : map.keys.Perm map'.keys := by
    rw [List.perm_ext_iff_of_nodup map.keys_nodup map'.keys_nodup]
    intro k
    rw [← AList.mem_keys, ← AList.mem_keys, ← AList.lookup_isSome, ← AList.lookup_isSome]
    have rows := congrArg Option.isSome (same k)
    rw [Option.isSome_map, Option.isSome_map] at rows
    rw [rows]
  rw [map_entries_eq, map_entries_eq]
  have functions : (fun k => (map'.lookup k).map fun g => row' ⟨k, g⟩) =
      fun k => (map.lookup k).map fun g => row ⟨k, g⟩ := by
    funext k
    rw [same]
  rw [functions]
  exact keys.filterMap _

end Rows

end Ocpp.Library
