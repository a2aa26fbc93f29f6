import Mathlib.Data.Finset.Card
import Ocpp.ChargePoint.LocalList

/-!
# What a local list update means

A request as a set of added and a set of deleted tags, and `LocalAuthList::apply` against it. The entries of a
request that is not refused for duplicates name distinct tags, so their order does not matter.
-/

namespace Ocpp.LocalList
open Library V16j

/-! ## Requests as sets of tags -/

def tags (updates : List AuthorizationData) : Finset String :=
  (updates.map (·.idTag)).toFinset

def added (updates : List AuthorizationData) : Finset String :=
  tags (updates.filter (·.idTagInfo.isSome))

def deleted (updates : List AuthorizationData) : Finset String :=
  tags (updates.filter (·.idTagInfo.isNone))

def LocalAuthList.get (list : LocalAuthList) (idTag : String) : Option IdTagInfo :=
  list.entries.lookup idTag

def LocalAuthList.tags (list : LocalAuthList) : Finset String :=
  list.entries.keys.toFinset

def LocalAuthList.Fits (list : LocalAuthList) (len : Nat) : Prop :=
  ∀ max ∈ list.maxLength, len ≤ max

instance (list : LocalAuthList) (len : Nat) : Decidable (list.Fits len) :=
  inferInstanceAs (Decidable (∀ max ∈ list.maxLength, len ≤ max))

/-- The old tags with the added ones and without the deleted ones. -/
def LocalAuthList.resulting (list : LocalAuthList) (updates : List AuthorizationData) : Finset String :=
  (list.tags ∪ added updates) \ deleted updates

/-- When a request is to be accepted. -/
def LocalAuthList.Admits (list : LocalAuthList) (request : SendLocalListRequest) : Prop :=
  (request.localAuthorizationList.map (·.idTag)).Nodup ∧
    match request.updateType with
    | .full => (∀ entry ∈ request.localAuthorizationList, entry.idTagInfo.isSome) ∧
        list.Fits request.localAuthorizationList.length
    | .differential => list.version < request.listVersion ∧
        list.Fits (list.resulting request.localAuthorizationList).card

/-- What the list is to hold after a request that is accepted. -/
structure LocalAuthList.Holds (list : LocalAuthList) (request : SendLocalListRequest) (after : LocalAuthList) :
    Prop where
  adds : ∀ idTag info, ⟨idTag, some info⟩ ∈ request.localAuthorizationList → after.get idTag = some info
  deletes : ∀ idTag, ⟨idTag, none⟩ ∈ request.localAuthorizationList → after.get idTag = none
  keeps : ∀ idTag, (∀ entry ∈ request.localAuthorizationList, entry.idTag ≠ idTag) →
    after.get idTag = match request.updateType with
      | .full => none
      | .differential => list.get idTag

/-- What the list is to answer. -/
def LocalAuthList.answer (list : LocalAuthList) (request : SendLocalListRequest) : UpdateStatus :=
  if (request.localAuthorizationList.map (·.idTag)).Nodup then
    match request.updateType with
    | .full =>
        if (∀ entry ∈ request.localAuthorizationList, entry.idTagInfo.isSome) ∧
            list.Fits request.localAuthorizationList.length then .accepted
        else .failed
    | .differential =>
        if request.listVersion ≤ list.version then .versionMismatch
        else if list.Fits (list.resulting request.localAuthorizationList).card then .accepted
        else .failed
  else .failed

theorem LocalAuthList.answer_eq_accepted (list : LocalAuthList) (request : SendLocalListRequest) :
    list.answer request = .accepted ↔ list.Admits request := by
  unfold answer Admits
  by_cases distinct : (request.localAuthorizationList.map (·.idTag)).Nodup
  · rw [if_pos distinct]
    cases request.updateType with
    | full => simp [distinct]
    | differential =>
        simp only [distinct, true_and]
        split_ifs with stale fits
        · simp [not_lt.mpr stale]
        · simp [not_le.mp stale, fits]
        · simp [fits]
  · simp [distinct]

/-! ## The loops -/

theorem lookup_applyEntry (entries : HashMap String IdTagInfo) (entry : AuthorizationData) (idTag : String) :
    (applyEntry entries entry).lookup idTag =
      if idTag = entry.idTag then entry.idTagInfo else entries.lookup idTag := by
  unfold applyEntry
  cases entry.idTagInfo with
  | some info => exact HashMap.lookup_insert entries entry.idTag idTag info
  | none => exact HashMap.lookup_erase entries entry.idTag idTag

theorem lookup_foldl_of_not_mem {updates : List AuthorizationData} {idTag : String}
    (unnamed : ∀ entry ∈ updates, entry.idTag ≠ idTag) (entries : HashMap String IdTagInfo) :
    (updates.foldl applyEntry entries).lookup idTag = entries.lookup idTag := by
  induction updates generalizing entries with
  | nil => rfl
  | cons entry updates ih =>
      rw [List.foldl_cons, ih fun later member => unnamed later (List.mem_cons_of_mem entry member),
        lookup_applyEntry, if_neg fun same => unnamed entry List.mem_cons_self same.symm]

theorem lookup_foldl_of_mem {updates : List AuthorizationData} (distinct : (updates.map (·.idTag)).Nodup)
    {entry : AuthorizationData} (member : entry ∈ updates) (entries : HashMap String IdTagInfo) :
    (updates.foldl applyEntry entries).lookup entry.idTag = entry.idTagInfo := by
  induction updates generalizing entries with
  | nil => cases member
  | cons first updates ih =>
      rw [List.map_cons, List.nodup_cons] at distinct
      rw [List.foldl_cons]
      rcases List.mem_cons.mp member with rfl | later
      · rw [lookup_foldl_of_not_mem, lookup_applyEntry, if_pos rfl]
        exact fun other later same => distinct.1 (same ▸ List.mem_map_of_mem later)
      · exact ih distinct.2 later (applyEntry entries first)

/-- A full replacement exists when every entry carries its info, and is then the loop from an empty map. -/
theorem fullReplacement_eq (updates : List AuthorizationData) :
    fullReplacement updates =
      if ∀ entry ∈ updates, entry.idTagInfo.isSome then some (updates.foldl applyEntry ∅) else none := by
  have general : ∀ replacement : HashMap String IdTagInfo,
      updates.foldlM (fun replacement entry =>
        entry.idTagInfo.map fun info => replacement.insert entry.idTag info) replacement =
      if ∀ entry ∈ updates, entry.idTagInfo.isSome then some (updates.foldl applyEntry replacement) else none := by
    induction updates with
    | nil => simp
    | cons entry updates ih =>
        intro replacement
        cases carried : entry.idTagInfo with
        | none => simp [carried]
        | some info => simp [carried, ih, applyEntry]
  exact general ∅

theorem mem_tags {updates : List AuthorizationData} {idTag : String} :
    idTag ∈ tags updates ↔ ∃ entry ∈ updates, entry.idTag = idTag := by
  simp [tags]

theorem size_eq_card (entries : HashMap String IdTagInfo) :
    HashMap.size entries = entries.keys.toFinset.card := by
  rw [HashMap.size_eq_keys, List.toFinset_card_of_nodup entries.keys_nodup]

/-- Among distinct tags the tag of an entry is in the tags of a kind of entries when the entry is of the kind. -/
theorem mem_tags_filter {updates : List AuthorizationData} (distinct : (updates.map (·.idTag)).Nodup)
    {entry : AuthorizationData} (member : entry ∈ updates) (kind : AuthorizationData → Bool) :
    entry.idTag ∈ tags (updates.filter kind) ↔ kind entry := by
  rw [mem_tags]
  constructor
  · rintro ⟨other, found, same⟩
    obtain ⟨listed, here⟩ := List.mem_filter.mp found
    rwa [← List.inj_on_of_nodup_map distinct listed member same]
  · intro here
    exact ⟨entry, List.mem_filter.mpr ⟨member, here⟩, rfl⟩

theorem not_mem_tags_filter {updates : List AuthorizationData} {idTag : String}
    (unnamed : ∀ entry ∈ updates, entry.idTag ≠ idTag) (kind : AuthorizationData → Bool) :
    idTag ∉ tags (updates.filter kind) := by
  rw [mem_tags]
  rintro ⟨entry, found, same⟩
  exact unnamed entry (List.mem_of_mem_filter found) same

theorem keys_foldl {updates : List AuthorizationData} (distinct : (updates.map (·.idTag)).Nodup)
    (entries : HashMap String IdTagInfo) :
    (updates.foldl applyEntry entries).keys.toFinset =
      (entries.keys.toFinset ∪ added updates) \ deleted updates := by
  ext idTag
  have listed : ∀ map : HashMap String IdTagInfo, idTag ∈ map.keys.toFinset ↔ (map.lookup idTag).isSome := by
    intro map
    rw [List.mem_toFinset, ← AList.mem_keys, AList.lookup_isSome]
  rw [Finset.mem_sdiff, Finset.mem_union, listed, listed]
  by_cases named : ∃ entry ∈ updates, entry.idTag = idTag
  · obtain ⟨entry, member, rfl⟩ := named
    rw [lookup_foldl_of_mem distinct member, added, deleted, mem_tags_filter distinct member,
      mem_tags_filter distinct member]
    cases entry.idTagInfo <;> simp
  · have unnamed : ∀ entry ∈ updates, entry.idTag ≠ idTag := fun entry member same => named ⟨entry, member, same⟩
    rw [lookup_foldl_of_not_mem unnamed]
    simp [added, deleted, not_mem_tags_filter unnamed]

theorem size_replacement {updates : List AuthorizationData} (distinct : (updates.map (·.idTag)).Nodup)
    (carried : ∀ entry ∈ updates, entry.idTagInfo.isSome) :
    HashMap.size (updates.foldl applyEntry ∅) = updates.length := by
  have everything : updates.filter (·.idTagInfo.isSome) = updates := List.filter_eq_self.mpr carried
  have nothing : updates.filter (·.idTagInfo.isNone) = [] := by
    rw [List.filter_eq_nil_iff]
    intro entry member
    have info := carried entry member
    cases found : entry.idTagInfo <;> simp [found] at info ⊢
  rw [size_eq_card, keys_foldl distinct, added, deleted, everything, nothing]
  simp [tags, List.toFinset_card_of_nodup distinct]

/-! ## The specification -/

theorem LocalAuthList.fits_iff (list : LocalAuthList) (len : Nat) :
    list.exceedsCapacity len = false ↔ list.Fits len := by
  unfold exceedsCapacity Fits
  cases list.maxLength with
  | none => simp
  | some max => simp

theorem LocalAuthList.holds_foldl {list : LocalAuthList} {request : SendLocalListRequest}
    (distinct : (request.localAuthorizationList.map (·.idTag)).Nodup) (start : HashMap String IdTagInfo)
    (kept : ∀ idTag, start.lookup idTag = match request.updateType with
      | .full => none
      | .differential => list.get idTag) :
    list.Holds request
      (list.commit (request.localAuthorizationList.foldl applyEntry start) request.listVersion) where
  adds _ _ member := lookup_foldl_of_mem distinct member start
  deletes _ member := lookup_foldl_of_mem distinct member start
  keeps idTag unnamed := (lookup_foldl_of_not_mem unnamed start).trans (kept idTag)

/-- A request is refused and changes nothing, or the list holds what the request says. -/
structure LocalAuthList.Meets (list : LocalAuthList) (request : SendLocalListRequest) (after : LocalAuthList) :
    Prop where
  accepted : list.answer request = .accepted → after.version = request.listVersion ∧
    after.maxLength = list.maxLength ∧ list.Holds request after
  refused : list.answer request ≠ .accepted → after = list

section Answer

variable {list : LocalAuthList} {request : SendLocalListRequest}

theorem LocalAuthList.meets_refused {status : UpdateStatus} (answer : list.answer request = status)
    (refusal : status ≠ .accepted) : list.Meets request list where
  accepted here := absurd (answer.symm.trans here) refusal
  refused _ := rfl

theorem LocalAuthList.meets_accepted {start : HashMap String IdTagInfo}
    (answer : list.answer request = .accepted)
    (distinct : (request.localAuthorizationList.map (·.idTag)).Nodup)
    (kept : ∀ idTag, start.lookup idTag = match request.updateType with
      | .full => none
      | .differential => list.get idTag) :
    list.Meets request
      (list.commit (request.localAuthorizationList.foldl applyEntry start) request.listVersion) where
  accepted _ := ⟨rfl, rfl, holds_foldl distinct start kept⟩
  refused refusal := absurd answer refusal

theorem LocalAuthList.apply_full (distinct : (request.localAuthorizationList.map (·.idTag)).Nodup)
    (full : request.updateType = .full) :
    ∃ after, list.apply request = some (list.answer request, after) ∧ list.Meets request after := by
  have unique := (hasDuplicateIdTags_eq_false request).mpr distinct
  have run : list.apply request = some (list.applyFull request) := by
    simp [apply, unique, full]
  rw [run, applyFull, fullReplacement_eq]
  by_cases carried : ∀ entry ∈ request.localAuthorizationList, entry.idTagInfo.isSome
  · rw [if_pos carried]
    dsimp only
    rw [size_replacement distinct carried]
    by_cases fits : list.Fits request.localAuthorizationList.length
    · have answer : list.answer request = .accepted := by
        rw [list.answer_eq_accepted, Admits, full]
        exact ⟨distinct, carried, fits⟩
      rw [(list.fits_iff _).mpr fits, answer]
      exact ⟨_, rfl, meets_accepted answer distinct (by simp [full])⟩
    · have answer : list.answer request = .failed := by simp [LocalAuthList.answer, distinct, full, fits]
      have exceeds : list.exceedsCapacity request.localAuthorizationList.length = true := by
        rw [← Bool.not_eq_false, list.fits_iff]
        exact fits
      rw [exceeds, answer]
      exact ⟨_, rfl, meets_refused answer (by decide)⟩
  · rw [if_neg carried]
    have answer : list.answer request = .failed := by
      simp only [LocalAuthList.answer, distinct, full, carried, false_and, if_true, if_false]
    exact ⟨_, by rw [answer], meets_refused answer (by decide)⟩

theorem LocalAuthList.apply_differential (distinct : (request.localAuthorizationList.map (·.idTag)).Nodup)
    (differential : request.updateType = .differential) :
    ∃ after, list.apply request = some (list.answer request, after) ∧ list.Meets request after := by
  have unique := (hasDuplicateIdTags_eq_false request).mpr distinct
  have run : list.apply request = list.applyDifferential request := by
    simp [apply, unique, differential]
  rw [run, applyDifferential]
  by_cases stale : request.listVersion ≤ list.version
  · have answer : list.answer request = .versionMismatch := by
      simp [LocalAuthList.answer, distinct, differential, stale]
    rw [if_pos stale, answer]
    exact ⟨_, rfl, meets_refused answer (by decide)⟩
  rw [if_neg stale]
  have size : HashMap.size (request.localAuthorizationList.foldl applyEntry list.entries) =
      (list.resulting request.localAuthorizationList).card := by
    rw [size_eq_card, keys_foldl distinct]
    rfl
  by_cases fits : list.Fits (list.resulting request.localAuthorizationList).card
  · have answer : list.answer request = .accepted := by
      simp [LocalAuthList.answer, distinct, differential, stale, fits]
    have meets : list.Meets request (list.commit
        (request.localAuthorizationList.foldl applyEntry list.entries) request.listVersion) :=
      meets_accepted answer distinct (by simp [differential, get])
    rw [answer]
    cases bound : list.maxLength with
    | none => exact ⟨_, rfl, meets⟩
    | some max =>
        have within : ¬max < (list.resulting request.localAuthorizationList).card := not_lt.mpr (fits max bound)
        refine ⟨_, ?_, meets⟩
        simp only [projectedLen_eq list.entries _ distinct, size, Option.map_some, if_neg within]
  · have answer : list.answer request = .failed := by
      simp [LocalAuthList.answer, distinct, differential, stale, fits]
    refine ⟨list, ?_, meets_refused answer (by decide)⟩
    rw [answer]
    cases bound : list.maxLength with
    | none => exact absurd (fun max here => by simp [bound] at here) fits
    | some max =>
        have exceeds : max < (list.resulting request.localAuthorizationList).card := by
          by_contra within
          refine fits fun m here => ?_
          rw [bound] at here
          cases here
          exact not_lt.mp within
        simp only [projectedLen_eq list.entries _ distinct, size, Option.map_some, if_pos exceeds]

theorem LocalAuthList.apply_answer (list : LocalAuthList) (request : SendLocalListRequest) :
    ∃ after, list.apply request = some (list.answer request, after) ∧ list.Meets request after := by
  by_cases distinct : (request.localAuthorizationList.map (·.idTag)).Nodup
  · cases kind : request.updateType with
    | full => exact apply_full distinct kind
    | differential => exact apply_differential distinct kind
  · have duplicate : hasDuplicateIdTags request = true := by
      rw [← Bool.not_eq_false, hasDuplicateIdTags_eq_false]
      exact distinct
    have answer : list.answer request = .failed := by simp [LocalAuthList.answer, distinct]
    refine ⟨list, ?_, meets_refused answer (by decide)⟩
    simp [apply, duplicate, answer]

theorem LocalAuthList.answer_perm {permuted : List AuthorizationData}
    (same : permuted.Perm request.localAuthorizationList) :
    list.answer { request with localAuthorizationList := permuted } = list.answer request := by
  have kind : ∀ kind : AuthorizationData → Bool, LocalList.tags (permuted.filter kind) =
      LocalList.tags (request.localAuthorizationList.filter kind) := fun kind =>
    List.toFinset_eq_of_perm _ _ ((same.filter kind).map _)
  have resulting : list.resulting permuted = list.resulting request.localAuthorizationList := by
    simp only [LocalAuthList.resulting, added, deleted, kind]
  simp only [LocalAuthList.answer, (same.map (·.idTag)).nodup_iff, same.mem_iff, same.length_eq, resulting]

theorem LocalAuthList.Holds.unique {permuted : List AuthorizationData} {after after' : LocalAuthList}
    (same : permuted.Perm request.localAuthorizationList) (holds : list.Holds request after)
    (holds' : list.Holds { request with localAuthorizationList := permuted } after') (idTag : String) :
    after'.get idTag = after.get idTag := by
  by_cases named : ∃ entry ∈ request.localAuthorizationList, entry.idTag = idTag
  · obtain ⟨⟨_, info⟩, member, rfl⟩ := named
    cases info with
    | none => rw [holds.deletes _ member, holds'.deletes _ (same.mem_iff.mpr member)]
    | some info => rw [holds.adds _ info member, holds'.adds _ info (same.mem_iff.mpr member)]
  · have unnamed : ∀ entry ∈ request.localAuthorizationList, entry.idTag ≠ idTag := fun entry member same =>
      named ⟨entry, member, same⟩
    rw [holds.keeps idTag unnamed]
    exact holds'.keeps idTag fun entry member => unnamed entry (same.mem_iff.mp member)

end Answer

/-- `apply` answers and does what the request means, whatever the order of its entries. -/
theorem localAuthList_apply_spec (list : LocalAuthList) (request : SendLocalListRequest) :
    ∃ status after, list.apply request = some (status, after) ∧
      (status = .accepted ↔ list.Admits request) ∧
      (status = .accepted → after.version = request.listVersion ∧ list.Holds request after) ∧
      (status ≠ .accepted → after = list) ∧
      ∀ permuted, permuted.Perm request.localAuthorizationList →
        ∃ after', list.apply { request with localAuthorizationList := permuted } = some (status, after') ∧
          after'.version = after.version ∧ after'.maxLength = after.maxLength ∧
          ∀ idTag, after'.get idTag = after.get idTag := by
  obtain ⟨after, applied, meets⟩ := list.apply_answer request
  refine ⟨list.answer request, after, applied, list.answer_eq_accepted request, ?_, meets.refused, ?_⟩
  · intro accepted
    obtain ⟨version, -, holds⟩ := meets.accepted accepted
    exact ⟨version, holds⟩
  intro permuted same
  obtain ⟨after', applied', meets'⟩ := list.apply_answer { request with localAuthorizationList := permuted }
  have answer : list.answer { request with localAuthorizationList := permuted } = list.answer request :=
    LocalAuthList.answer_perm same
  refine ⟨after', by rw [applied', answer], ?_⟩
  by_cases accepted : list.answer request = .accepted
  · obtain ⟨version, capacity, holds⟩ := meets.accepted accepted
    obtain ⟨version', capacity', holds'⟩ := meets'.accepted (answer.trans accepted)
    exact ⟨version'.trans version.symm, capacity'.trans capacity.symm, holds.unique same holds'⟩
  · rw [meets.refused accepted, meets'.refused fun accepted' => accepted (answer.symm.trans accepted')]
    exact ⟨rfl, rfl, fun _ => rfl⟩

end Ocpp.LocalList
