import Ocpp.Library.HashMap
import Ocpp.Library.Transition
import Ocpp.Types.Authorization

/-!
# The local authorization list

`local_list.rs`: the versioned list of id tags a CSMS pushes with `SendLocalList`, in either dialect.
A differential update projects the size of its result before it changes anything; the projection
subtracts on an unsigned count, and an underflow there is a call that does not return.
-/

namespace Ocpp.LocalList
open Library V16j

structure LocalAuthList where
  version : Int
  entries : HashMap String IdTagInfo
  maxLength : Option Nat

def LocalAuthList.withMaxLength (maxLength : Nat) : LocalAuthList :=
  ⟨0, ∅, some maxLength⟩

def LocalAuthList.new : LocalAuthList :=
  ⟨0, ∅, none⟩

def allInserted : List String → List String → Bool
  | _, [] => true
  | seen, tag :: tags => if tag ∈ seen then false else allInserted (tag :: seen) tags

def hasDuplicateIdTags (request : SendLocalListRequest) : Bool :=
  !allInserted [] (request.localAuthorizationList.map (·.idTag))

def fullReplacement (updates : List AuthorizationData) : Option (HashMap String IdTagInfo) :=
  updates.foldlM (fun replacement entry =>
    entry.idTagInfo.map fun info => replacement.insert entry.idTag info) ∅

def LocalAuthList.exceedsCapacity (list : LocalAuthList) (len : Nat) : Bool :=
  match list.maxLength with
  | some max => max < len
  | none => false

def projectEntry (entries : HashMap String IdTagInfo) (projected : Nat) (entry : AuthorizationData) :
    Option Nat :=
  match entry.idTagInfo with
  | some _ => some (if entry.idTag ∈ entries then projected else projected + 1)
  | none =>
      if entry.idTag ∈ entries then
        -- `projected -= 1` on a `usize`
        if projected = 0 then none else some (projected - 1)
      else some projected

def projectedLen (entries : HashMap String IdTagInfo) (updates : List AuthorizationData) :
    Option Nat :=
  updates.foldlM (projectEntry entries) (HashMap.size entries)

def applyEntry (entries : HashMap String IdTagInfo) (entry : AuthorizationData) :
    HashMap String IdTagInfo :=
  match entry.idTagInfo with
  | some info => entries.insert entry.idTag info
  | none => entries.erase entry.idTag

def LocalAuthList.commit (list : LocalAuthList) (entries : HashMap String IdTagInfo)
    (version : Int) : LocalAuthList :=
  { list with entries, version }

def LocalAuthList.applyFull (list : LocalAuthList) (request : SendLocalListRequest) :
    UpdateStatus × LocalAuthList :=
  match fullReplacement request.localAuthorizationList with
  | none => (.failed, list)
  | some replacement =>
      if list.exceedsCapacity (HashMap.size replacement) then (.failed, list)
      else (.accepted, list.commit replacement request.listVersion)

def LocalAuthList.applyDifferential (list : LocalAuthList) (request : SendLocalListRequest) :
    Option (UpdateStatus × LocalAuthList) :=
  if request.listVersion ≤ list.version then some (.versionMismatch, list)
  else
    let accepted := (UpdateStatus.accepted, list.commit
      (request.localAuthorizationList.foldl applyEntry list.entries) request.listVersion)
    match list.maxLength with
    | none => some accepted
    | some max =>
        (projectedLen list.entries request.localAuthorizationList).map fun projected =>
          if max < projected then (.failed, list) else accepted

/-- The answer to a request and the list afterwards, or `none` if the call does not return. -/
def LocalAuthList.apply (list : LocalAuthList) (request : SendLocalListRequest) :
    Option (UpdateStatus × LocalAuthList) :=
  if hasDuplicateIdTags request then some (.failed, list)
  else
    match request.updateType with
    | .full => some (list.applyFull request)
    | .differential => list.applyDifferential request

def v201StatusToV16j : V201.AuthorizationStatusEnumType → AuthorizationStatus
  | .accepted => .accepted
  | .blocked => .blocked
  | .expired => .expired
  | .concurrentTx => .concurrentTx
  | .invalid | .noCredit | .notAllowedTypeEvse | .notAtThisLocation | .notAtThisTime | .unknown =>
      .invalid

def v16jRequestFromV201 (request : V201.SendLocalListRequest) : SendLocalListRequest where
  listVersion := request.versionNumber
  updateType :=
    match request.updateType with
    | .full => .full
    | .differential => .differential
  localAuthorizationList := (request.localAuthorizationList.getD []).map fun entry =>
    { idTag := entry.idToken.idToken
      idTagInfo := entry.idTokenInfo.map fun info =>
        { status := v201StatusToV16j info.status
          parentIdTag := info.groupIdToken.map (·.idToken)
          expiryDate := none } }

def updateStatusToV201 : UpdateStatus → V201.SendLocalListStatusEnumType
  | .accepted => .accepted
  | .versionMismatch => .versionMismatch
  | .failed | .notSupported => .failed

def LocalAuthList.applyV201 (list : LocalAuthList) (request : V201.SendLocalListRequest) :
    Option (V201.SendLocalListStatusEnumType × LocalAuthList) :=
  (list.apply (v16jRequestFromV201 request)).map (Prod.map updateStatusToV201 id)

/-! ## One request -/

theorem allInserted_iff (seen tags : List String) :
    allInserted seen tags = true ↔ tags.Nodup ∧ ∀ tag ∈ tags, tag ∉ seen := by
  induction tags generalizing seen with
  | nil => simp [allInserted]
  | cons tag tags ih =>
      simp only [allInserted, List.nodup_cons, List.forall_mem_cons]
      split_ifs with known
      · simp [known]
      · rw [ih]
        simp only [List.mem_cons, not_or]
        constructor
        · rintro ⟨nodup, fresh⟩
          exact ⟨⟨fun member => (fresh tag member).1 rfl, nodup⟩, known, fun t m => (fresh t m).2⟩
        · rintro ⟨⟨absent, nodup⟩, -, fresh⟩
          exact ⟨nodup, fun t m => ⟨fun same => absent (same ▸ m), fresh t m⟩⟩

theorem hasDuplicateIdTags_eq_false (request : SendLocalListRequest) :
    hasDuplicateIdTags request = false ↔
      (request.localAuthorizationList.map (·.idTag)).Nodup := by
  simp [hasDuplicateIdTags, allInserted_iff]

theorem mem_applyEntry {entries : HashMap String IdTagInfo} {entry : AuthorizationData} {tag : String}
    (other : tag ≠ entry.idTag) : tag ∈ applyEntry entries entry ↔ tag ∈ entries := by
  unfold applyEntry
  cases entry.idTagInfo <;> simp [other]

theorem projectEntry_size {original entries : HashMap String IdTagInfo} {entry : AuthorizationData}
    (untouched : entry.idTag ∈ entries ↔ entry.idTag ∈ original) :
    projectEntry original (HashMap.size entries) entry =
      some (HashMap.size (applyEntry entries entry)) := by
  unfold projectEntry applyEntry
  cases entry.idTagInfo with
  | some info => simp only [HashMap.size_insert, untouched]
  | none =>
      simp only [HashMap.size_erase, untouched]
      split_ifs with present empty
      · have positive := HashMap.size_pos_of_mem (untouched.mpr present)
        omega
      · rfl
      · rfl

/-- The projection is the size of the result, and never underflows. The tags still to come are those
whose presence no entry has changed yet. -/
theorem projectedLen_foldlM (original : HashMap String IdTagInfo) (updates : List AuthorizationData)
    (nodup : (updates.map (·.idTag)).Nodup) (entries : HashMap String IdTagInfo)
    (untouched : ∀ entry ∈ updates, entry.idTag ∈ entries ↔ entry.idTag ∈ original) :
    updates.foldlM (projectEntry original) (HashMap.size entries) =
      some (HashMap.size (updates.foldl applyEntry entries)) := by
  induction updates generalizing entries with
  | nil => rfl
  | cons entry rest ih =>
      rw [List.map_cons, List.nodup_cons] at nodup
      rw [List.foldlM_cons, projectEntry_size (untouched entry List.mem_cons_self),
        List.foldl_cons]
      apply ih nodup.2
      intro later member
      have other : later.idTag ≠ entry.idTag := fun same =>
        nodup.1 (same ▸ List.mem_map_of_mem member)
      rw [mem_applyEntry other]
      exact untouched later (List.mem_cons_of_mem _ member)

theorem projectedLen_eq (entries : HashMap String IdTagInfo) (updates : List AuthorizationData)
    (nodup : (updates.map (·.idTag)).Nodup) :
    projectedLen entries updates = some (HashMap.size (updates.foldl applyEntry entries)) :=
  projectedLen_foldlM entries updates nodup entries fun _ _ => Iff.rfl

/-- What a request can do: it is refused and changes nothing, or it is accepted, takes the version of
the request, and the new list is within the capacity. -/
inductive LocalAuthList.Applied (list : LocalAuthList) (request : SendLocalListRequest) :
    UpdateStatus × LocalAuthList → Prop
  | refused (status : UpdateStatus) (refusal : status ≠ .accepted) : Applied list request (status, list)
  | accepted (entries : HashMap String IdTagInfo)
      (newer : request.updateType = .differential → list.version < request.listVersion)
      (fits : ∀ max ∈ list.maxLength, HashMap.size entries ≤ max) :
      Applied list request (.accepted, list.commit entries request.listVersion)

theorem LocalAuthList.applyFull_spec (list : LocalAuthList) (request : SendLocalListRequest)
    (full : request.updateType = .full) : list.Applied request (list.applyFull request) := by
  unfold applyFull
  cases fullReplacement request.localAuthorizationList with
  | none => exact .refused _ (by decide)
  | some replacement =>
      simp only
      split_ifs with exceeding
      · exact .refused _ (by decide)
      · refine .accepted replacement (by simp [full]) fun max bound => ?_
        simpa [exceedsCapacity, Option.mem_def.mp bound] using exceeding

theorem LocalAuthList.applyDifferential_spec (list : LocalAuthList) (request : SendLocalListRequest)
    (nodup : (request.localAuthorizationList.map (·.idTag)).Nodup) :
    ∃ answer, list.applyDifferential request = some answer ∧ list.Applied request answer := by
  unfold applyDifferential
  split_ifs with stale
  · exact ⟨_, rfl, .refused _ (by decide)⟩
  · have newer := not_le.mp stale
    cases bound : list.maxLength with
    | none => exact ⟨_, rfl, .accepted _ (fun _ => newer) (by simp [bound])⟩
    | some max =>
        rw [projectedLen_eq list.entries _ nodup]
        refine ⟨_, rfl, ?_⟩
        dsimp only
        split_ifs with exceeding
        · exact .refused _ (by decide)
        · refine .accepted _ (fun _ => newer) fun m here => ?_
          obtain rfl : max = m := Option.some.inj (bound.symm.trans here)
          exact not_lt.mp exceeding

theorem LocalAuthList.apply_spec (list : LocalAuthList) (request : SendLocalListRequest) :
    ∃ answer, list.apply request = some answer ∧ list.Applied request answer := by
  unfold apply
  cases duplicate : hasDuplicateIdTags request with
  | true => exact ⟨_, rfl, .refused _ (by decide)⟩
  | false =>
      cases kind : request.updateType with
      | full => exact ⟨_, rfl, list.applyFull_spec request kind⟩
      | differential =>
          exact list.applyDifferential_spec request ((hasDuplicateIdTags_eq_false request).mp duplicate)

/-! ## Runs of requests -/

inductive Request
  | v16j (request : SendLocalListRequest)
  | v201 (request : V201.SendLocalListRequest)

inductive Answer
  | v16j (status : UpdateStatus)
  | v201 (status : V201.SendLocalListStatusEnumType)
  deriving DecidableEq

def Answer.Accepted : Answer → Prop
  | .v16j status => status = .accepted
  | .v201 status => status = .accepted

namespace Request

def listVersion : Request → Int
  | v16j request => request.listVersion
  | v201 request => request.versionNumber

def Differential : Request → Prop
  | v16j request => request.updateType = .differential
  | v201 request => request.updateType = .differential

def stored : Request → SendLocalListRequest
  | v16j request => request
  | v201 request => v16jRequestFromV201 request

theorem stored_listVersion (request : Request) :
    request.stored.listVersion = request.listVersion := by
  cases request <;> rfl

theorem stored_differential (request : Request) :
    request.stored.updateType = .differential ↔ request.Differential := by
  cases request with
  | v16j request => rfl
  | v201 request => cases kind : request.updateType <;> simp [stored, v16jRequestFromV201, Differential, kind]

end Request

def LocalAuthList.send (list : LocalAuthList) : Request → Option (Answer × LocalAuthList)
  | .v16j request => (list.apply request).map (Prod.map .v16j id)
  | .v201 request => (list.applyV201 request).map (Prod.map .v201 id)

def LocalAuthList.step (list : LocalAuthList) (request : Request) : Option LocalAuthList :=
  (list.send request).map Prod.snd

theorem LocalAuthList.send_spec (list : LocalAuthList) (request : Request) :
    ∃ answer status list', list.send request = some (answer, list') ∧
      list.Applied request.stored (status, list') ∧ (answer.Accepted ↔ status = .accepted) := by
  obtain ⟨⟨status, list'⟩, applied, spec⟩ := list.apply_spec request.stored
  cases request with
  | v16j request =>
      exact ⟨.v16j status, status, list', by simp [send, show list.apply request = _ from applied],
        spec, Iff.rfl⟩
  | v201 request =>
      refine ⟨.v201 (updateStatusToV201 status), status, list', ?_, spec, ?_⟩
      · simp [send, applyV201, show list.apply (v16jRequestFromV201 request) = _ from applied]
      · cases status <;> simp [Answer.Accepted, updateStatusToV201]

def LocalAuthList.Within (m : Nat) (list : LocalAuthList) : Prop :=
  list.maxLength = some m ∧ HashMap.size list.entries ≤ m

theorem LocalAuthList.Within.applied {m : Nat} {list : LocalAuthList} {request : SendLocalListRequest}
    {answer : UpdateStatus × LocalAuthList} (within : list.Within m)
    (spec : list.Applied request answer) : answer.2.Within m := by
  cases spec with
  | refused status refusal => exact within
  | accepted entries newer fits => exact ⟨within.1, fits m within.1⟩

/-- Every run of requests returns, stays within the capacity, and leaves a list on which a refused
request changes nothing and an accepted one sets the version, forward for a differential update. -/
theorem localAuthList_run_safe (m : Nat) (requests : List Request) :
    ∃ list, run LocalAuthList.step (LocalAuthList.withMaxLength m) requests = some list ∧
      HashMap.size list.entries ≤ m ∧
      ∀ request, ∃ answer list', list.send request = some (answer, list') ∧
        (¬answer.Accepted → list'.version = list.version ∧ list'.entries = list.entries) ∧
        (answer.Accepted → request.Differential → list.version < list'.version) ∧
        (answer.Accepted → list'.version = request.listVersion) := by
  have kept (list : LocalAuthList) (request : Request) (within : list.Within m) :
      ∃ list', list.step request = some list' ∧ list'.Within m := by
    obtain ⟨answer, status, list', sent, spec, -⟩ := list.send_spec request
    exact ⟨list', by simp [LocalAuthList.step, sent], within.applied spec⟩
  have start : (LocalAuthList.withMaxLength m).Within m :=
    ⟨rfl, by simp [LocalAuthList.withMaxLength]⟩
  obtain ⟨list, ran, within⟩ := run_total kept start requests
  refine ⟨list, ran, within.2, fun request => ?_⟩
  obtain ⟨answer, status, list', sent, spec, accepted⟩ := list.send_spec request
  refine ⟨answer, list', sent, ?_⟩
  cases spec with
  | refused status refusal => simp [accepted, refusal]
  | accepted entries newer fits =>
      rw [← request.stored_listVersion, ← request.stored_differential]
      exact ⟨fun refused => absurd (accepted.mpr rfl) refused, fun _ kind => newer kind, fun _ => rfl⟩

end Ocpp.LocalList
