import Ocpp.ChargePoint.CertificateHashes
import Ocpp.ChargePoint.Commands
import Ocpp.Library.HashMap
import Ocpp.Library.Transition
import Ocpp.Types.Certificate

/-!
# The store of installed certificates

`v201_certificate_store.rs` with the handlers of `InstallCertificate` and `DeleteCertificate`. A delete resolves its
target on a snapshot and later removes by the use alone; the requests of the CSMS come in any order in between.
-/

namespace Ocpp.ChargePoint.CertificateStore
open Library

inductive DeleteCertificateStatusEnumType
  | accepted
  | failed
  | notFound
deriving DecidableEq

structure DeleteCertificateResponse where
  status : DeleteCertificateStatusEnumType
  statusInfo : Option StatusInfoType
deriving DecidableEq

/-- A delete that has been answered, with what it took out of the store. -/
structure Deleted where
  requested : CertificateHashDataType
  response : DeleteCertificateResponse
  removed : Option (InstallCertificateUseEnumType × String)
deriving DecidableEq

structure State where
  byUse : HashMap InstallCertificateUseEnumType String
  /-- The deletes that have resolved their target and not removed it yet. -/
  resolved : HashMap Nat (CertificateHashDataType × InstallCertificateUseEnumType)
  deleted : List Deleted

def State.new : State where
  byUse := ∅
  resolved := ∅
  deleted := []

inductive Action
  | installCertificate (certificateType : InstallCertificateUseEnumType) (certificate : String)
  /-- The store gives its anchors in some order. -/
  | resolve (request : Nat) (certificateHashData : CertificateHashDataType)
      (snapshot : List (InstallCertificateUseEnumType × String))
  | remove (request : Nat)

def snapshotOf (byUse : HashMap InstallCertificateUseEnumType String) : List (InstallCertificateUseEnumType × String) :=
  byUse.entries.map fun e => (e.1, e.2)

def notFound : DeleteCertificateResponse :=
  ⟨.notFound, some ⟨"NotFound", "no installed certificate matches the requested hash"⟩⟩

def removalFailed : DeleteCertificateResponse :=
  ⟨.failed, some ⟨"RemovalFailed", "the matched certificate was already removed"⟩⟩

def step (s : State) : Action → Option State
  | .installCertificate certificateType certificate =>
      match v201InstallCertificateStatus certificate with
      | .accepted => some { s with byUse := s.byUse.insert certificateType certificate }
      | .rejected | .failed => some s
  | .resolve request certificateHashData snapshot =>
      if (s.resolved.lookup request).isSome ∨ ¬ snapshot.Perm (snapshotOf s.byUse) then none
      else
        match v201DeleteCertificateTarget certificateHashData snapshot with
        | none => some { s with deleted := s.deleted ++ [⟨certificateHashData, notFound, none⟩] }
        | some use_ => some { s with resolved := s.resolved.insert request (certificateHashData, use_) }
  | .remove request =>
      (s.resolved.lookup request).map fun (certificateHashData, use_) =>
        let removed := s.byUse.lookup use_
        { byUse := s.byUse.erase use_
          resolved := s.resolved.erase request
          deleted := s.deleted ++ [⟨certificateHashData,
            if removed.isSome then ⟨.accepted, none⟩ else removalFailed, removed.map fun pem => (use_, pem)⟩] }

/-- A delete that is answered `Accepted` has removed an anchor its hash data names, and any other has removed none. -/
structure Deleted.Exact (delete : Deleted) : Prop where
  named : delete.response.status = .accepted → ∃ use_ pem, delete.removed = some (use_, pem) ∧
    v201CertificateHashMatches delete.requested (v201CertificateHashData use_ pem)
  kept : delete.response.status ≠ .accepted → delete.removed = none

/-- No certificate is installed for a use while a delete that has resolved the use waits, unless it is one that the
delete names too. -/
def Unrotated (s : State) : Action → Prop
  | .installCertificate certificateType certificate => v201InstallCertificateStatus certificate = .accepted →
      ∀ request certificateHashData, s.resolved.lookup request = some (certificateHashData, certificateType) →
        v201CertificateHashMatches certificateHashData (v201CertificateHashData certificateType certificate)
  | _ => True

/-- What a waiting delete will remove, if anything, is named by its hash data. -/
structure Resolved (s : State) : Prop where
  waiting : ∀ request certificateHashData use_ pem, s.resolved.lookup request = some (certificateHashData, use_) →
    s.byUse.lookup use_ = some pem →
    v201CertificateHashMatches certificateHashData (v201CertificateHashData use_ pem)
  answered : ∀ delete ∈ s.deleted, delete.Exact

theorem mem_snapshotOf {byUse : HashMap InstallCertificateUseEnumType String} {use_ : InstallCertificateUseEnumType}
    {pem : String} : (use_, pem) ∈ snapshotOf byUse ↔ byUse.lookup use_ = some pem := by
  rw [snapshotOf, List.mem_map, ← HashMap.mem_entries]
  constructor
  · rintro ⟨e, member, same⟩
    cases same
    exact member
  · exact fun member => ⟨_, member, rfl⟩

theorem target_named {requested : CertificateHashDataType} {snapshot : List (InstallCertificateUseEnumType × String)}
    {use_ : InstallCertificateUseEnumType} (found : v201DeleteCertificateTarget requested snapshot = some use_) :
    ∃ pem, (use_, pem) ∈ snapshot ∧ v201CertificateHashMatches requested (v201CertificateHashData use_ pem) := by
  obtain ⟨⟨use_', pem⟩, member, resolved⟩ := List.exists_of_findSome?_eq_some found
  obtain ⟨matched, same⟩ := Option.ite_none_right_eq_some.mp resolved
  obtain rfl := Option.some.inj same
  exact ⟨pem, member, matched⟩

theorem Resolved.install {s : State} (inv : Resolved s) {certificateType : InstallCertificateUseEnumType}
    {certificate : String} (unrotated : ∀ request certificateHashData,
      s.resolved.lookup request = some (certificateHashData, certificateType) →
        v201CertificateHashMatches certificateHashData (v201CertificateHashData certificateType certificate)) :
    Resolved { s with byUse := s.byUse.insert certificateType certificate } := by
  refine ⟨?_, inv.answered⟩
  intro request certificateHashData use_ pem waits held
  obtain ⟨rfl, rfl⟩ | ⟨-, held⟩ := HashMap.lookup_insert_eq_some.mp held
  · exact unrotated request certificateHashData waits
  · exact inv.waiting request certificateHashData use_ pem waits held

theorem Resolved.resolve {s : State} (inv : Resolved s) {request : Nat} {requested : CertificateHashDataType}
    {use_ : InstallCertificateUseEnumType} {pem : String} (held : s.byUse.lookup use_ = some pem)
    (matched : v201CertificateHashMatches requested (v201CertificateHashData use_ pem)) :
    Resolved { s with resolved := s.resolved.insert request (requested, use_) } := by
  refine ⟨?_, inv.answered⟩
  intro request' requested' use_' pem' waits held'
  obtain ⟨rfl, same⟩ | ⟨-, waits⟩ := HashMap.lookup_insert_eq_some.mp waits
  · obtain ⟨rfl, rfl⟩ := Prod.mk.inj same
    rw [held] at held'
    rwa [← Option.some.inj held']
  · exact inv.waiting request' requested' use_' pem' waits held'

theorem Resolved.answer {s : State} (inv : Resolved s) {delete : Deleted} (exact_ : delete.Exact) :
    Resolved { s with deleted := s.deleted ++ [delete] } := by
  refine ⟨inv.waiting, ?_⟩
  intro delete' member
  obtain member | last := List.mem_append.mp member
  · exact inv.answered delete' member
  · rwa [List.mem_singleton.mp last]

theorem Resolved.erase {s : State} (inv : Resolved s) (request : Nat) (use_ : InstallCertificateUseEnumType) :
    Resolved { s with byUse := s.byUse.erase use_, resolved := s.resolved.erase request } := by
  refine ⟨?_, inv.answered⟩
  intro request' requested use_' pem waits held
  exact inv.waiting request' requested use_' pem (HashMap.lookup_erase_eq_some.mp waits).2
    (HashMap.lookup_erase_eq_some.mp held).2

theorem exact_of_unaccepted {requested : CertificateHashDataType} {response : DeleteCertificateResponse}
    (unaccepted : response.status ≠ .accepted) : Deleted.Exact ⟨requested, response, none⟩ :=
  ⟨fun accepted => absurd accepted unaccepted, fun _ => rfl⟩

theorem Resolved.step {s t : State} {action : Action} (inv : Resolved s) (unrotated : Unrotated s action)
    (stepped : step s action = some t) : Resolved t := by
  cases action with
  | installCertificate certificateType certificate =>
      simp only [CertificateStore.step] at stepped
      split at stepped
      · rename_i accepted
        obtain rfl := Option.some.inj stepped
        exact inv.install (unrotated accepted)
      all_goals
        obtain rfl := Option.some.inj stepped
        exact inv
  | resolve request certificateHashData snapshot =>
      simp only [CertificateStore.step] at stepped
      split_ifs at stepped with refused
      obtain ⟨-, order⟩ := not_or.mp refused
      split at stepped
      · obtain rfl := Option.some.inj stepped
        exact inv.answer (exact_of_unaccepted nofun)
      · rename_i use_ found
        obtain rfl := Option.some.inj stepped
        obtain ⟨pem, member, matched⟩ := target_named found
        have held := mem_snapshotOf.mp ((not_not.mp order).mem_iff.mp member)
        exact inv.resolve held matched
  | remove request =>
      obtain ⟨⟨requested, use_⟩, waits, rfl⟩ := Option.map_eq_some_iff.mp stepped
      apply (inv.erase request use_).answer
      cases held : s.byUse.lookup use_ with
      | none => exact exact_of_unaccepted nofun
      | some pem =>
          have matched := inv.waiting request requested use_ pem waits held
          exact ⟨fun _ => ⟨use_, pem, rfl, matched⟩, fun failed => absurd rfl failed⟩

theorem resolved_new : Resolved .new := by
  constructor <;> simp [State.new]

/-- In every run without such a rotation. -/
theorem deletes_exact {actions : List Action} {s : State} (unrotated : Along step Unrotated .new actions)
    (ran : run step .new actions = some s) : ∀ delete ∈ s.deleted, delete.Exact :=
  (run_invariant (fun _ _ _ inv condition stepped => inv.step condition stepped) resolved_new unrotated ran).answered

theorem install_accepted {s : State} {certificateType : InstallCertificateUseEnumType} {certificate : String}
    (accepted : v201InstallCertificateStatus certificate = .accepted) :
    step s (.installCertificate certificateType certificate) =
      some { s with byUse := s.byUse.insert certificateType certificate } := by
  simp only [step, accepted]

theorem resolve_only {s : State} {request : Nat} {use_ : InstallCertificateUseEnumType} {pem : String}
    (fresh : s.resolved.lookup request = none) (only : snapshotOf s.byUse = [(use_, pem)]) :
    step s (.resolve request (v201CertificateHashData use_ pem) [(use_, pem)]) =
      some { s with resolved := s.resolved.insert request (v201CertificateHashData use_ pem, use_) } := by
  have distinct : HashesDistinct [(use_, pem)] := by
    intro anchor member anchor' member' different
    rw [List.mem_singleton.mp member, List.mem_singleton.mp member'] at different
    exact absurd rfl different
  have target := target_of_anchor distinct (List.mem_singleton.mpr rfl)
  simp only [step, fresh, only, target, Option.isSome_none, Bool.false_eq_true, List.Perm.refl, not_true_eq_false,
    or_self, if_false]

theorem remove_held {s : State} {request : Nat} {requested : CertificateHashDataType}
    {use_ : InstallCertificateUseEnumType} {pem : String} (waits : s.resolved.lookup request = some (requested, use_))
    (held : s.byUse.lookup use_ = some pem) :
    step s (.remove request) = some
      { byUse := s.byUse.erase use_
        resolved := s.resolved.erase request
        deleted := s.deleted ++ [⟨requested, ⟨.accepted, none⟩, some (use_, pem)⟩] } := by
  simp only [step, waits, held, Option.map_some, Option.isSome_some, if_true]

def firstRoot : String := "-----BEGIN CERTIFICATE-----\nQTE=\n-----END CERTIFICATE-----"
def secondRoot : String := "-----BEGIN CERTIFICATE-----\nQTI=\n-----END CERTIFICATE-----"

theorem firstRoot_accepted : v201InstallCertificateStatus firstRoot = .accepted := by decide +kernel
theorem secondRoot_accepted : v201InstallCertificateStatus secondRoot = .accepted := by decide +kernel

def firstHash : CertificateHashDataType :=
  v201CertificateHashData .csmsRootCertificate firstRoot

/-- While a delete of the first root waits, the second root is installed. -/
def deleteFirst (certificateType : InstallCertificateUseEnumType) : List Action :=
  [.installCertificate .csmsRootCertificate firstRoot, .resolve 0 firstHash [(.csmsRootCertificate, firstRoot)],
    .installCertificate certificateType secondRoot, .remove 0]

def held : HashMap InstallCertificateUseEnumType String :=
  (∅ : HashMap _ _).insert .csmsRootCertificate firstRoot

def waiting (byUse : HashMap InstallCertificateUseEnumType String) : State where
  byUse := byUse
  resolved := (∅ : HashMap _ _).insert 0 (firstHash, .csmsRootCertificate)
  deleted := []

theorem install_firstRoot : step .new (.installCertificate .csmsRootCertificate firstRoot) =
    some { State.new with byUse := held } :=
  install_accepted firstRoot_accepted

theorem resolve_firstRoot : step { State.new with byUse := held }
    (.resolve 0 firstHash [(.csmsRootCertificate, firstRoot)]) = some (waiting held) :=
  resolve_only rfl rfl

theorem remove_waiting {byUse : HashMap InstallCertificateUseEnumType String} {pem : String}
    (kept : byUse.lookup .csmsRootCertificate = some pem) : ∃ s, step (waiting byUse) (.remove 0) = some s ∧
      s.deleted = [⟨firstHash, ⟨.accepted, none⟩, some (.csmsRootCertificate, pem)⟩] :=
  ⟨_, remove_held (AList.lookup_insert _) kept, rfl⟩

theorem run_deleteFirst (certificateType : InstallCertificateUseEnumType) {pem : String}
    (kept : (held.insert certificateType secondRoot).lookup .csmsRootCertificate = some pem) :
    ∃ s, run step .new (deleteFirst certificateType) = some s ∧
      s.deleted = [⟨firstHash, ⟨.accepted, none⟩, some (.csmsRootCertificate, pem)⟩] := by
  obtain ⟨s, removed, deleted⟩ := remove_waiting kept
  refine ⟨s, ?_, deleted⟩
  calc run step .new (deleteFirst certificateType)
      = run step (waiting held) [.installCertificate certificateType secondRoot, .remove 0] := by
        rw [deleteFirst, run_cons install_firstRoot, run_cons resolve_firstRoot]
    _ = run step (waiting (held.insert certificateType secondRoot)) [.remove 0] :=
        run_cons (install_accepted secondRoot_accepted) _
    _ = some s := run_cons removed []

/-- Another use may be given a certificate while the delete waits. -/
theorem otherUse_exact : ∃ s, run step .new (deleteFirst .moRootCertificate) = some s ∧
    s.deleted.map (·.response.status) = [.accepted] ∧ ∀ delete ∈ s.deleted, delete.Exact := by
  obtain ⟨s, ran, deleted⟩ := run_deleteFirst .moRootCertificate rfl
  have unrotated : Along step Unrotated .new (deleteFirst .moRootCertificate) := by
    apply Along.cons _ install_firstRoot
    · apply Along.cons trivial resolve_firstRoot
      apply Along.cons _ (install_accepted secondRoot_accepted)
      · exact ⟨trivial, fun _ _ => trivial⟩
      · intro _ request requested waits
        obtain ⟨-, same⟩ | ⟨-, none⟩ := HashMap.lookup_insert_eq_some.mp waits
        · cases same
        · cases none
    · intro _ request requested waits
      cases waits
  exact ⟨s, ran, by rw [deleted]; rfl, deletes_exact unrotated ran⟩

/-- The certificate is rotated while the delete waits, and the new one is removed. -/
theorem rotated_inexact : ∃ s, run step .new (deleteFirst .csmsRootCertificate) = some s ∧
    ¬ ∀ delete ∈ s.deleted, delete.Exact := by
  have different : v201CertificateHashMatches firstHash (v201CertificateHashData .csmsRootCertificate secondRoot) =
      false := by
    decide +kernel
  obtain ⟨s, ran, deleted⟩ := run_deleteFirst _ (AList.lookup_insert _)
  refine ⟨s, ran, fun exact_ => ?_⟩
  rw [deleted] at exact_
  obtain ⟨use_, pem, same, matched⟩ := (exact_ _ List.mem_cons_self).named rfl
  obtain ⟨rfl, rfl⟩ := Prod.mk.inj (Option.some.inj same)
  rw [different] at matched
  cases matched

end Ocpp.ChargePoint.CertificateStore
