import Ocpp.ChargePoint.ReportStreams
import Ocpp.ChargePoint.V201DeviceModel
import Ocpp.Library.Fnv
import Ocpp.Library.Iterator

/-!
# Certificate hashes

The hash data of an installed certificate (`v201_certificate_hash_data` of `v201_command.rs`), which
`GetInstalledCertificateIds` reports and `DeleteCertificate` resolves to the use the certificate is installed for.
-/

namespace Ocpp.ChargePoint
open Library
open ReportStreams (HashAlgorithmEnumType)

inductive InstallCertificateUseEnumType
  | v2gRootCertificate
  | moRootCertificate
  | csmsRootCertificate
  | manufacturerRootCertificate
deriving DecidableEq

inductive GetCertificateIdUseEnumType
  | v2gRootCertificate
  | moRootCertificate
  | csmsRootCertificate
  | v2gCertificateChain
  | manufacturerRootCertificate
deriving DecidableEq

structure CertificateHashDataType where
  hashAlgorithm : HashAlgorithmEnumType
  issuerNameHash : String
  issuerKeyHash : String
  serialNumber : String
  customData : Option CustomDataType
deriving DecidableEq

structure CertificateHashDataChainType where
  certificateType : GetCertificateIdUseEnumType
  certificateHashData : CertificateHashDataType
  childCertificateHashData : Option (List CertificateHashDataType)
  customData : Option CustomDataType
deriving DecidableEq

/-- The derived `Debug` text. -/
def InstallCertificateUseEnumType.tag : InstallCertificateUseEnumType → String
  | v2gRootCertificate => "V2GRootCertificate"
  | moRootCertificate => "MORootCertificate"
  | csmsRootCertificate => "CSMSRootCertificate"
  | manufacturerRootCertificate => "ManufacturerRootCertificate"

def stableHashHex (input : String) : String :=
  Fnv.hex (Fnv.digest input.toList)

def v201CertificateHashData (use_ : InstallCertificateUseEnumType) (pem : String) : CertificateHashDataType :=
  let useTag := use_.tag
  { hashAlgorithm := .sha256
    issuerNameHash := stableHashHex ("issuer-name|" ++ useTag ++ "|" ++ pem)
    issuerKeyHash := stableHashHex ("issuer-key|" ++ useTag ++ "|" ++ pem)
    serialNumber := stableHashHex ("serial|" ++ useTag ++ "|" ++ pem)
    customData := none }

def getUseOfInstallUse : InstallCertificateUseEnumType → GetCertificateIdUseEnumType
  | .v2gRootCertificate => .v2gRootCertificate
  | .moRootCertificate => .moRootCertificate
  | .csmsRootCertificate => .csmsRootCertificate
  | .manufacturerRootCertificate => .manufacturerRootCertificate

def getUseOrder : GetCertificateIdUseEnumType → Nat
  | .v2gRootCertificate => 0
  | .moRootCertificate => 1
  | .csmsRootCertificate => 2
  | .v2gCertificateChain => 3
  | .manufacturerRootCertificate => 4

def v201GetInstalledCertificateIdsMatches (filter : Option (List GetCertificateIdUseEnumType))
    (snapshot : List (InstallCertificateUseEnumType × String)) : List CertificateHashDataChainType :=
  let chain := snapshot.filterMap fun (use_, pem) =>
    let getUse := getUseOfInstallUse use_
    if filter.all (getUse ∈ ·) then some ⟨getUse, v201CertificateHashData use_ pem, none, none⟩ else none
  sortByKey (fun entry => getUseOrder entry.certificateType) chain

def v201CertificateHashMatches (a b : CertificateHashDataType) : Bool :=
  a.hashAlgorithm = b.hashAlgorithm && a.issuerNameHash = b.issuerNameHash && a.issuerKeyHash = b.issuerKeyHash &&
    a.serialNumber = b.serialNumber

def v201DeleteCertificateTarget (requested : CertificateHashDataType)
    (snapshot : List (InstallCertificateUseEnumType × String)) : Option InstallCertificateUseEnumType :=
  snapshot.findSome? fun (use_, pem) =>
    if v201CertificateHashMatches requested (v201CertificateHashData use_ pem) then some use_ else none

/-! ## Digests -/

def uses : List InstallCertificateUseEnumType :=
  [.v2gRootCertificate, .moRootCertificate, .csmsRootCertificate, .manufacturerRootCertificate]

theorem mem_uses (use_ : InstallCertificateUseEnumType) : use_ ∈ uses := by
  cases use_ <;> decide

theorem stableHashHex_ne {salt : String} (member : salt ∈ ["issuer-name|", "issuer-key|", "serial|"])
    {use_ use_' : InstallCertificateUseEnumType} (different : use_ ≠ use_') (pem : String) :
    stableHashHex (salt ++ use_.tag ++ "|" ++ pem) ≠ stableHashHex (salt ++ use_'.tag ++ "|" ++ pem) := by
  intro same
  have digests := Fnv.hex_injective same
  simp only [String.toList_append, Fnv.digest_append] at digests
  have prefixes := Fnv.digestFrom_injective pem.toList digests
  have distinct : ∀ salt ∈ ["issuer-name|", "issuer-key|", "serial|"], (uses.map fun use_ =>
      Fnv.digestFrom (Fnv.digestFrom (Fnv.digest salt.toList) use_.tag.toList) "|".toList).Nodup := by
    decide +kernel
  exact different (List.inj_on_of_nodup_map (distinct salt member) (mem_uses use_) (mem_uses use_') prefixes)

theorem v201CertificateHashData_ne {use_ use_' : InstallCertificateUseEnumType} (different : use_ ≠ use_')
    (pem : String) :
    (v201CertificateHashData use_ pem).issuerNameHash ≠ (v201CertificateHashData use_' pem).issuerNameHash ∧
      (v201CertificateHashData use_ pem).issuerKeyHash ≠ (v201CertificateHashData use_' pem).issuerKeyHash ∧
      (v201CertificateHashData use_ pem).serialNumber ≠ (v201CertificateHashData use_' pem).serialNumber :=
  ⟨stableHashHex_ne (by decide) different pem, stableHashHex_ne (by decide) different pem,
    stableHashHex_ne (by decide) different pem⟩

/-! ## Round trip -/

theorem v201CertificateHashMatches_iff {use_ use_' : InstallCertificateUseEnumType} {pem pem' : String} :
    v201CertificateHashMatches (v201CertificateHashData use_ pem) (v201CertificateHashData use_' pem') ↔
      v201CertificateHashData use_ pem = v201CertificateHashData use_' pem' := by
  simp only [v201CertificateHashMatches, Bool.and_eq_true, decide_eq_true_iff]
  constructor
  · rintro ⟨⟨⟨algorithm, name⟩, key⟩, serial⟩
    simp only [v201CertificateHashData] at name key serial ⊢
    rw [name, key, serial]
  · intro same
    rw [same]
    exact ⟨⟨⟨rfl, rfl⟩, rfl⟩, rfl⟩

/-- No two anchors with different certificates have the same hash data. -/
def HashesDistinct (snapshot : List (InstallCertificateUseEnumType × String)) : Prop :=
  ∀ anchor ∈ snapshot, ∀ anchor' ∈ snapshot, anchor.2 ≠ anchor'.2 →
    v201CertificateHashData anchor.1 anchor.2 ≠ v201CertificateHashData anchor'.1 anchor'.2

theorem anchor_of_hash {snapshot : List (InstallCertificateUseEnumType × String)} (distinct : HashesDistinct snapshot)
    {anchor anchor' : InstallCertificateUseEnumType × String} (member : anchor ∈ snapshot)
    (member' : anchor' ∈ snapshot)
    (same : v201CertificateHashData anchor.1 anchor.2 = v201CertificateHashData anchor'.1 anchor'.2) :
    anchor.1 = anchor'.1 := by
  have pems : anchor.2 = anchor'.2 := by
    by_contra different
    exact distinct anchor member anchor' member' different same
  by_contra different
  rw [pems] at same
  exact (v201CertificateHashData_ne different anchor'.2).1 (congrArg CertificateHashDataType.issuerNameHash same)

theorem target_of_anchor {snapshot : List (InstallCertificateUseEnumType × String)} (distinct : HashesDistinct snapshot)
    {use_ : InstallCertificateUseEnumType} {pem : String} (member : (use_, pem) ∈ snapshot) :
    v201DeleteCertificateTarget (v201CertificateHashData use_ pem) snapshot = some use_ := by
  cases found : v201DeleteCertificateTarget (v201CertificateHashData use_ pem) snapshot with
  | none =>
      have missed := List.findSome?_eq_none_iff.mp found (use_, pem) member
      simp only [v201CertificateHashMatches_iff.mpr rfl] at missed
      cases missed
  | some use_' =>
      obtain ⟨⟨use_'', pem'⟩, member', resolved⟩ := List.exists_of_findSome?_eq_some found
      obtain ⟨matched, shown⟩ := Option.ite_none_right_eq_some.mp resolved
      rw [← shown]
      exact congrArg some (anchor_of_hash distinct member member' (v201CertificateHashMatches_iff.mp matched)).symm

theorem mem_installed {filter : Option (List GetCertificateIdUseEnumType)}
    {snapshot : List (InstallCertificateUseEnumType × String)} {entry : CertificateHashDataChainType} :
    entry ∈ v201GetInstalledCertificateIdsMatches filter snapshot ↔ ∃ use_ pem, (use_, pem) ∈ snapshot ∧
      filter.all (getUseOfInstallUse use_ ∈ ·) ∧
      entry = ⟨getUseOfInstallUse use_, v201CertificateHashData use_ pem, none, none⟩ := by
  rw [v201GetInstalledCertificateIdsMatches, (sortByKey_perm _ _).mem_iff, List.mem_filterMap]
  constructor
  · rintro ⟨⟨use_, pem⟩, member, listed⟩
    obtain ⟨asked, shown⟩ := Option.ite_none_right_eq_some.mp listed
    exact ⟨use_, pem, member, asked, (Option.some.inj shown).symm⟩
  · rintro ⟨use_, pem, member, asked, rfl⟩
    exact ⟨(use_, pem), member, if_pos asked⟩

theorem getUseOfInstallUse_injective : Function.Injective getUseOfInstallUse := by
  intro use_ use_' same
  cases use_ <;> cases use_' <;> first | rfl | cases same

/-- The entries list the anchors of the snapshot that the filter asks for, each under its own use and hash data. -/
structure Listed (snapshot : List (InstallCertificateUseEnumType × String))
    (filter : Option (List GetCertificateIdUseEnumType)) (entries : List CertificateHashDataChainType) : Prop where
  all : ∀ anchor ∈ snapshot, filter.all (getUseOfInstallUse anchor.1 ∈ ·) →
    ∃ entry ∈ entries, entry.certificateType = getUseOfInstallUse anchor.1
  only : ∀ entry ∈ entries, ∃ anchor ∈ snapshot, entry.certificateType = getUseOfInstallUse anchor.1
  hashed : ∀ entry ∈ entries, ∀ anchor ∈ snapshot, entry.certificateType = getUseOfInstallUse anchor.1 →
    entry.certificateHashData = v201CertificateHashData anchor.1 anchor.2

/-- The digests of two uses differ, and the hash data that is listed for an anchor resolves to the use of that anchor,
in whatever order the anchors come. -/
theorem certificate_hash_round_trip :
    (∀ use_ use_' pem, use_ ≠ use_' →
      (v201CertificateHashData use_ pem).issuerNameHash ≠ (v201CertificateHashData use_' pem).issuerNameHash ∧
        (v201CertificateHashData use_ pem).issuerKeyHash ≠ (v201CertificateHashData use_' pem).issuerKeyHash ∧
        (v201CertificateHashData use_ pem).serialNumber ≠ (v201CertificateHashData use_' pem).serialNumber) ∧
    ∀ snapshot : List (InstallCertificateUseEnumType × String), (snapshot.map (·.1)).Nodup → HashesDistinct snapshot →
      ∀ filter, Listed snapshot filter (v201GetInstalledCertificateIdsMatches filter snapshot) ∧
        ∀ entry ∈ v201GetInstalledCertificateIdsMatches filter snapshot, ∀ anchor ∈ snapshot,
          entry.certificateType = getUseOfInstallUse anchor.1 → ∀ snapshot', snapshot'.Perm snapshot →
            v201DeleteCertificateTarget entry.certificateHashData snapshot' = some anchor.1 := by
  refine ⟨fun use_ use_' pem different => v201CertificateHashData_ne different pem, ?_⟩
  intro snapshot once distinct filter
  have hashed : ∀ entry ∈ v201GetInstalledCertificateIdsMatches filter snapshot, ∀ anchor ∈ snapshot,
      entry.certificateType = getUseOfInstallUse anchor.1 →
      entry.certificateHashData = v201CertificateHashData anchor.1 anchor.2 := by
    intro entry listed anchor member typed
    obtain ⟨use_, pem, member', -, rfl⟩ := mem_installed.mp listed
    have same := List.inj_on_of_nodup_map once member' member (getUseOfInstallUse_injective typed)
    rw [← same]
  constructor
  · refine ⟨?_, ?_, hashed⟩
    · intro anchor member asked
      exact ⟨_, mem_installed.mpr ⟨anchor.1, anchor.2, member, asked, rfl⟩, rfl⟩
    · intro entry listed
      obtain ⟨use_, pem, member, -, rfl⟩ := mem_installed.mp listed
      exact ⟨(use_, pem), member, rfl⟩
  · intro entry listed anchor member typed snapshot' order
    rw [hashed entry listed anchor member typed]
    apply target_of_anchor
    · exact fun a inside a' inside' => distinct a (order.mem_iff.mp inside) a' (order.mem_iff.mp inside')
    · exact order.mem_iff.mpr member

def sharedPem : List (InstallCertificateUseEnumType × String) :=
  [(.csmsRootCertificate, "PEM"), (.moRootCertificate, "PEM")]

theorem sharedPem_resolved : v201DeleteCertificateTarget (v201CertificateHashData .moRootCertificate "PEM") sharedPem =
    some .moRootCertificate := by
  obtain ⟨-, resolves⟩ := certificate_hash_round_trip
  have distinct : HashesDistinct sharedPem := by
    intro anchor member anchor' member' different
    simp only [sharedPem, List.mem_cons, List.not_mem_nil, or_false] at member member'
    obtain rfl | rfl := member <;> obtain rfl | rfl := member' <;> exact absurd rfl different
  obtain ⟨listed, target⟩ := resolves sharedPem (by decide) distinct none
  obtain ⟨entry, inside, typed⟩ := listed.all (.moRootCertificate, "PEM") (by decide) rfl
  have hash := listed.hashed entry inside (.moRootCertificate, "PEM") (by decide) typed
  rw [← hash]
  exact target entry inside (.moRootCertificate, "PEM") (by decide) typed sharedPem (.refl _)

end Ocpp.ChargePoint
