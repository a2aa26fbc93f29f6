import Ocpp.Library.Text

/-!
# PEM certificates

The shape a charging station asks of a certificate it is given: the PEM armour and something between its
lines.
-/

namespace Ocpp

def isArmored (certificate : String) : Bool :=
  let trimmed := Text.trim certificate.toList
  !trimmed.isEmpty && Text.contains trimmed "-----BEGIN".toList && Text.contains trimmed "-----END".toList

def hasBody (certificate : String) : Bool :=
  let trimmed := Text.trim certificate.toList
  (Text.lines trimmed).map Text.trim
    |>.filter (fun line => !line.isEmpty && !"-----".toList.isPrefixOf line)
    |>.any (!·.isEmpty)

inductive InstallCertificateStatusEnumType
  | accepted
  | rejected
  | failed
deriving DecidableEq

def v201InstallCertificateStatus (certificate : String) : InstallCertificateStatusEnumType :=
  if !isArmored certificate then .rejected
  else if hasBody certificate then .accepted
  else .failed

inductive CertificateSignedStatusEnumType
  | accepted
  | rejected
deriving DecidableEq

def v201CertificateSignedStatus (certificateChain : String) : CertificateSignedStatusEnumType :=
  if !isArmored certificateChain then .rejected
  else if hasBody certificateChain then .accepted
  else .rejected

/-! ## Key material -/

namespace Certificate

def beginMarker : List Char := "-----BEGIN".toList
def endMarker : List Char := "-----END".toList
def dashes : List Char := "-----".toList

/-- An END marker comes after a BEGIN marker. -/
def Armored (certificate : List Char) : Prop :=
  ∃ inner, beginMarker ++ inner ++ endMarker <:+: certificate

/-- Some line is neither blank nor an armor line. -/
def BodyLine (text : List Char) : Prop :=
  ∃ line ∈ Text.nonblankLines text, ¬ dashes <+: line

/-- What stands between the first dashes after a BEGIN marker, where its armor ends, and a later END marker has a
line that is neither blank nor an armor line. -/
def KeyMaterial (certificate : List Char) : Prop :=
  ∃ label body, beginMarker ++ label ++ dashes ++ body ++ endMarker <:+: certificate ∧
    ¬ dashes <:+: label ++ dashes.dropLast ∧ BodyLine body

/-- A certificate is accepted for the key material between its markers and rejected for want of markers. -/
def StatusExact (certificate : String) : Prop :=
  (v201InstallCertificateStatus certificate = .accepted ↔ KeyMaterial certificate.toList) ∧
    (v201InstallCertificateStatus certificate = .rejected ↔ ¬ Armored certificate.toList) ∧
    (v201CertificateSignedStatus certificate = .accepted ↔ v201InstallCertificateStatus certificate = .accepted)

theorem armored_of_keyMaterial {certificate : List Char} (held : KeyMaterial certificate) : Armored certificate := by
  obtain ⟨label, body, inside, -⟩ := held
  refine ⟨label ++ dashes ++ body, ?_⟩
  simpa only [List.append_assoc] using inside

theorem markers_of_armored {certificate : List Char} (held : Armored certificate) :
    beginMarker <:+: certificate ∧ endMarker <:+: certificate := by
  obtain ⟨inner, inside⟩ := held
  constructor
  · rw [List.append_assoc] at inside
    exact (List.prefix_append _ _).isInfix.trans inside
  · exact (List.suffix_append _ _).isInfix.trans inside

theorem isArmored_iff (certificate : String) :
    isArmored certificate ↔ beginMarker <:+: certificate.toList ∧ endMarker <:+: certificate.toList := by
  have trimmed : ∀ marker ∈ [beginMarker, endMarker], (Text.contains (Text.trim certificate.toList) marker ↔
      marker <:+: certificate.toList) := by
    intro marker member
    rw [← Text.contains_iff]
    apply Text.contains_trim
    · apply Text.solid_of_all
      revert marker
      decide
    · revert marker
      decide
  have first := trimmed beginMarker (by decide)
  have second := trimmed endMarker (by decide)
  simp only [isArmored, Bool.and_eq_true, Bool.not_eq_true', List.isEmpty_eq_false_iff]
  rw [← first, ← second, and_assoc]
  refine and_iff_right_of_imp fun ⟨inside, _⟩ none => ?_
  rw [none] at inside
  revert inside
  decide

theorem hasBody_iff (certificate : String) : hasBody certificate ↔ BodyLine certificate.toList := by
  rw [BodyLine, ← Text.nonblankLines_trim]
  simp only [hasBody, Text.nonblankLines, List.any_eq_true, List.mem_filter, Bool.and_eq_true, Bool.not_eq_true',
    ← Bool.not_eq_true, List.isPrefixOf_iff_prefix]
  constructor
  · rintro ⟨line, ⟨member, nonblank, body⟩, -⟩
    exact ⟨line, ⟨member, nonblank⟩, body⟩
  · rintro ⟨line, ⟨member, nonblank⟩, body⟩
    exact ⟨line, ⟨member, nonblank, body⟩, nonblank⟩

/-- The statuses look for the markers and for a line between them anywhere in the text. -/
theorem statusExact_iff (certificate : String) : StatusExact certificate ↔
    ¬(beginMarker <:+: certificate.toList ∧ endMarker <:+: certificate.toList ∧ ¬Armored certificate.toList) ∧
    ¬(Armored certificate.toList ∧ BodyLine certificate.toList ∧ ¬KeyMaterial certificate.toList) ∧
    ¬(KeyMaterial certificate.toList ∧ ¬BodyLine certificate.toList) := by
  have armor := isArmored_iff certificate
  have body := hasBody_iff certificate
  have ordered := fun held : KeyMaterial certificate.toList => armored_of_keyMaterial held
  have marked := fun held : Armored certificate.toList => markers_of_armored held
  rw [StatusExact, v201InstallCertificateStatus, v201CertificateSignedStatus]
  generalize isArmored certificate = armored at armor ⊢
  generalize hasBody certificate = withBody at body ⊢
  generalize (beginMarker <:+: certificate.toList) = begins at armor marked ⊢
  generalize (endMarker <:+: certificate.toList) = ends at armor marked ⊢
  generalize Armored certificate.toList = inOrder at ordered marked ⊢
  generalize BodyLine certificate.toList = line at body ⊢
  generalize KeyMaterial certificate.toList = key at ordered ⊢
  cases armored <;> cases withBody <;> simp at armor body ⊢ <;> tauto

/-- The one BEGIN marker comes last, and the text that is accepted stands before it. -/
theorem reversed_accepted : ¬ StatusExact
    "-----END CERTIFICATE-----\nMIIBkTCB+w==\n-----BEGIN CERTIFICATE-----" := by
  intro exact_
  have accepted : v201InstallCertificateStatus
      "-----END CERTIFICATE-----\nMIIBkTCB+w==\n-----BEGIN CERTIFICATE-----" = .accepted := by
    decide +kernel
  obtain ⟨inner, before, after, shown⟩ := armored_of_keyMaterial (exact_.1.mp accepted)
  have tails : ∀ t ∈ "-----END CERTIFICATE-----\nMIIBkTCB+w==\n-----BEGIN CERTIFICATE-----".toList.tails,
      beginMarker <+: t → ¬ endMarker <:+: t.drop beginMarker.length := by
    decide +kernel
  apply tails (beginMarker ++ (inner ++ endMarker ++ after))
  · rw [List.mem_tails, ← shown]
    exact ⟨before, by simp only [List.append_assoc]⟩
  · exact List.prefix_append _ _
  · rw [List.drop_left]
    exact ⟨inner, after, rfl⟩

end Certificate

end Ocpp
