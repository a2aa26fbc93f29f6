import Ocpp.Library.Text

/-!
# The WebSocket handshake

The two validators of a charging station's upgrade request: `ws_handler` of `server.rs`, which is given the decoded
path segment, and `validate_handshake_request` of `websocket.rs`, which reads the whole path.
-/

namespace Ocpp.Transport.Handshake

inductive StatusCode
  | badRequest
deriving DecidableEq

/-- What is handed to `handle_cp_socket`. -/
structure Upgrade where
  chargePointId : List Char
  subProtocol : List Char
deriving DecidableEq

structure Request where
  path : List Char
  secWebsocketProtocol : Option (List Char)
deriving DecidableEq

def tokens (header : List Char) : List (List Char) :=
  (header.splitOn ',').map Text.trim

def negotiateSubprotocol (header : Option (List Char)) (supported : List (List Char)) : Option (List Char) :=
  header.bind fun header =>
    let offered := (tokens header).filter (!·.isEmpty)
    supported.find? (· ∈ offered)

def wsHandler (chargePointId : List Char) (offered : Option (List Char)) (subProtocols : List (List Char)) :
    Except StatusCode Upgrade :=
  let chargePointId := Text.trim chargePointId
  if chargePointId.isEmpty || 48 < Text.byteLen chargePointId then .error .badRequest
  else
    match negotiateSubprotocol offered subProtocols with
    | none => .error .badRequest
    | some subProtocol => .ok ⟨chargePointId, subProtocol⟩

def extractChargePointId (path : List Char) : Option (List Char) :=
  let clean := (path.splitOnP fun c => c = '?' || c = '#').head?.getD path
  ((clean.splitOn '/').reverse.find? (!·.isEmpty)).map Text.trim |>.filter (!·.isEmpty)

def requestedProtocols (header : Option (List Char)) : List (List Char) :=
  (header.map tokens).getD []

def validateHandshakeRequest (request : Request) (allowedProtocols : List (List Char)) :
    Except String (Option (List Char)) :=
  match Text.stripPrefix "/ocpp/".toList request.path with
  | none => .error "Invalid path: must start with /ocpp/"
  | some remainder =>
      match extractChargePointId remainder with
      | none => .error "Invalid path: missing charge point ID"
      | some chargePointId =>
          if 20 < Text.byteLen chargePointId then .error "Invalid charge point ID: too long"
          else
            let requested := requestedProtocols request.secWebsocketProtocol
            let selectedProtocol := requested.find? (· ∈ allowedProtocols)
            if requested.isEmpty || selectedProtocol.isNone then .error "No supported subprotocol found"
            else .ok selectedProtocol

/-! ## Preference -/

section Preference

variable {α : Type*} {x y : α} {preferred others : List α}

/-- The most preferred member of one list that the other has too. -/
def Earliest (x : α) (preferred others : List α) : Prop :=
  x ∈ others ∧ ∃ before after, preferred = before ++ x :: after ∧ ∀ y ∈ before, y ∉ others

theorem earliest_iff [DecidablePred (· ∈ others)] :
    Earliest x preferred others ↔ preferred.find? (· ∈ others) = some x := by
  rw [List.find?_eq_some_iff_append]
  simp only [Earliest, decide_eq_true_eq, Bool.not_eq_true', decide_eq_false_iff_not]

theorem exists_earliest [DecidableEq α] : (∃ x, Earliest x preferred others) ↔ ∃ x ∈ preferred, x ∈ others := by
  simp only [earliest_iff, ← Option.isSome_iff_exists, List.find?_isSome, decide_eq_true_eq]

theorem Earliest.unique [DecidableEq α] (first : Earliest x preferred others) (second : Earliest y preferred others) :
    x = y := by
  rw [earliest_iff] at first second
  exact Option.some.inj (first.symm.trans second)

end Preference

/-! ## Ids -/

/-- What stands before a query and a fragment. -/
def resource (path : List Char) : List Char :=
  path.takeWhile fun c => !(c = '?' || c = '#')

/-- No character separates the text into segments, a query or a fragment. -/
def Plain (text : List Char) : Prop :=
  ∀ c ∈ ['/', '?', '#'], c ∉ text

theorem head_splitOnP {p : Char → Bool} (text : List Char) :
    (text.splitOnP p).head? = some (text.takeWhile fun c => !p c) := by
  induction text with
  | nil => rfl
  | cons c rest ih =>
      rw [List.splitOnP_cons_eq_if_modifyHead, List.takeWhile_cons]
      by_cases cut : p c
      · rw [if_pos cut, if_neg (by simp [cut])]
        rfl
      · rw [if_neg cut, if_pos (by simpa using cut), List.head?_modifyHead, ih]
        rfl

theorem extract_eq_some {path id : List Char} : extractChargePointId path = some id ↔
    id = Text.trim (Text.lastSegment (resource path)) ∧ id ≠ [] := by
  have segment := Text.lastSegment_eq (resource path)
  rw [extractChargePointId, head_splitOnP, Option.getD_some, ← resource, ← segment]
  cases ((resource path).splitOn '/').reverse.find? (!·.isEmpty) with
  | none =>
      constructor
      · intro found
        cases found
      · rintro ⟨rfl, named⟩
        exact absurd rfl named
  | some segment =>
      rw [Option.map_some, Option.filter_eq_some_iff, Option.some.injEq, Option.getD_some, eq_comm,
        Bool.not_eq_true', List.isEmpty_eq_false_iff]

theorem resource_eq_self {text : List Char} (query : '?' ∉ text) (fragment : '#' ∉ text) : resource text = text := by
  apply List.takeWhile_eq_self_iff.mpr
  intro c member
  simp only [Bool.not_eq_true', Bool.or_eq_false_iff, decide_eq_false_iff_not]
  exact ⟨fun same => query (same ▸ member), fun same => fragment (same ▸ member)⟩

theorem ne_nil_of_trim {text : List Char} (named : Text.trim text ≠ []) : text ≠ [] := by
  rintro rfl
  exact named rfl

theorem extract_route_iff {segment : List Char} (named : Text.trim segment ≠ []) :
    extractChargePointId ("/ocpp/".toList ++ segment) = some (Text.trim segment) ↔ Plain segment := by
  rw [extract_eq_some, and_iff_left named]
  constructor
  · intro same c separator member
    have solid : ∀ c ∈ ['/', '?', '#'], Text.isWhitespace c = false :=
      Text.solid_of_all (by decide)
    have inside := (Text.mem_trim (solid c separator)).mpr member
    rw [same, Text.mem_trim (solid c separator)] at inside
    obtain ⟨inside, slashless⟩ := Text.mem_lastSegment inside
    have clean := List.mem_takeWhile_imp inside
    simp only [List.mem_cons, List.not_mem_nil, or_false] at separator
    obtain rfl | rfl | rfl := separator
    · exact slashless rfl
    · cases clean
    · cases clean
  · intro plain
    have whole : resource ("/ocpp/".toList ++ segment) = "/ocpp".toList ++ '/' :: segment := by
      apply resource_eq_self
      · rw [List.mem_append, not_or]
        exact ⟨by decide, plain '?' (by decide)⟩
      · rw [List.mem_append, not_or]
        exact ⟨by decide, plain '#' (by decide)⟩
    rw [whole, Text.lastSegment_append _ (plain '/' (by decide)) (ne_nil_of_trim named)]

theorem extract_plain {segment : List Char} (plain : Plain segment) (named : Text.trim segment ≠ []) :
    extractChargePointId segment = some (Text.trim segment) := by
  rw [extract_eq_some, resource_eq_self (plain '?' (by decide)) (plain '#' (by decide)),
    Text.lastSegment_self (plain '/' (by decide))]
  exact ⟨rfl, named⟩

/-! ## Acceptance -/

section Acceptance

variable {segment : List Char} {header : Option (List Char)} {supported : List (List Char)}

def namedProtocols (header : Option (List Char)) : List (List Char) :=
  (requestedProtocols header).filter (!·.isEmpty)

theorem negotiateSubprotocol_eq_some {protocol : List Char} :
    negotiateSubprotocol header supported = some protocol ↔ Earliest protocol supported (namedProtocols header) := by
  rw [earliest_iff]
  cases header with
  | none =>
      constructor
      · intro found
        cases found
      · intro found
        cases List.find?_some found
  | some header => rfl

theorem wsHandler_eq_ok {upgrade : Upgrade} : wsHandler segment header supported = .ok upgrade ↔
    (Text.trim segment ≠ [] ∧ Text.byteLen (Text.trim segment) ≤ 48) ∧ upgrade.chargePointId = Text.trim segment ∧
      Earliest upgrade.subProtocol supported (namedProtocols header) := by
  rw [← negotiateSubprotocol_eq_some, wsHandler]
  simp only [Bool.or_eq_true, List.isEmpty_iff, decide_eq_true_eq]
  split_ifs with refused
  · refine iff_of_false (by simp) fun ⟨⟨named, short⟩, _⟩ => ?_
    obtain blank | long := refused
    · exact named blank
    · omega
  · rw [not_or, not_lt] at refused
    rw [and_iff_right refused]
    cases negotiateSubprotocol header supported with
    | none => simp
    | some protocol =>
        rw [Except.ok.injEq, Option.some.injEq]
        constructor
        · rintro rfl
          exact ⟨rfl, rfl⟩
        · obtain ⟨id, subProtocol⟩ := upgrade
          rintro ⟨rfl, rfl⟩
          rfl

theorem validateHandshakeRequest_eq_ok {selected : Option (List Char)} :
    validateHandshakeRequest ⟨"/ocpp/".toList ++ segment, header⟩ supported = .ok selected ↔
      ∃ id protocol, extractChargePointId segment = some id ∧ Text.byteLen id ≤ 20 ∧
        Earliest protocol (requestedProtocols header) supported ∧ selected = some protocol := by
  simp only [validateHandshakeRequest, Text.stripPrefix_append, earliest_iff]
  cases extractChargePointId segment with
  | none => simp
  | some id =>
      simp only [Option.some.injEq]
      split_ifs with long refused
      · refine iff_of_false (by simp) fun ⟨_, _, same, short, _⟩ => ?_
        rw [← same] at short
        omega
      · refine iff_of_false (by simp) fun ⟨_, protocol, _, _, found, _⟩ => ?_
        have offered := List.ne_nil_of_mem (List.mem_of_find?_eq_some found)
        simp [found, offered] at refused
      · simp only [Bool.or_eq_true, not_or, Option.isNone_iff_eq_none] at refused
        obtain ⟨protocol, found⟩ := Option.ne_none_iff_exists'.mp refused.2
        rw [found, Except.ok.injEq]
        constructor
        · rintro rfl
          exact ⟨id, protocol, rfl, not_lt.mp long, rfl, rfl⟩
        · rintro ⟨_, _, -, -, same, rfl⟩
          exact same

/-! ## Agreement -/

/-- Both validators accept the request or none does, with one subprotocol and one routing key. -/
structure Agree (segment : List Char) (header : Option (List Char)) (supported : List (List Char)) : Prop where
  accepted : (∃ upgrade, wsHandler segment header supported = .ok upgrade) ↔
    ∃ selected, validateHandshakeRequest ⟨"/ocpp/".toList ++ segment, header⟩ supported = .ok selected
  same : ∀ upgrade selected, wsHandler segment header supported = .ok upgrade →
    validateHandshakeRequest ⟨"/ocpp/".toList ++ segment, header⟩ supported = .ok selected →
    selected = some upgrade.subProtocol ∧
      extractChargePointId ("/ocpp/".toList ++ segment) = some upgrade.chargePointId

/-- The last segment of what stands before a query and a fragment, trimmed. -/
def lastId (segment : List Char) : List Char :=
  Text.trim (Text.lastSegment (resource segment))

def Refused (segment : List Char) (header : Option (List Char)) (supported : List (List Char)) : Prop :=
  (∀ protocol ∈ requestedProtocols header, protocol ∉ supported) ∨
    (lastId segment = [] ∨ 20 < Text.byteLen (lastId segment)) ∧
      (Text.trim segment = [] ∨ 48 < Text.byteLen (Text.trim segment) ∨
        ∀ protocol ∈ namedProtocols header, protocol ∉ supported)

/-- The segment is an id for both, and both prefer the same protocol. -/
def Shared (segment : List Char) (header : Option (List Char)) (supported : List (List Char)) : Prop :=
  (Plain segment ∧ Text.trim segment ≠ [] ∧ Text.byteLen (Text.trim segment) ≤ 20) ∧
    ∃ protocol, Earliest protocol supported (namedProtocols header) ∧
      Earliest protocol (requestedProtocols header) supported

theorem exists_wsHandler_ok : (∃ upgrade, wsHandler segment header supported = .ok upgrade) ↔
    (Text.trim segment ≠ [] ∧ Text.byteLen (Text.trim segment) ≤ 48) ∧
      ∃ protocol ∈ namedProtocols header, protocol ∈ supported := by
  constructor
  · rintro ⟨upgrade, accepted⟩
    obtain ⟨id, -, earliest⟩ := wsHandler_eq_ok.mp accepted
    obtain ⟨protocol, member, offered⟩ := exists_earliest.mp ⟨_, earliest⟩
    exact ⟨id, protocol, offered, member⟩
  · rintro ⟨id, protocol, offered, member⟩
    obtain ⟨protocol, earliest⟩ := exists_earliest.mpr ⟨protocol, member, offered⟩
    exact ⟨⟨_, protocol⟩, wsHandler_eq_ok.mpr ⟨id, rfl, earliest⟩⟩

theorem exists_validateHandshakeRequest_ok :
    (∃ selected, validateHandshakeRequest ⟨"/ocpp/".toList ++ segment, header⟩ supported = .ok selected) ↔
      (lastId segment ≠ [] ∧ Text.byteLen (lastId segment) ≤ 20) ∧
        ∃ protocol ∈ requestedProtocols header, protocol ∈ supported := by
  rw [← exists_earliest]
  constructor
  · rintro ⟨selected, accepted⟩
    obtain ⟨id, protocol, extracted, short, earliest, -⟩ := validateHandshakeRequest_eq_ok.mp accepted
    obtain ⟨rfl, named⟩ := extract_eq_some.mp extracted
    exact ⟨⟨named, short⟩, protocol, earliest⟩
  · rintro ⟨⟨named, short⟩, protocol, earliest⟩
    have extracted := extract_eq_some.mpr ⟨rfl, named⟩
    exact ⟨_, validateHandshakeRequest_eq_ok.mpr ⟨_, protocol, extracted, short, earliest, rfl⟩⟩

theorem refused_iff : Refused segment header supported ↔
    (¬∃ upgrade, wsHandler segment header supported = .ok upgrade) ∧
      ¬∃ selected, validateHandshakeRequest ⟨"/ocpp/".toList ++ segment, header⟩ supported = .ok selected := by
  rw [exists_wsHandler_ok, exists_validateHandshakeRequest_ok]
  have offered : (∃ protocol ∈ namedProtocols header, protocol ∈ supported) →
      ∃ protocol ∈ requestedProtocols header, protocol ∈ supported := by
    rintro ⟨protocol, member, known⟩
    exact ⟨protocol, List.mem_of_mem_filter member, known⟩
  have noneOf : ∀ protocols : List (List Char), (∀ protocol ∈ protocols, protocol ∉ supported) ↔
      ¬∃ protocol ∈ protocols, protocol ∈ supported := by
    intro protocols
    simp only [not_exists, not_and]
  have unnamed : (lastId segment = [] ∨ 20 < Text.byteLen (lastId segment)) ↔
      ¬(lastId segment ≠ [] ∧ Text.byteLen (lastId segment) ≤ 20) := by
    rw [not_and_or, not_not, not_le]
  have unserved : (Text.trim segment = [] ∨ 48 < Text.byteLen (Text.trim segment) ∨
      ¬∃ protocol ∈ namedProtocols header, protocol ∈ supported) ↔
      ¬((Text.trim segment ≠ [] ∧ Text.byteLen (Text.trim segment) ≤ 48) ∧
        ∃ protocol ∈ namedProtocols header, protocol ∈ supported) := by
    rw [not_and_or, not_and_or, not_not, not_le, or_assoc]
  rw [Refused, noneOf, noneOf, unnamed, unserved]
  constructor
  · rintro (none | ⟨unnamed, unserved⟩)
    · exact ⟨fun ⟨_, some_⟩ => none (offered some_), fun ⟨_, some_⟩ => none some_⟩
    · exact ⟨unserved, fun ⟨named, _⟩ => unnamed named⟩
  · rintro ⟨live, pure_⟩
    by_cases requested : ∃ protocol ∈ requestedProtocols header, protocol ∈ supported
    · exact .inr ⟨fun named => pure_ ⟨named, requested⟩, live⟩
    · exact .inl requested

theorem Shared.accepted (shared : Shared segment header supported) :
    (∃ upgrade, wsHandler segment header supported = .ok upgrade) ∧
      ∃ selected, validateHandshakeRequest ⟨"/ocpp/".toList ++ segment, header⟩ supported = .ok selected := by
  obtain ⟨⟨plain, named, short⟩, protocol, preferred, offered⟩ := shared
  constructor
  · exact ⟨⟨_, protocol⟩, wsHandler_eq_ok.mpr ⟨⟨named, by omega⟩, rfl, preferred⟩⟩
  · exact ⟨_, validateHandshakeRequest_eq_ok.mpr ⟨_, protocol, extract_plain plain named, short, offered, rfl⟩⟩

theorem shared_iff {upgrade : Upgrade} {selected : Option (List Char)}
    (live : wsHandler segment header supported = .ok upgrade)
    (pure_ : validateHandshakeRequest ⟨"/ocpp/".toList ++ segment, header⟩ supported = .ok selected) :
    Shared segment header supported ↔ selected = some upgrade.subProtocol ∧
      extractChargePointId ("/ocpp/".toList ++ segment) = some upgrade.chargePointId := by
  obtain ⟨⟨named, -⟩, key, preferred⟩ := wsHandler_eq_ok.mp live
  obtain ⟨id, protocol, extracted, short, offered, rfl⟩ := validateHandshakeRequest_eq_ok.mp pure_
  rw [key, extract_route_iff named, Option.some.injEq]
  constructor
  · rintro ⟨⟨plain, -, -⟩, protocol', preferred', offered'⟩
    rw [offered.unique offered', preferred.unique preferred']
    exact ⟨rfl, plain⟩
  · rintro ⟨rfl, plain⟩
    rw [extract_plain plain named, Option.some.injEq] at extracted
    rw [← extracted] at short
    exact ⟨⟨plain, named, short⟩, _, preferred, offered⟩

theorem validators_agree_iff : Agree segment header supported ↔
    Refused segment header supported ∨ Shared segment header supported := by
  constructor
  · intro ⟨accepted, same⟩
    by_cases live : ∃ upgrade, wsHandler segment header supported = .ok upgrade
    · obtain ⟨selected, pure_⟩ := accepted.mp live
      obtain ⟨upgrade, live⟩ := live
      exact .inr ((shared_iff live pure_).mpr (same upgrade selected live pure_))
    · exact .inl (refused_iff.mpr ⟨live, accepted.not.mp live⟩)
  · rintro (refused | shared)
    · obtain ⟨live, pure_⟩ := refused_iff.mp refused
      exact ⟨iff_of_false live pure_, fun upgrade _ accepted _ => absurd ⟨upgrade, accepted⟩ live⟩
    · obtain ⟨live, pure_⟩ := shared.accepted
      exact ⟨iff_of_true live pure_, fun _ _ accepted accepted' => (shared_iff accepted accepted').mp shared⟩

end Acceptance

/-- An id of 21 bytes is within one limit and beyond the other. -/
theorem longId_disagree : ¬Agree "CHARGE-POINT-00000001".toList (some "ocpp1.6".toList) ["ocpp1.6".toList] := by
  intro ⟨accepted, _⟩
  have live : wsHandler "CHARGE-POINT-00000001".toList (some "ocpp1.6".toList) ["ocpp1.6".toList] =
      .ok ⟨"CHARGE-POINT-00000001".toList, "ocpp1.6".toList⟩ := by
    decide +kernel
  have pure_ : validateHandshakeRequest ⟨"/ocpp/".toList ++ "CHARGE-POINT-00000001".toList, some "ocpp1.6".toList⟩
      ["ocpp1.6".toList] = .error "Invalid charge point ID: too long" := by
    decide +kernel
  obtain ⟨selected, accepted'⟩ := accepted.mp ⟨_, live⟩
  rw [pure_] at accepted'
  cases accepted'

end Ocpp.Transport.Handshake
