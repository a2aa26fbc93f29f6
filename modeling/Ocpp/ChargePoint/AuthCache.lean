import Mathlib.Algebra.Ring.Int.Defs
import Mathlib.Algebra.Ring.Nat
import Mathlib.Logic.Function.Basic
import Ocpp.ChargePoint.LocalList

/-!
# Local authorization

`auth_cache.rs` and `ChargePoint::authorize`: the local list, then the cache, then the CSMS. Calls overlap;
each step of a call that reads or writes what the calls share is a step of its own, with the reading of the
clock it takes. A `start_transaction` is its `StartTransaction` and the answer.
-/

namespace Ocpp.ChargePoint.Authorize
open Library LocalList V16j

/-- `DateTime::MAX_UTC` of `chrono`. -/
def maxUtc : DateTime :=
  ⟨8210266876799999999999⟩

/-- `Duration::from_std` of whole seconds: at most `i64::MAX` milliseconds. -/
def fromStd (secs : Nat) : Option Int :=
  if secs * 1000 ≤ 2 ^ 63 - 1 then some secs else none

def checkedAddSigned (instant : DateTime) (secs : Int) : Option DateTime :=
  if instant.addSeconds secs ≤ maxUtc then some (instant.addSeconds secs) else none

structure CachedAuth where
  idTagInfo : IdTagInfo
  expiresAt : DateTime
deriving DecidableEq

def CachedAuth.isExpiredAt (entry : CachedAuth) (now : DateTime) : Bool :=
  entry.expiresAt ≤ now

structure AuthCache where
  entries : HashMap String CachedAuth
  ttl : Nat

namespace AuthCache

def new (ttl : Nat) : AuthCache :=
  ⟨∅, ttl⟩

def get (cache : AuthCache) (idTag : String) (now : DateTime) : Option IdTagInfo :=
  (cache.entries.lookup idTag).bind fun entry => if entry.isExpiredAt now then none else some entry.idTagInfo

def getStale (cache : AuthCache) (idTag : String) : Option IdTagInfo :=
  (cache.entries.lookup idTag).map (·.idTagInfo)

/-- The `expiryDate`, or the TTL from now, saturated. -/
def expiresAt (ttl : Nat) (idTagInfo : IdTagInfo) (now : DateTime) : DateTime :=
  idTagInfo.expiryDate.getD (((fromStd ttl).bind (checkedAddSigned now)).getD maxUtc)

def insert (cache : AuthCache) (idTag : String) (idTagInfo : IdTagInfo) (now : DateTime) : AuthCache :=
  { cache with entries := cache.entries.insert idTag ⟨idTagInfo, expiresAt cache.ttl idTagInfo now⟩ }

def clear (cache : AuthCache) : AuthCache :=
  { cache with entries := ∅ }

end AuthCache

def idTagInfoExpired (info : IdTagInfo) (now : DateTime) : Bool :=
  info.expiryDate.any (· ≤ now)

/-! ## The calls -/

/-- Where a call stands: an `authorize` before and after it has consulted the list, a CALL without an answer,
an `authorize` whose answer has come and is not stored, a call given up after its CALL was sent. -/
inductive CallState
  | idle
  | authorizing (idTag : String)
  | unlisted (idTag : String)
  | asking (idTag : String)
  | answered (idTag : String) (info : IdTagInfo)
  | starting (idTag : String)
  | abandoned (idTag : String)
  | returned

/-- What the CSMS said about a tag, in the answer to which call, and when the TTL of the answer starts: when
it is cached, or when it comes. -/
structure Word where
  call : Nat
  info : IdTagInfo
  since : DateTime

structure State where
  localAuthListEnabled : Bool
  offlineAuthStaleOk : Bool
  localList : LocalAuthList
  authCache : AuthCache
  calls : Nat → CallState
  /-- The most recent answer of the CSMS for each tag, to an `Authorize` or a `StartTransaction`. -/
  lastWord : String → Option Word

def State.new (localAuthListEnabled offlineAuthStaleOk : Bool) (authCacheTtl maxLength : Nat) : State where
  localAuthListEnabled
  offlineAuthStaleOk
  localList := .withMaxLength maxLength
  authCache := .new authCacheTtl
  calls _ := .idle
  lastWord _ := none

inductive Action
  | authorize (c : Nat) (idTag : String)
  | consultList (c : Nat) (now : DateTime)
  | consultCache (c : Nat) (now : DateTime)
  | startTransaction (c : Nat) (idTag : String)
  /-- The CSMS answers the CALL of a call, in time or too late. -/
  | answer (c : Nat) (info : IdTagInfo) (now : DateTime)
  | store (c : Nat) (now : DateTime)
  | timeout (c : Nat) (now : DateTime)
  /-- The CALL fails otherwise. -/
  | fail (c : Nat)
  | sendLocalList (request : SendLocalListRequest)
  | clearCache

namespace State

variable (s : State)

def setCall (c : Nat) (state : CallState) : State :=
  { s with calls := Function.update s.calls c state }

def setWord (idTag : String) (word : Word) : State :=
  { s with lastWord := Function.update s.lastWord idTag (some word) }

def listed (idTag : String) (now : DateTime) : Option IdTagInfo :=
  if s.localAuthListEnabled then
    (s.localList.entries.lookup idTag).filter fun info => !idTagInfoExpired info now
  else none

def cached (idTag : String) (now : DateTime) : Option IdTagInfo :=
  (s.authCache.get idTag now).filter (·.status = .accepted)

def offline (idTag : String) : IdTagInfo :=
  let stale := if s.offlineAuthStaleOk then (s.authCache.getStale idTag).filter (·.status = .accepted) else none
  stale.getD ⟨.invalid, none, none⟩

/-- The answer of a call is stored, and its TTL starts. -/
def storeAnswer (c : Nat) (idTag : String) (info : IdTagInfo) (now : DateTime) : State :=
  { s with
    authCache := s.authCache.insert idTag info now
    lastWord := Function.update s.lastWord idTag
      ((s.lastWord idTag).map fun word => if word.call = c then { word with since := now } else word) }

end State

def step (s : State) : Action → Option State
  | .authorize c idTag =>
      match s.calls c with
      | .idle => some (s.setCall c (.authorizing idTag))
      | _ => none
  | .consultList c now =>
      match s.calls c with
      | .authorizing idTag =>
          some (s.setCall c (if (s.listed idTag now).isSome then .returned else .unlisted idTag))
      | _ => none
  | .consultCache c now =>
      match s.calls c with
      | .unlisted idTag =>
          some (s.setCall c (if (s.cached idTag now).isSome then .returned else .asking idTag))
      | _ => none
  | .startTransaction c idTag =>
      match s.calls c with
      | .idle => some (s.setCall c (.starting idTag))
      | _ => none
  | .answer c info now =>
      match s.calls c with
      | .asking idTag => some ((s.setWord idTag ⟨c, info, now⟩).setCall c (.answered idTag info))
      -- a `StartTransaction` answer decides the transaction and leaves the cache alone
      | .starting idTag => some ((s.setWord idTag ⟨c, info, now⟩).setCall c .returned)
      -- the receive loop drops an answer whose call is gone
      | .abandoned idTag => some ((s.setWord idTag ⟨c, info, now⟩).setCall c .returned)
      | _ => none
  | .store c now =>
      match s.calls c with
      | .answered idTag info => some ((s.storeAnswer c idTag info now).setCall c .returned)
      | _ => none
  | .timeout c _ | .fail c =>
      match s.calls c with
      | .asking idTag | .starting idTag => some (s.setCall c (.abandoned idTag))
      | _ => none
  | .sendLocalList request => (s.localList.apply request).map fun result => { s with localList := result.2 }
  | .clearCache => some { s with authCache := s.authCache.clear }

/-- What an `authorize` returns in this step without an answer of the CSMS, for which tag and when. -/
def localDecision (s : State) : Action → Option (String × DateTime × IdTagInfo)
  | .consultList c now =>
      match s.calls c with
      | .authorizing idTag => (s.listed idTag now).map (idTag, now, ·)
      | _ => none
  | .consultCache c now =>
      match s.calls c with
      | .unlisted idTag => (s.cached idTag now).map (idTag, now, ·)
      | _ => none
  | .timeout c now =>
      match s.calls c with
      | .asking idTag => some (idTag, now, s.offline idTag)
      | _ => none
  | _ => none

/-! ## The last word -/

def ListAccepts (s : State) (idTag : String) (now : DateTime) : Prop :=
  s.localAuthListEnabled ∧ ∃ info, s.localList.entries.lookup idTag = some info ∧
    info.status = .accepted ∧ idTagInfoExpired info now = false

/-- The last word for the tag is `Accepted` and its `expiryDate`, or the TTL, is not past. -/
def LastWordAccepts (s : State) (idTag : String) (now : DateTime) : Prop :=
  ∃ word, s.lastWord idTag = some word ∧ word.info.status = .accepted ∧
    now < AuthCache.expiresAt s.authCache.ttl word.info word.since

/-- An `Accepted` that comes without the CSMS does not contradict it. -/
def Agrees (s : State) (action : Action) : Prop :=
  ∀ idTag now info, localDecision s action = some (idTag, now, info) → info.status = .accepted →
    ListAccepts s idTag now ∨ LastWordAccepts s idTag now

/-- The cache holds no `Accepted` for the tag that the answer takes back or that outlives it. -/
def Outlasts (s : State) (idTag : String) (info : IdTagInfo) (since : DateTime) : Prop :=
  ∀ entry, s.authCache.entries.lookup idTag = some entry → entry.idTagInfo.status = .accepted →
    info.status = .accepted ∧ entry.expiresAt ≤ AuthCache.expiresAt s.authCache.ttl info since

/-- The last word for the tag is the answer of an `authorize` that has not stored it. -/
def Unstored (s : State) (idTag : String) : Prop :=
  ∃ word, s.lastWord idTag = some word ∧ s.calls word.call = .answered idTag word.info

/-- An answer that is not going to be stored takes no cached `Accepted` back. An answer between its coming
and its storing takes back none that is looked up meanwhile. An `Accepted` is stored only while no other
call has the last word and takes it back. -/
def Orderly (s : State) : Action → Prop
  | .answer c info now => ∀ idTag, s.calls c = .starting idTag ∨ s.calls c = .abandoned idTag →
      Outlasts s idTag info now
  | .consultCache c _ => ∀ idTag word, s.calls c = .unlisted idTag → s.lastWord idTag = some word →
      s.calls word.call = .answered idTag word.info → Outlasts s idTag word.info word.since
  | .store c now => ∀ idTag info word, s.calls c = .answered idTag info → info.status = .accepted →
      s.lastWord idTag = some word → word.call ≠ c → s.calls word.call = .returned →
      word.info.status = .accepted ∧ AuthCache.expiresAt s.authCache.ttl info now ≤
        AuthCache.expiresAt s.authCache.ttl word.info word.since
  | _ => True

/-- Every cached `Accepted` is covered by the last word, or about to be overwritten by it. -/
structure Covered (s : State) : Prop where
  strict : s.offlineAuthStaleOk = false
  entries : ∀ idTag entry, s.authCache.entries.lookup idTag = some entry →
    entry.idTagInfo.status = .accepted → Unstored s idTag ∨ ∃ word, s.lastWord idTag = some word ∧
      word.info.status = .accepted ∧ entry.expiresAt ≤ AuthCache.expiresAt s.authCache.ttl word.info word.since
  heard : ∀ idTag word, s.lastWord idTag = some word →
    s.calls word.call = .returned ∨ s.calls word.call = .answered idTag word.info
  said : ∀ c idTag info, s.calls c = .answered idTag info → (s.lastWord idTag).isSome

theorem covered_new (localAuthListEnabled : Bool) (authCacheTtl maxLength : Nat) :
    Covered (.new localAuthListEnabled false authCacheTtl maxLength) where
  strict := rfl
  entries := by simp [State.new, AuthCache.new]
  heard := by simp [State.new]
  said := by simp [State.new]

namespace Covered

variable {s t : State}

theorem agrees (inv : Covered s) {action : Action} (orderly : Orderly s action) : Agrees s action := by
  intro idTag now info decided accepted
  cases action with
  | consultList c now' =>
      left
      simp only [localDecision] at decided
      split at decided
      · obtain ⟨info', listed, same⟩ := Option.map_eq_some_iff.mp decided
        cases same
        simp only [State.listed] at listed
        split_ifs at listed with enabled
        obtain ⟨held, fresh⟩ := Option.filter_eq_some_iff.mp listed
        exact ⟨enabled, info, held, accepted, by simpa using fresh⟩
      · cases decided
  | consultCache c now' =>
      right
      simp only [localDecision] at decided
      split at decided
      case h_1 idTag' looking =>
        obtain ⟨info', cached, same⟩ := Option.map_eq_some_iff.mp decided
        cases same
        obtain ⟨found, -⟩ := Option.filter_eq_some_iff.mp cached
        obtain ⟨entry, held, fresh⟩ := Option.bind_eq_some_iff.mp found
        split_ifs at fresh with expired
        cases fresh
        have current : now < entry.expiresAt := by simpa [CachedAuth.isExpiredAt] using expired
        obtain ⟨word, said, unstored⟩ | ⟨word, said, granted, covers⟩ := inv.entries idTag entry held accepted
        · obtain ⟨granted, covers⟩ := orderly idTag word looking said unstored entry held accepted
          exact ⟨word, said, granted, current.trans_le covers⟩
        · exact ⟨word, said, granted, current.trans_le covers⟩
      case h_2 => cases decided
  | timeout c now' =>
      simp only [localDecision] at decided
      split at decided
      · cases decided
        simp [State.offline, inv.strict] at accepted
      · cases decided
  | _ => cases decided

theorem call_ne (inv : Covered s) {c : Nat} (running : s.calls c ≠ .returned)
    (unanswered : ∀ idTag info, s.calls c ≠ .answered idTag info) {idTag : String} {word : Word}
    (said : s.lastWord idTag = some word) : word.call ≠ c := by
  rintro rfl
  obtain returned | answered := inv.heard idTag word said
  · exact running returned
  · exact unanswered idTag word.info answered

theorem setCall (inv : Covered s) {c : Nat} {state : CallState} (running : s.calls c ≠ .returned)
    (unanswered : ∀ idTag info, s.calls c ≠ .answered idTag info)
    (silent : ∀ idTag info, state ≠ .answered idTag info) : Covered (s.setCall c state) := by
  have kept : ∀ {idTag word}, s.lastWord idTag = some word →
      (s.setCall c state).calls word.call = s.calls word.call :=
    fun said => Function.update_of_ne (inv.call_ne running unanswered said) ..
  constructor
  · exact inv.strict
  · intro idTag entry held accepted
    obtain ⟨word, said, unstored⟩ | covered := inv.entries idTag entry held accepted
    · exact .inl ⟨word, said, (kept said).trans unstored⟩
    · exact .inr covered
  · intro idTag word said
    rw [kept said]
    exact inv.heard idTag word said
  · intro c' idTag info answered
    by_cases same : c' = c
    · subst same
      exact absurd ((Function.update_self ..).symm.trans answered) (silent idTag info)
    · exact inv.said c' idTag info ((Function.update_of_ne same ..).symm.trans answered)

theorem of_word (inv : Covered s) (c : Nat) (idTag : String) (word : Word)
    (strict : t.offlineAuthStaleOk = s.offlineAuthStaleOk) (ttl : t.authCache.ttl = s.authCache.ttl)
    (elsewhere : ∀ idTag', idTag' ≠ idTag → t.lastWord idTag' = s.lastWord idTag' ∧
      t.authCache.entries.lookup idTag' = s.authCache.entries.lookup idTag')
    (others : ∀ c', c' ≠ c → t.calls c' = s.calls c')
    (unheard : ∀ idTag' word', idTag' ≠ idTag → s.lastWord idTag' = some word' → word'.call ≠ c)
    (unanswered : ∀ idTag' info, t.calls c = .answered idTag' info → idTag' = idTag)
    (said : t.lastWord idTag = some word)
    (heard : t.calls word.call = .returned ∨ t.calls word.call = .answered idTag word.info)
    (covered : ∀ entry, t.authCache.entries.lookup idTag = some entry → entry.idTagInfo.status = .accepted →
      t.calls word.call = .answered idTag word.info ∨ word.info.status = .accepted ∧
        entry.expiresAt ≤ AuthCache.expiresAt s.authCache.ttl word.info word.since) : Covered t where
  strict := strict.trans inv.strict
  entries idTag' entry held accepted := by
    rw [ttl]
    by_cases same : idTag' = idTag
    · subst same
      obtain unstored | granted := covered entry held accepted
      · exact .inl ⟨word, said, unstored⟩
      · exact .inr ⟨word, said, granted⟩
    · obtain ⟨unsaid, cached⟩ := elsewhere idTag' same
      rw [cached] at held
      obtain ⟨word', spoken, unstored⟩ | ⟨word', spoken, granted⟩ := inv.entries idTag' entry held accepted
      · exact .inl ⟨word', unsaid.trans spoken, (others _ (unheard idTag' word' same spoken)).trans unstored⟩
      · exact .inr ⟨word', unsaid.trans spoken, granted⟩
  heard idTag' word' spoken := by
    by_cases same : idTag' = idTag
    · subst same
      rw [said] at spoken
      cases spoken
      exact heard
    · rw [(elsewhere idTag' same).1] at spoken
      rw [others _ (unheard idTag' word' same spoken)]
      exact inv.heard idTag' word' spoken
  said c' idTag' info answered := by
    by_cases same : idTag' = idTag
    · subst same
      rw [said]
      rfl
    · have different : c' ≠ c := by
        rintro rfl
        exact same (unanswered idTag' info answered)
      rw [(elsewhere idTag' same).1]
      exact inv.said c' idTag' info ((others c' different).symm.trans answered)

theorem answer (inv : Covered s) {c : Nat} {idTag : String} {info : IdTagInfo} {now : DateTime}
    {state : CallState} (running : s.calls c ≠ .returned) (unanswered : ∀ idTag info, s.calls c ≠ .answered idTag info)
    (stored : state = .answered idTag info ∨ state = .returned ∧ Outlasts s idTag info now) :
    Covered ((s.setWord idTag ⟨c, info, now⟩).setCall c state) := by
  have own : ((s.setWord idTag ⟨c, info, now⟩).setCall c state).calls c = state := Function.update_self ..
  refine inv.of_word c idTag ⟨c, info, now⟩ rfl rfl ?_ ?_ ?_ ?_ ?_ ?_ ?_
  · exact fun idTag' other => ⟨Function.update_of_ne other .., rfl⟩
  · exact fun c' other => Function.update_of_ne other ..
  · exact fun idTag' word' _ spoken => inv.call_ne running unanswered spoken
  · intro idTag' info' answered
    rw [own] at answered
    obtain rfl | ⟨rfl, -⟩ := stored <;> cases answered
    rfl
  · exact Function.update_self ..
  · rw [own]
    obtain rfl | ⟨rfl, -⟩ := stored
    · exact .inr rfl
    · exact .inl rfl
  · intro entry held accepted
    rw [own]
    obtain rfl | ⟨rfl, outlasts⟩ := stored
    · exact .inl rfl
    · exact .inr (outlasts entry held accepted)

theorem store (inv : Covered s) {c : Nat} {idTag : String} {info : IdTagInfo} {now : DateTime}
    (answered : s.calls c = .answered idTag info)
    (orderly : info.status = .accepted → ∀ word, s.lastWord idTag = some word → word.call ≠ c →
      s.calls word.call = .returned → word.info.status = .accepted ∧
        AuthCache.expiresAt s.authCache.ttl info now ≤ AuthCache.expiresAt s.authCache.ttl word.info word.since) :
    Covered ((s.storeAnswer c idTag info now).setCall c .returned) := by
  generalize after : (s.storeAnswer c idTag info now).setCall c .returned = t
  obtain ⟨word, spoken⟩ := Option.isSome_iff_exists.mp (inv.said c idTag info answered)
  have said : t.lastWord idTag = some (if word.call = c then { word with since := now } else word) := by
    rw [← after]
    refine (Function.update_self ..).trans ?_
    rw [spoken, Option.map_some]
  have own : t.calls c = .returned := by
    rw [← after]
    exact Function.update_self ..
  have others : ∀ c', c' ≠ c → t.calls c' = s.calls c' := by
    intro c' different
    rw [← after]
    exact Function.update_of_ne different ..
  have cache : t.authCache = s.authCache.insert idTag info now := by
    rw [← after]
    rfl
  -- the call has given this one answer only
  have ownWord : ∀ {idTag' word'}, s.lastWord idTag' = some word' → word'.call = c →
      idTag' = idTag ∧ word'.info = info := by
    rintro idTag' word' spoken' rfl
    obtain returned | answered' := inv.heard idTag' word' spoken'
    · rw [answered] at returned
      cases returned
    · rw [answered] at answered'
      cases answered'
      exact ⟨rfl, rfl⟩
  apply inv.of_word c idTag (if word.call = c then { word with since := now } else word)
  · rw [← after]
    rfl
  · rw [cache]
    rfl
  · intro idTag' different
    constructor
    · rw [← after]
      exact Function.update_of_ne different ..
    · rw [cache]
      exact AList.lookup_insert_ne different
  · exact others
  · intro idTag' word' different spoken' last
    exact different (ownWord spoken' last).1
  · intro idTag' info' answered'
    rw [own] at answered'
    cases answered'
  · exact said
  · split_ifs with last
    · exact .inl (last ▸ own)
    · rw [others _ last]
      exact inv.heard idTag word spoken
  · intro entry held accepted
    rw [cache, AuthCache.insert, AList.lookup_insert] at held
    cases held
    split_ifs with last
    · obtain ⟨-, rfl⟩ := ownWord spoken last
      exact .inr ⟨accepted, le_rfl⟩
    · rw [others _ last]
      obtain returned | unstored := inv.heard idTag word spoken
      · exact .inr (orderly accepted word spoken last returned)
      · exact .inl unstored

theorem of_cache (inv : Covered s) (strict : t.offlineAuthStaleOk = s.offlineAuthStaleOk)
    (entries : t.authCache = s.authCache ∨ t.authCache = s.authCache.clear) (calls : t.calls = s.calls)
    (lastWord : t.lastWord = s.lastWord) : Covered t where
  strict := strict.trans inv.strict
  entries := by
    obtain same | cleared := entries
    · simpa only [Unstored, same, calls, lastWord] using inv.entries
    · simp [cleared, AuthCache.clear]
  heard := by simpa only [calls, lastWord] using inv.heard
  said := by simpa only [calls, lastWord] using inv.said

theorem step (inv : Covered s) {action : Action} (orderly : Orderly s action)
    (stepped : Authorize.step s action = some t) : Covered t := by
  revert stepped
  fun_cases Authorize.step s action <;> intro stepped
  case case1 c idTag idle =>
    obtain rfl := Option.some.inj stepped
    exact inv.setCall (by simp [idle]) (by simp [idle]) (by simp)
  case case3 c now idTag authorizing =>
    obtain rfl := Option.some.inj stepped
    apply inv.setCall (by simp [authorizing]) (by simp [authorizing])
    split_ifs <;> simp
  case case5 c now idTag unlisted =>
    obtain rfl := Option.some.inj stepped
    apply inv.setCall (by simp [unlisted]) (by simp [unlisted])
    split_ifs <;> simp
  case case7 c idTag idle =>
    obtain rfl := Option.some.inj stepped
    exact inv.setCall (by simp [idle]) (by simp [idle]) (by simp)
  case case9 c info now idTag asking =>
    obtain rfl := Option.some.inj stepped
    exact inv.answer (by simp [asking]) (by simp [asking]) (.inl rfl)
  case case10 c info now idTag starting =>
    obtain rfl := Option.some.inj stepped
    exact inv.answer (by simp [starting]) (by simp [starting]) (.inr ⟨rfl, orderly idTag (.inl starting)⟩)
  case case11 c info now idTag abandoned =>
    obtain rfl := Option.some.inj stepped
    exact inv.answer (by simp [abandoned]) (by simp [abandoned]) (.inr ⟨rfl, orderly idTag (.inr abandoned)⟩)
  case case13 c now idTag info answered =>
    obtain rfl := Option.some.inj stepped
    exact inv.store answered (fun accepted word => orderly idTag info word answered accepted)
  case case15 c now idTag asking =>
    obtain rfl := Option.some.inj stepped
    exact inv.setCall (by simp [asking]) (by simp [asking]) (by simp)
  case case16 c now idTag starting =>
    obtain rfl := Option.some.inj stepped
    exact inv.setCall (by simp [starting]) (by simp [starting]) (by simp)
  case case18 c idTag asking =>
    obtain rfl := Option.some.inj stepped
    exact inv.setCall (by simp [asking]) (by simp [asking]) (by simp)
  case case19 c idTag starting =>
    obtain rfl := Option.some.inj stepped
    exact inv.setCall (by simp [starting]) (by simp [starting]) (by simp)
  case case21 request =>
    obtain ⟨result, -, rfl⟩ := Option.map_eq_some_iff.mp stepped
    exact inv.of_cache rfl (.inl rfl) rfl rfl
  case case22 =>
    obtain rfl := Option.some.inj stepped
    exact inv.of_cache rfl (.inr rfl) rfl rfl
  all_goals cases stepped

end Covered

/-! ## Whole runs -/

/-- In every orderly run no local decision contradicts the last word of the CSMS. -/
theorem local_decisions_agree {localAuthListEnabled : Bool} {authCacheTtl maxLength : Nat} {actions : List Action}
    (orderly : Along step Orderly (.new localAuthListEnabled false authCacheTtl maxLength) actions) :
    Along step Agrees (.new localAuthListEnabled false authCacheTtl maxLength) actions := by
  have kept : ∀ s a t, Covered s → Orderly s a → step s a = some t → Covered t :=
    fun _ _ _ inv now stepped => inv.step now stepped
  apply orderly.of_invariant kept
  · exact fun _ _ inv now => inv.agrees now
  · exact covered_new localAuthListEnabled authCacheTtl maxLength

def granted : IdTagInfo :=
  ⟨.accepted, none, none⟩

def authorized (c : Nat) (info : IdTagInfo) : List Action :=
  [.authorize c "TAG", .consultList c ⟨0⟩, .consultCache c ⟨0⟩, .answer c info ⟨0⟩, .store c ⟨0⟩]

def startedBetween (info : IdTagInfo) : List Action :=
  authorized 0 granted ++
    [.startTransaction 1 "TAG", .answer 1 info ⟨5⟩, .authorize 2 "TAG", .consultList 2 ⟨5⟩]

theorem startedBetween_agrees :
    (∃ s, run step (.new true false 60 100) (startedBetween granted) = some s ∧
      localDecision s (.consultCache 2 ⟨5⟩) = some ("TAG", ⟨5⟩, granted)) ∧
    Along step Agrees (.new true false 60 100) (startedBetween granted ++ [.consultCache 2 ⟨5⟩]) := by
  have orderly : Along step Orderly (.new true false 60 100) (startedBetween granted ++ [.consultCache 2 ⟨5⟩]) := by
    refine .cons trivial rfl (.cons trivial rfl (.cons ?_ rfl (.cons ?_ rfl (.cons ?_ rfl ?_))))
    · intro idTag word looking said
      cases said
    · rintro idTag (starting | abandoned)
      · cases starting
      · cases abandoned
    · rintro idTag info word ⟨⟩ accepted ⟨⟩ different
      exact absurd rfl different
    · refine .cons trivial rfl (.cons ?_ rfl (.cons trivial rfl (.cons trivial rfl (.cons ?_ rfl trivial))))
      · rintro idTag (⟨⟨⟩⟩ | abandoned)
        · rintro entry ⟨⟩ accepted
          exact ⟨rfl, by decide⟩
        · cases abandoned
      · rintro idTag word ⟨⟩ ⟨⟩ answered
        cases answered
  exact ⟨⟨_, rfl, rfl⟩, local_decisions_agree orderly⟩

theorem blockedStart_contradicted :
    ¬ Along step Agrees (.new true false 60 100)
      (startedBetween ⟨.blocked, none, none⟩ ++ [.consultCache 2 ⟨5⟩]) := by
  intro agrees
  have ran : run step (.new true false 60 100) (startedBetween ⟨.blocked, none, none⟩) = some _ := rfl
  obtain ⟨-, info, held, -⟩ | ⟨word, said, accepted, -⟩ := agrees.after ran "TAG" ⟨5⟩ granted rfl rfl
  · cases held
  · cases said
    cases accepted

end Ocpp.ChargePoint.Authorize
