import Ocpp.ChargePoint.Commands
import Ocpp.ChargePoint.V201DeviceModel
import Ocpp.Library.Iterator
import Ocpp.Library.Outbox
import Ocpp.Library.Registers
import Ocpp.Library.Transition

/-!
# Display messages of a 2.0.1 station

`v201_display_message.rs` and the handlers of `lib.rs` over it. A `SetDisplayMessage` reads the transactions that run
before it installs its message, and what a `GetDisplayMessages` finds is sent page by page by the command consumer.
-/

namespace Ocpp.ChargePoint
open Library

inductive MessageFormatEnumType
  | ascii
  | html
  | uri
  | utf8
deriving DecidableEq

inductive MessagePriorityEnumType
  | alwaysFront
  | inFront
  | normalCycle
deriving DecidableEq

inductive MessageStateEnumType
  | charging
  | faulted
  | idle
  | unavailable
deriving DecidableEq

inductive DisplayMessageStatusEnumType
  | accepted
  | notSupportedMessageFormat
  | rejected
  | notSupportedPriority
  | notSupportedState
  | unknownTransaction
deriving DecidableEq

inductive GetDisplayMessagesStatusEnumType
  | accepted
  | unknown
deriving DecidableEq

inductive ClearMessageStatusEnumType
  | accepted
  | unknown
deriving DecidableEq

structure MessageContentType where
  format : MessageFormatEnumType
  content : String
  language : Option String
  customData : Option CustomDataType
deriving DecidableEq

structure MessageInfoType where
  id : Int
  priority : MessagePriorityEnumType
  message : MessageContentType
  state : Option MessageStateEnumType
  startDateTime : Option String
  endDateTime : Option String
  transactionId : Option String
  display : Option ComponentType
  customData : Option CustomDataType
deriving DecidableEq

structure GetDisplayMessagesRequest where
  requestId : Int
  id : Option (List Int)
  priority : Option MessagePriorityEnumType
  state : Option MessageStateEnumType
deriving DecidableEq

structure NotifyDisplayMessagesRequest where
  requestId : Int
  messageInfo : Option (List MessageInfoType)
  tbc : Option Bool
deriving DecidableEq

def noTransaction : StatusInfoType where
  reasonCode := "NoTransaction"
  additionalInfo :=
    "SetDisplayMessage.message.transactionId does not name a transaction the station is currently running"

def v201SetDisplayMessageStatus (message : MessageInfoType) (liveTransactionIds : List String) :
    DisplayMessageStatusEnumType × Option StatusInfoType :=
  match message.transactionId with
  | some transactionId =>
      if transactionId ∈ liveTransactionIds then (.accepted, none) else (.unknownTransaction, some noTransaction)
  | none => (.accepted, none)

def MessageInfoType.matches_ (message : MessageInfoType) (req : GetDisplayMessagesRequest) : Bool :=
  req.id.all (message.id ∈ ·) && req.priority.all (· = message.priority) &&
    req.state.all fun state => message.state.all (· = state)

def v201GetDisplayMessagesMatches (req : GetDisplayMessagesRequest) (installed : List MessageInfoType) :
    List MessageInfoType :=
  installed.filter (·.matches_ req)

def v201GetDisplayMessagesResponse (matched : Bool) : GetDisplayMessagesStatusEnumType :=
  if matched then .accepted else .unknown

def v201ClearDisplayMessageResponse (removed : Bool) : ClearMessageStatusEnumType :=
  if removed then .accepted else .unknown

def v201NotifyDisplayMessagesPages (requestId : Int) (matched : List MessageInfoType) :
    List NotifyDisplayMessagesRequest :=
  let ordered := sortByKey (·.id) matched
  let last := ordered.length - 1
  ordered.mapIdx fun i message =>
    { requestId, messageInfo := some [message], tbc := if i < last then some true else none }

/-- The store, the transactions that run, the messages that handlers are about to install, and the command channel with
its consumer. The writes to the store and the queued commands are a record. -/
structure DisplayMessages where
  byId : HashMap Int MessageInfoType
  activeTransactions : List Int
  installing : Nat → Option MessageInfoType
  commands : Outbox (Int × List MessageInfoType) NotifyDisplayMessagesRequest
  writes : List (Int × Option MessageInfoType)
  queued : List (Int × List MessageInfoType)

namespace DisplayMessages

def new : DisplayMessages where
  byId := ∅
  activeTransactions := []
  installing := fun _ => none
  commands := .new
  writes := []
  queued := []

/-- The messages of `snapshot`, whose order is that of a walk over the map. -/
def snapshot (s : DisplayMessages) : List MessageInfoType :=
  s.byId.entries.map (·.2)

def setDisplayMessage (s : DisplayMessages) (message : MessageInfoType) :
    DisplayMessageStatusEnumType × Option StatusInfoType :=
  v201SetDisplayMessageStatus message (s.activeTransactions.map toString)

def install (s : DisplayMessages) (message : MessageInfoType) : DisplayMessages :=
  { s with byId := s.byId.insert message.id message, writes := s.writes ++ [(message.id, some message)] }

def getDisplayMessages (s : DisplayMessages) (req : GetDisplayMessagesRequest) (installed : List MessageInfoType) :
    GetDisplayMessagesStatusEnumType × DisplayMessages :=
  let matched := v201GetDisplayMessagesMatches req installed
  (v201GetDisplayMessagesResponse !matched.isEmpty,
    if !matched.isEmpty && s.commands.running then
      { s with
        commands := s.commands.enqueue (req.requestId, matched)
        queued := s.queued ++ [(req.requestId, matched)] }
    else s)

def clearDisplayMessage (s : DisplayMessages) (id : Int) : ClearMessageStatusEnumType × DisplayMessages :=
  (v201ClearDisplayMessageResponse (s.byId.lookup id).isSome,
    { s with byId := s.byId.erase id, writes := s.writes ++ [(id, none)] })

def pages (job : Int × List MessageInfoType) : List NotifyDisplayMessagesRequest :=
  v201NotifyDisplayMessagesPages job.1 job.2

inductive Action
  | transactions (activeTransactions : List Int)
  | setDisplayMessage (h : Nat) (message : MessageInfoType)
  | install (h : Nat)
  | getDisplayMessages (req : GetDisplayMessagesRequest) (installed : List MessageInfoType)
  | clearDisplayMessage (id : Int)
  | dequeue
  | call
  | stop

def step (s : DisplayMessages) : Action → Option DisplayMessages
  | .transactions activeTransactions => some { s with activeTransactions }
  | .setDisplayMessage h message =>
      if s.installing h = none then
        if (s.setDisplayMessage message).1 = .accepted then
          some { s with installing := Function.update s.installing h (some message) }
        else some s
      else none
  | .install h =>
      (s.installing h).map fun message =>
        { s.install message with installing := Function.update s.installing h none }
  | .getDisplayMessages req installed =>
      if installed.Perm s.snapshot then some (s.getDisplayMessages req installed).2 else none
  | .clearDisplayMessage id => some (s.clearDisplayMessage id).2
  | .dequeue =>
      if s.commands.running then
        (s.commands.take fun _ => pages).map fun commands => { s with commands }
      else none
  | .call => s.commands.send.map fun commands => { s with commands }
  | .stop => some { s with commands := s.commands.stop }

/-! ## What is reported -/

/-- The messages in the pages are those that are installed and match, by ascending id, one to a page; all pages but the
last are to be continued. -/
structure ReportExact (s : DisplayMessages) (req : GetDisplayMessagesRequest)
    (pages : List NotifyDisplayMessagesRequest) : Prop where
  complete : ∀ message, message ∈ pages.flatMap (·.messageInfo.getD []) ↔
    s.byId.lookup message.id = some message ∧ message.matches_ req
  ascending : (pages.flatMap (·.messageInfo.getD [])).Pairwise (·.id < ·.id)
  formed : ∀ i page, pages[i]? = some page → page.requestId = req.requestId ∧
    (∃ message, page.messageInfo = some [message]) ∧ page.tbc = if i + 1 < pages.length then some true else none

/-- The command that a `GetDisplayMessages` queues. -/
def reported (s : DisplayMessages) : Action → Option (Int × List MessageInfoType)
  | .getDisplayMessages req installed =>
      if (s.getDisplayMessages req installed).1 = .accepted ∧ s.commands.running then
        some (req.requestId, v201GetDisplayMessagesMatches req installed)
      else none
  | _ => none

/-- A `SetDisplayMessage` with the message was accepted: its transaction, if it names one, was running. -/
def Accepts (message : MessageInfoType) (s : DisplayMessages) (action : Action) : Prop :=
  (∃ h, action = .setDisplayMessage h message) ∧
    ∀ transactionId ∈ message.transactionId, ∃ id ∈ s.activeTransactions, toString id = transactionId

/-- A `GetDisplayMessages` has found what the command reports. -/
def Finds (job : Int × List MessageInfoType) (s : DisplayMessages) (action : Action) : Prop :=
  ∃ req installed, action = .getDisplayMessages req installed ∧ job.1 = req.requestId ∧ ReportExact s req (pages job)

/-- The store holds for each id what was written last, every message in it was accepted, an answer tells whether there
is a match, each report tells exactly what matched, and the reports are sent in the order of their requests. -/
structure Displayed (actions : List Action) (s : DisplayMessages) : Prop where
  stored : ∀ id, s.byId.lookup id = (lastWrite s.writes id).join
  accepted : ∀ id message, s.byId.lookup id = some message → message.id = id ∧
    Occurred step new (Accepts message) actions
  answered : ∀ req installed, installed.Perm s.snapshot → ((s.getDisplayMessages req installed).1 = .accepted ↔
    ∃ message, s.byId.lookup message.id = some message ∧ message.matches_ req)
  queued : s.queued = collect step reported new actions
  exact_ : ∀ job ∈ s.queued, Occurred step new (Finds job) actions
  sent : s.commands.sent <+: s.queued.flatMap pages
  drained : s.commands.running → s.commands.waiting = [] → s.commands.left = [] →
    s.commands.sent = s.queued.flatMap pages

variable {s t : DisplayMessages} {req : GetDisplayMessagesRequest} {installed : List MessageInfoType}

/-! ### One report -/

theorem flatMap_mapIdx {α β : Type*} {f : Nat → α → β} {g : β → List α} (single : ∀ i x, g (f i x) = [x])
    (xs : List α) : (xs.mapIdx f).flatMap g = xs := by
  induction xs generalizing f with
  | nil => rfl
  | cons x xs ih =>
      rw [List.mapIdx_cons, List.flatMap_cons, single, ih fun i => single (i + 1)]
      rfl

theorem pages_messages (requestId : Int) (matched : List MessageInfoType) :
    (v201NotifyDisplayMessagesPages requestId matched).flatMap (·.messageInfo.getD []) = sortByKey (·.id) matched :=
  flatMap_mapIdx (fun _ _ => rfl) _

theorem pages_formed {requestId : Int} {matched : List MessageInfoType} {i : Nat} {page : NotifyDisplayMessagesRequest}
    (present : (v201NotifyDisplayMessagesPages requestId matched)[i]? = some page) :
    page.requestId = requestId ∧ (∃ message, page.messageInfo = some [message]) ∧
      page.tbc = if i + 1 < (v201NotifyDisplayMessagesPages requestId matched).length then some true else none := by
  rw [v201NotifyDisplayMessagesPages, List.getElem?_mapIdx] at present
  obtain ⟨message, -, rfl⟩ := Option.map_eq_some_iff.mp present
  refine ⟨rfl, ⟨message, rfl⟩, ?_⟩
  rw [v201NotifyDisplayMessagesPages, List.length_mapIdx]
  simp only [Nat.lt_sub_iff_add_lt]

section Snapshot

variable (keyed : ∀ id message, s.byId.lookup id = some message → message.id = id)
include keyed

theorem mem_snapshot {message : MessageInfoType} :
    message ∈ s.snapshot ↔ s.byId.lookup message.id = some message := by
  rw [snapshot, List.mem_map]
  constructor
  · rintro ⟨⟨id, _⟩, member, rfl⟩
    have held := HashMap.mem_entries.mp member
    rwa [keyed id _ held]
  · intro held
    exact ⟨⟨message.id, message⟩, HashMap.mem_entries.mpr held, rfl⟩

theorem snapshot_ids : s.snapshot.map (·.id) = s.byId.keys := by
  rw [snapshot, List.map_map, AList.keys, List.keys]
  apply List.map_congr_left
  rintro ⟨id, message⟩ member
  exact keyed id message (HashMap.mem_entries.mp member)

theorem mem_matches (walk : installed.Perm s.snapshot) {message : MessageInfoType} :
    message ∈ v201GetDisplayMessagesMatches req installed ↔
      s.byId.lookup message.id = some message ∧ message.matches_ req := by
  rw [v201GetDisplayMessagesMatches, List.mem_filter, walk.mem_iff, mem_snapshot keyed]

theorem report_exact (walk : installed.Perm s.snapshot) :
    ReportExact s req (pages (req.requestId, v201GetDisplayMessagesMatches req installed)) where
  complete := by
    intro message
    rw [pages, pages_messages, (sortByKey_perm _ _).mem_iff, mem_matches keyed walk]
  ascending := by
    rw [pages, pages_messages]
    have distinct : ((sortByKey (·.id) (v201GetDisplayMessagesMatches req installed)).map (·.id)).Nodup := by
      rw [((sortByKey_perm _ _).map _).nodup_iff]
      have ids : (installed.map (·.id)).Nodup := by
        rw [(walk.map _).nodup_iff, snapshot_ids keyed]
        exact s.byId.keys_nodup
      exact ids.sublist (List.filter_sublist.map _)
    exact ((sortByKey_sorted _ _).and (List.pairwise_map.mp distinct)).imp fun ⟨le, ne⟩ => lt_of_le_of_ne le ne
  formed := fun _ _ present => pages_formed present

theorem response_accepted_iff (walk : installed.Perm s.snapshot) :
    (s.getDisplayMessages req installed).1 = .accepted ↔
      ∃ message, s.byId.lookup message.id = some message ∧ message.matches_ req := by
  rw [← exists_congr fun message => mem_matches keyed walk]
  cases matched : v201GetDisplayMessagesMatches req installed <;>
    simp [getDisplayMessages, v201GetDisplayMessagesResponse, matched]

end Snapshot

/-! ### Runs -/

theorem lookup_written {writes : List (Int × Option MessageInfoType)} (id k : Int) (w : Option MessageInfoType) :
    (lastWrite (writes ++ [(k, w)]) id).join = if id = k then w else (lastWrite writes id).join := by
  rw [lastWrite_append, lastWrite_singleton]
  split_ifs <;> simp

/-- What the handlers have left in the store and are about to put there. -/
structure Kept (actions : List Action) (s : DisplayMessages) : Prop where
  stored : ∀ id, s.byId.lookup id = (lastWrite s.writes id).join
  accepted : ∀ id message, s.byId.lookup id = some message → message.id = id ∧
    Occurred step new (Accepts message) actions
  installing : ∀ h message, s.installing h = some message → Occurred step new (Accepts message) actions
  exact_ : ∀ job ∈ s.queued, Occurred step new (Finds job) actions
  follows : Outbox.Follows (fun _ => pages) s.queued s.commands

theorem kept_new : Kept [] new where
  stored := fun _ => rfl
  accepted := fun id message held => by cases held
  installing := fun h message held => by cases held
  exact_ := fun job member => absurd member List.not_mem_nil
  follows := Outbox.follows_new

theorem update_eq_some {α : Type*} {f : Nat → Option α} {h h' : Nat} {w : Option α} {x : α}
    (held : Function.update f h w h' = some x) : w = some x ∨ f h' = some x := by
  by_cases own : h' = h
  · rw [own, Function.update_self] at held
    exact .inl held
  · rw [Function.update_of_ne own] at held
    exact .inr held

theorem accepted_live {message : MessageInfoType} (accepted : (s.setDisplayMessage message).1 = .accepted) :
    ∀ transactionId ∈ message.transactionId, ∃ id ∈ s.activeTransactions, toString id = transactionId := by
  intro transactionId named
  rw [setDisplayMessage, v201SetDisplayMessageStatus, Option.mem_def.mp named] at accepted
  by_cases live : transactionId ∈ s.activeTransactions.map toString
  · exact List.mem_map.mp live
  · simp [live] at accepted

namespace Kept

variable {actions : List Action}

theorem snoc (kept : Kept actions s) (action : Action) : Kept (actions ++ [action]) s where
  stored := kept.stored
  accepted := fun id message held => (kept.accepted id message held).imp_right (·.snoc action)
  installing := fun h message held => (kept.installing h message held).snoc action
  exact_ := fun job member => (kept.exact_ job member).snoc action
  follows := kept.follows

theorem hold (kept : Kept actions s) {message : MessageInfoType} (accepts : Occurred step new (Accepts message) actions)
    (h : Nat) : Kept actions { s with installing := Function.update s.installing h (some message) } where
  stored := kept.stored
  accepted := kept.accepted
  installing := by
    intro h' message' held
    obtain own | before := update_eq_some held
    · exact Option.some.inj own ▸ accepts
    · exact kept.installing h' message' before
  exact_ := kept.exact_
  follows := kept.follows

theorem install (kept : Kept actions s) {message : MessageInfoType} {h : Nat}
    (held : s.installing h = some message) :
    Kept actions { s.install message with installing := Function.update s.installing h none } where
  stored := by
    intro id
    show (s.byId.insert message.id message).lookup id = _
    rw [HashMap.lookup_insert, kept.stored]
    exact (lookup_written id message.id (some message)).symm
  accepted := by
    intro id message' found
    obtain ⟨rfl, rfl⟩ | ⟨-, before⟩ := HashMap.lookup_insert_eq_some.mp found
    · exact ⟨rfl, kept.installing h _ held⟩
    · exact kept.accepted id message' before
  installing := by
    intro h' message' other
    obtain own | before := update_eq_some other
    · cases own
    · exact kept.installing h' message' before
  exact_ := kept.exact_
  follows := kept.follows

theorem clear (kept : Kept actions s) (id : Int) : Kept actions (s.clearDisplayMessage id).2 where
  stored := by
    intro id'
    show (s.byId.erase id).lookup id' = _
    rw [HashMap.lookup_erase, kept.stored]
    exact (lookup_written id' id none).symm
  accepted := fun id' message found => kept.accepted id' message (HashMap.lookup_of_erase found)
  installing := kept.installing
  exact_ := kept.exact_
  follows := kept.follows

theorem queue (kept : Kept actions s) {job : Int × List MessageInfoType}
    (finds : Occurred step new (Finds job) actions) (running : s.commands.running) :
    Kept actions { s with commands := s.commands.enqueue job, queued := s.queued ++ [job] } where
  stored := kept.stored
  accepted := kept.accepted
  installing := kept.installing
  exact_ := by
    intro job' member
    obtain before | own := List.mem_append.mp member
    · exact kept.exact_ job' before
    · exact List.mem_singleton.mp own ▸ finds
  follows := kept.follows.enqueue running job

theorem consumer (kept : Kept actions s) {commands : Outbox (Int × List MessageInfoType) NotifyDisplayMessagesRequest}
    (follows : Outbox.Follows (fun _ => pages) s.queued commands) : Kept actions { s with commands } where
  stored := kept.stored
  accepted := kept.accepted
  installing := kept.installing
  exact_ := kept.exact_
  follows := follows

theorem step {before : List Action} {action : Action} (ran : run step new before = some s) (kept : Kept before s)
    (stepped : s.step action = some t) : Kept (before ++ [action]) t := by
  have later := kept.snoc action
  cases action with
  | transactions activeTransactions =>
      obtain rfl := Option.some.inj stepped
      exact ⟨later.stored, later.accepted, later.installing, later.exact_, later.follows⟩
  | setDisplayMessage h message =>
      simp only [DisplayMessages.step] at stepped
      split_ifs at stepped with idle accepted
      · obtain rfl := Option.some.inj stepped
        exact later.hold (occurred_last ran ⟨⟨h, rfl⟩, accepted_live accepted⟩) h
      · obtain rfl := Option.some.inj stepped
        exact later
  | install h =>
      obtain ⟨message, held, rfl⟩ := Option.map_eq_some_iff.mp stepped
      exact later.install held
  | getDisplayMessages req installed =>
      simp only [DisplayMessages.step] at stepped
      split_ifs at stepped with walk
      obtain rfl := Option.some.inj stepped
      simp only [getDisplayMessages]
      split_ifs with found
      · have keyed := fun id message held => (kept.accepted id message held).1
        exact later.queue (occurred_last ran ⟨req, installed, rfl, rfl, report_exact keyed walk⟩)
          ((Bool.and_eq_true _ _).mp found).2
      · exact later
  | clearDisplayMessage id =>
      obtain rfl := Option.some.inj stepped
      exact later.clear id
  | dequeue =>
      simp only [DisplayMessages.step] at stepped
      split_ifs at stepped with running
      obtain ⟨commands, took, rfl⟩ := Option.map_eq_some_iff.mp stepped
      exact later.consumer (later.follows.take running took)
  | call =>
      obtain ⟨commands, sent, rfl⟩ := Option.map_eq_some_iff.mp stepped
      exact later.consumer (later.follows.send sent)
  | stop =>
      obtain rfl := Option.some.inj stepped
      exact later.consumer later.follows.stop

end Kept

theorem step_queued {action : Action} (stepped : step s action = some t) :
    t.queued = s.queued ++ (s.reported action).toList := by
  cases action with
  | getDisplayMessages req installed =>
      simp only [step] at stepped
      split_ifs at stepped
      obtain rfl := Option.some.inj stepped
      cases matched : v201GetDisplayMessagesMatches req installed <;> by_cases running : s.commands.running <;>
        simp [getDisplayMessages, reported, v201GetDisplayMessagesResponse, matched, running]
  | setDisplayMessage h message =>
      simp only [step] at stepped
      split_ifs at stepped
      all_goals
        obtain rfl := Option.some.inj stepped
        exact (List.append_nil _).symm
  | install h =>
      obtain ⟨message, -, rfl⟩ := Option.map_eq_some_iff.mp stepped
      exact (List.append_nil _).symm
  | dequeue =>
      simp only [step] at stepped
      split_ifs at stepped
      obtain ⟨commands, -, rfl⟩ := Option.map_eq_some_iff.mp stepped
      exact (List.append_nil _).symm
  | call =>
      obtain ⟨commands, -, rfl⟩ := Option.map_eq_some_iff.mp stepped
      exact (List.append_nil _).symm
  | transactions _ | clearDisplayMessage _ | stop =>
      obtain rfl := Option.some.inj stepped
      exact (List.append_nil _).symm

theorem messages_displayed {actions : List Action} (ran : run step new actions = some s) : Displayed actions s := by
  have kept : Kept actions s := run_history kept_new (fun _ _ _ _ ran kept stepped => kept.step ran stepped) ran
  have keyed := fun id message held => (kept.accepted id message held).1
  refine ⟨kept.stored, kept.accepted, fun req installed walk => response_accepted_iff keyed walk, ?_, kept.exact_,
    ?_, fun running waiting left => ?_⟩
  · exact run_collect DisplayMessages.queued (fun _ _ _ => step_queued) ran
  · rw [← Outbox.replay_stateless pages []]
    exact kept.follows.sent_initial
  · rw [← Outbox.replay_stateless pages []]
    exact kept.follows.drained running waiting left

def welcome (id : Int) (transactionId : Option String) : MessageInfoType :=
  ⟨id, .normalCycle, ⟨.utf8, "Welcome", none, none⟩, none, none, none, transactionId, none, none⟩

def everything (requestId : Int) : GetDisplayMessagesRequest :=
  ⟨requestId, none, none, none⟩

/-- The second message is installed after its transaction has ended. -/
def lateMessage : List Action :=
  [.transactions [7], .setDisplayMessage 0 (welcome 2 none), .setDisplayMessage 1 (welcome 1 (some "7")),
    .setDisplayMessage 2 (welcome 3 (some "8")), .install 0, .transactions [], .install 1,
    .getDisplayMessages (everything 5) [welcome 1 (some "7"), welcome 2 none], .clearDisplayMessage 1, .dequeue]

theorem lateMessage_displayed : ∃ s, run step new lateMessage = some s ∧
    s.queued = [(5, [welcome 1 (some "7"), welcome 2 none])] ∧ s.byId.lookup 1 = none ∧ Displayed lateMessage s :=
  ⟨_, rfl, rfl, rfl, messages_displayed rfl⟩

end DisplayMessages

end Ocpp.ChargePoint
