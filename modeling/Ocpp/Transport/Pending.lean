import Mathlib.Logic.Function.Basic
import Mathlib.Order.Bounds.Basic
import Ocpp.Library.HashMap
import Ocpp.Library.Json
import Ocpp.Library.Transition
import Ocpp.Types.Error

/-!
# Pending calls

`pending.rs`: the map from the unique id of a CALL to the sender of its `oneshot` channel, the operations
on it in any order, and the guards that prune it. A channel is named by the number of the registration
that made it. `resolve` and `reject` first take the entry out of the map and then send, so other
operations may come between the two.
-/

namespace Ocpp.Transport
open Library

abbrev Outcome := Except OcppError Json

structure PendingCallMap where
  inner : HashMap String Nat

namespace PendingCallMap

def new : PendingCallMap :=
  ⟨∅⟩

variable (map : PendingCallMap) (uniqueId : String)

def register (registration : Nat) : PendingCallMap :=
  ⟨map.inner.insert uniqueId registration⟩

def remove : PendingCallMap :=
  ⟨map.inner.erase uniqueId⟩

end PendingCallMap

def PendingCallMap.cancelAll (_ : PendingCallMap) : PendingCallMap :=
  .new

/-! ## State -/

/-- An outcome on its way to the registration it was found for, with the map and the ids registered when
the entry was taken out. -/
structure Delivery where
  uniqueId : String
  registration : Nat
  outcome : Outcome
  entries : HashMap String Nat
  registered : List String

/-- The map, the ids of all registrations so far, the guards that are alive, the operations between their
two steps, the results of the finished ones, the receivers that are alive and what they were sent. -/
structure PendingState where
  map : PendingCallMap
  registered : List String
  guards : Nat → Bool
  sending : Nat → Option Delivery
  results : Nat → Option Bool
  listening : Nat → Bool
  received : Nat → List Outcome
  deliveries : List Delivery

namespace PendingState

def new : PendingState where
  map := .new
  registered := []
  guards _ := false
  sending _ := none
  results _ := none
  listening _ := false
  received _ := []
  deliveries := []

variable (s : PendingState)

def register (uniqueId : String) (guarded : Bool) : PendingState :=
  let registration := s.registered.length
  { s with
    map := s.map.register uniqueId registration
    registered := s.registered ++ [uniqueId]
    guards := Function.update s.guards registration guarded
    listening := Function.update s.listening registration true }

def settle (operation : Nat) (uniqueId : String) (outcome : Outcome) : PendingState :=
  match s.map.inner.lookup uniqueId with
  | none => { s with results := Function.update s.results operation (some false) }
  | some registration =>
      { s with
        map := s.map.remove uniqueId
        sending := Function.update s.sending operation
          (some ⟨uniqueId, registration, outcome, s.map.inner, s.registered⟩) }

/-- A send into a channel whose receiver is gone fails. -/
def send (operation : Nat) (delivery : Delivery) : PendingState :=
  let registration := delivery.registration
  let done :=
    { s with
      sending := Function.update s.sending operation none
      results := Function.update s.results operation (some (s.listening registration)) }
  if s.listening registration then
    { done with
      received := Function.update s.received registration (s.received registration ++ [delivery.outcome])
      deliveries := s.deliveries ++ [delivery] }
  else done

end PendingState

/-! ## Steps -/

inductive PendingAction
  | register (uniqueId : String)
  | registerGuarded (uniqueId : String)
  | resolve (operation : Nat) (uniqueId : String) (payload : Json)
  | reject (operation : Nat) (uniqueId : String) (error : OcppError)
  | send (operation : Nat)
  | remove (operation : Nat) (uniqueId : String)
  | cancelAll
  | dropGuard (registration : Nat)
  | dropReceiver (registration : Nat)

def pendingStep (s : PendingState) : PendingAction → Option PendingState
  | .register uniqueId => some (s.register uniqueId false)
  | .registerGuarded uniqueId => some (s.register uniqueId true)
  | .resolve operation uniqueId payload =>
      if (s.sending operation).isNone then some (s.settle operation uniqueId (.ok payload)) else none
  | .reject operation uniqueId error =>
      if (s.sending operation).isNone then some (s.settle operation uniqueId (.error error)) else none
  | .send operation => (s.sending operation).map (s.send operation)
  | .remove operation uniqueId =>
      some { s with
        map := s.map.remove uniqueId
        results := Function.update s.results operation (some (s.map.inner.lookup uniqueId).isSome) }
  | .cancelAll => some { s with map := s.map.cancelAll }
  | .dropGuard registration =>
      match s.registered[registration]? with
      | some uniqueId =>
          if s.guards registration then
            some { s with
              map := s.map.remove uniqueId
              guards := Function.update s.guards registration false }
          else none
      | none => none
  | .dropReceiver registration =>
      some { s with listening := Function.update s.listening registration false }

theorem dropGuard_eq_some {s t : PendingState} {registration : Nat} :
    pendingStep s (.dropGuard registration) = some t ↔
      ∃ uniqueId, s.registered[registration]? = some uniqueId ∧ s.guards registration ∧
        { s with
          map := s.map.remove uniqueId
          guards := Function.update s.guards registration false } = t := by
  simp only [pendingStep]
  cases registered : s.registered[registration]? with
  | none => simp
  | some uniqueId => simp [Option.ite_none_right_eq_some]

def PendingAction.uniqueId (s : PendingState) : PendingAction → Option String
  | .register uniqueId | .registerGuarded uniqueId | .resolve _ uniqueId _ | .reject _ uniqueId _
  | .remove _ uniqueId => some uniqueId
  | .send operation => (s.sending operation).map (·.uniqueId)
  | .cancelAll => none
  | .dropGuard registration | .dropReceiver registration => s.registered[registration]?

/-! ## What is delivered -/

/-- The delivery is for the registration its id had in the map, which is the latest one of that id. -/
def Delivery.ToLatest (d : Delivery) : Prop :=
  d.entries.lookup d.uniqueId = some d.registration ∧
    IsGreatest {r | d.registered[r]? = some d.uniqueId} d.registration

/-- Every outcome is in the map, on its way or received, in one of these places only. -/
structure Correlating (s : PendingState) : Prop where
  newest : ∀ id r, s.map.inner.lookup id = some r → IsGreatest {r | s.registered[r]? = some id} r
  awaited : ∀ id r, s.map.inner.lookup id = some r → s.received r = []
  latest : ∀ o d, s.sending o = some d → d.ToLatest
  unsent : ∀ o d, s.sending o = some d → s.received d.registration = []
  taken : ∀ o d id, s.sending o = some d → s.map.inner.lookup id ≠ some d.registration
  known : ∀ o d, s.sending o = some d → d.registration < s.registered.length
  apart : ∀ o o' d d', s.sending o = some d → s.sending o' = some d' →
    d.registration = d'.registration → o = o'
  fresh : ∀ r, s.registered.length ≤ r → s.received r = []
  once : ∀ r, (s.received r).length ≤ 1
  delivered : ∀ d ∈ s.deliveries, d.ToLatest

theorem correlating_new : Correlating .new := by
  constructor <;> simp [PendingState.new, PendingCallMap.new]

namespace Correlating

variable {s t : PendingState}

theorem registered_lt (inv : Correlating s) {id : String} {r : Nat}
    (found : s.map.inner.lookup id = some r) : r < s.registered.length :=
  (List.getElem?_eq_some_iff.mp (inv.newest id r found).1).1

theorem of_fewer (inv : Correlating s)
    (fewer : ∀ id r, t.map.inner.lookup id = some r → s.map.inner.lookup id = some r)
    (registered : t.registered = s.registered) (sending : t.sending = s.sending)
    (received : t.received = s.received) (deliveries : t.deliveries = s.deliveries) :
    Correlating t where
  newest id r found := by
    rw [registered]
    exact inv.newest id r (fewer id r found)
  awaited id r found := by
    rw [received]
    exact inv.awaited id r (fewer id r found)
  latest := by
    rw [sending]
    exact inv.latest
  unsent := by
    rw [sending, received]
    exact inv.unsent
  taken o d id held found := by
    rw [sending] at held
    exact inv.taken o d id held (fewer id d.registration found)
  known := by
    rw [sending, registered]
    exact inv.known
  apart := by
    rw [sending]
    exact inv.apart
  fresh := by
    rw [registered, received]
    exact inv.fresh
  once := by
    rw [received]
    exact inv.once
  delivered := by
    rw [deliveries]
    exact inv.delivered

theorem register (inv : Correlating s) (uniqueId : String) (guarded : Bool) :
    Correlating (s.register uniqueId guarded) := by
  have entries : ∀ id r, (s.register uniqueId guarded).map.inner.lookup id = some r →
      (id = uniqueId ∧ r = s.registered.length) ∨
        (id ≠ uniqueId ∧ s.map.inner.lookup id = some r) := by
    intro id r found
    simp only [PendingState.register, PendingCallMap.register] at found
    obtain ⟨same, here⟩ | other := HashMap.lookup_insert_eq_some.mp found
    · exact .inl ⟨same, here.symm⟩
    · exact .inr other
  constructor
  case newest =>
    intro id r found
    obtain ⟨rfl, rfl⟩ | ⟨other, found⟩ := entries id r found
    · constructor
      · simp [PendingState.register]
      · intro r member
        have bound := (List.getElem?_eq_some_iff.mp member).1
        simp only [PendingState.register, List.length_append, List.length_singleton] at bound
        omega
    · have greatest := inv.newest id r found
      constructor
      · have bound := inv.registered_lt found
        simpa [PendingState.register, List.getElem?_append_left bound] using greatest.1
      · intro r' member
        apply greatest.2
        simp only [PendingState.register, Set.mem_ofPred_eq, List.getElem?_append] at member
        split_ifs at member with bound
        · exact member
        · have singled := List.getElem?_eq_some_iff.mp member
          simp at singled
          exact absurd singled.2.symm other
  case awaited =>
    intro id r found
    obtain ⟨rfl, rfl⟩ | ⟨-, found⟩ := entries id r found
    · exact inv.fresh _ le_rfl
    · exact inv.awaited id r found
  case latest => exact inv.latest
  case unsent => exact inv.unsent
  case taken =>
    intro o d id held found
    obtain ⟨-, new⟩ | ⟨-, found⟩ := entries id d.registration found
    · have bound := inv.known o d held
      omega
    · exact inv.taken o d id held found
  case known =>
    intro o d held
    have bound := inv.known o d held
    simp only [PendingState.register, List.length_append, List.length_singleton]
    omega
  case apart => exact inv.apart
  case fresh =>
    intro r bound
    simp only [PendingState.register, List.length_append, List.length_singleton] at bound
    exact inv.fresh r (by omega)
  case once => exact inv.once
  case delivered => exact inv.delivered

theorem settle (inv : Correlating s) {operation : Nat} (idle : s.sending operation = none)
    (uniqueId : String) (outcome : Outcome) : Correlating (s.settle operation uniqueId outcome) := by
  cases found : s.map.inner.lookup uniqueId with
  | none =>
      simp only [PendingState.settle, found]
      exact inv.of_fewer (fun _ _ found => found) rfl rfl rfl rfl
  | some registration =>
      simp only [PendingState.settle, found]
      have greatest := inv.newest uniqueId registration found
      have holders : ∀ o d, Function.update s.sending operation
            (some ⟨uniqueId, registration, outcome, s.map.inner, s.registered⟩) o = some d →
          (o = operation ∧ d = ⟨uniqueId, registration, outcome, s.map.inner, s.registered⟩) ∨
            (o ≠ operation ∧ s.sending o = some d) := by
        intro o d held
        by_cases same : o = operation
        · subst same
          rw [Function.update_self] at held
          exact .inl ⟨rfl, (Option.some.inj held).symm⟩
        · rw [Function.update_of_ne same] at held
          exact .inr ⟨same, held⟩
      have kept : ∀ id r, (s.map.inner.erase uniqueId).lookup id = some r →
          s.map.inner.lookup id = some r := fun _ _ => HashMap.lookup_of_erase
      constructor
      case newest => exact fun id r found => inv.newest id r (kept id r found)
      case awaited => exact fun id r found => inv.awaited id r (kept id r found)
      case latest =>
        intro o d held
        obtain ⟨-, rfl⟩ | ⟨-, held⟩ := holders o d held
        · exact ⟨found, greatest⟩
        · exact inv.latest o d held
      case unsent =>
        intro o d held
        obtain ⟨-, rfl⟩ | ⟨-, held⟩ := holders o d held
        · exact inv.awaited uniqueId registration found
        · exact inv.unsent o d held
      case taken =>
        intro o d id held left
        obtain ⟨-, rfl⟩ | ⟨-, held⟩ := holders o d held
        · -- the entry is under one id only, which is now free
          have there := (inv.newest id registration (kept id registration left)).1
          obtain rfl : id = uniqueId := Option.some.inj (there.symm.trans greatest.1)
          simp [PendingCallMap.remove] at left
        · exact inv.taken o d id held (kept id d.registration left)
      case known =>
        intro o d held
        obtain ⟨-, rfl⟩ | ⟨-, held⟩ := holders o d held
        · exact inv.registered_lt found
        · exact inv.known o d held
      case apart =>
        intro o o' d d' held held' same
        obtain ⟨here, rfl⟩ | ⟨-, held⟩ := holders o d held
        · obtain ⟨here', -⟩ | ⟨-, held'⟩ := holders o' d' held'
          · exact here.trans here'.symm
          · exact absurd (same ▸ found) (inv.taken o' d' uniqueId held')
        · obtain ⟨-, rfl⟩ | ⟨-, held'⟩ := holders o' d' held'
          · exact absurd (same ▸ found) (inv.taken o d uniqueId held)
          · exact inv.apart o o' d d' held held' same
      case fresh => exact inv.fresh
      case once => exact inv.once
      case delivered => exact inv.delivered

theorem send (inv : Correlating s) {operation : Nat} {delivery : Delivery}
    (held : s.sending operation = some delivery) : Correlating (s.send operation delivery) := by
  have holders : ∀ o d, Function.update s.sending operation none o = some d →
      o ≠ operation ∧ s.sending o = some d := by
    intro o d held
    by_cases same : o = operation
    · simp [same] at held
    · rw [Function.update_of_ne same] at held
      exact ⟨same, held⟩
  have sent : Correlating { s with
      sending := Function.update s.sending operation none
      results := Function.update s.results operation (some (s.listening delivery.registration)) } :=
    { inv with
      latest := fun o d held => inv.latest o d (holders o d held).2
      unsent := fun o d held => inv.unsent o d (holders o d held).2
      taken := fun o d id held => inv.taken o d id (holders o d held).2
      known := fun o d held => inv.known o d (holders o d held).2
      apart := fun o o' d d' held held' => inv.apart o o' d d' (holders o d held).2 (holders o' d' held').2 }
  simp only [PendingState.send]
  split_ifs with listens
  · have others : ∀ r, r ≠ delivery.registration → Function.update s.received delivery.registration
        (s.received delivery.registration ++ [delivery.outcome]) r = s.received r :=
      fun r other => Function.update_of_ne other _ _
    have empty := inv.unsent operation delivery held
    exact { sent with
      awaited := by
        intro id r found
        apply (others r _).trans (inv.awaited id r found)
        rintro rfl
        exact inv.taken operation delivery id held found
      unsent := by
        intro o d sending
        obtain ⟨other, sending⟩ := holders o d sending
        apply (others d.registration _).trans (inv.unsent o d sending)
        intro same
        exact other (inv.apart o operation d delivery sending held same)
      fresh := by
        intro r bound
        apply (others r _).trans (inv.fresh r bound)
        rintro rfl
        exact absurd (inv.known operation delivery held) (Nat.not_lt.mpr bound)
      once := by
        intro r
        by_cases same : r = delivery.registration
        · simp [same, empty]
        · have received := inv.once r
          rwa [← others r same] at received
      delivered := by
        intro d member
        obtain member | member := List.mem_append.mp member
        · exact inv.delivered d member
        · rw [List.mem_singleton.mp member]
          exact inv.latest operation delivery held }
  · exact sent

theorem step (inv : Correlating s) {action : PendingAction}
    (stepped : pendingStep s action = some t) : Correlating t := by
  cases action with
  | register uniqueId =>
      obtain rfl := Option.some.inj stepped
      exact inv.register uniqueId false
  | registerGuarded uniqueId =>
      obtain rfl := Option.some.inj stepped
      exact inv.register uniqueId true
  | resolve operation uniqueId payload =>
      obtain ⟨idle, settled⟩ := Option.ite_none_right_eq_some.mp stepped
      obtain rfl := Option.some.inj settled
      exact inv.settle (Option.isNone_iff_eq_none.mp idle) uniqueId (.ok payload)
  | reject operation uniqueId error =>
      obtain ⟨idle, settled⟩ := Option.ite_none_right_eq_some.mp stepped
      obtain rfl := Option.some.inj settled
      exact inv.settle (Option.isNone_iff_eq_none.mp idle) uniqueId (.error error)
  | send operation =>
      obtain ⟨delivery, held, rfl⟩ := Option.map_eq_some_iff.mp stepped
      exact inv.send held
  | remove operation uniqueId =>
      obtain rfl := Option.some.inj stepped
      exact inv.of_fewer (fun _ _ => HashMap.lookup_of_erase) rfl rfl rfl rfl
  | cancelAll =>
      obtain rfl := Option.some.inj stepped
      refine inv.of_fewer (fun id r found => ?_) rfl rfl rfl rfl
      simp [PendingCallMap.cancelAll, PendingCallMap.new] at found
  | dropGuard registration =>
      obtain ⟨uniqueId, -, -, rfl⟩ := dropGuard_eq_some.mp stepped
      exact inv.of_fewer (fun _ _ => HashMap.lookup_of_erase) rfl rfl rfl rfl
  | dropReceiver registration =>
      obtain rfl := Option.some.inj stepped
      exact inv.of_fewer (fun _ _ found => found) rfl rfl rfl rfl

end Correlating

/-! ## What a step affects -/

/-- A step other than `cancel_all` keeps the entries under the ids it is not about. -/
def ActsOnItsId (s : PendingState) : Prop :=
  ∀ action t id, pendingStep s action = some t → action ≠ .cancelAll → action.uniqueId s ≠ some id →
    t.map.inner.lookup id = s.map.inner.lookup id

theorem settle_lookup_ne (s : PendingState) (operation : Nat) {uniqueId id : String} (outcome : Outcome)
    (other : uniqueId ≠ id) :
    (s.settle operation uniqueId outcome).map.inner.lookup id = s.map.inner.lookup id := by
  cases found : s.map.inner.lookup uniqueId with
  | none => simp only [PendingState.settle, found]
  | some registration =>
      simp only [PendingState.settle, found]
      exact AList.lookup_erase_ne (Ne.symm other)

theorem send_map (s : PendingState) (operation : Nat) (delivery : Delivery) :
    (s.send operation delivery).map = s.map := by
  simp only [PendingState.send]
  split_ifs <;> rfl

theorem actsOnItsId (s : PendingState) : ActsOnItsId s := by
  intro action t id stepped listed other
  cases action with
  | register uniqueId =>
      obtain rfl := Option.some.inj stepped
      exact AList.lookup_insert_ne (fun same => other (congrArg some same.symm))
  | registerGuarded uniqueId =>
      obtain rfl := Option.some.inj stepped
      exact AList.lookup_insert_ne (fun same => other (congrArg some same.symm))
  | resolve operation uniqueId payload =>
      obtain ⟨-, settled⟩ := Option.ite_none_right_eq_some.mp stepped
      obtain rfl := Option.some.inj settled
      exact settle_lookup_ne s operation _ (fun same => other (congrArg some same))
  | reject operation uniqueId error =>
      obtain ⟨-, settled⟩ := Option.ite_none_right_eq_some.mp stepped
      obtain rfl := Option.some.inj settled
      exact settle_lookup_ne s operation _ (fun same => other (congrArg some same))
  | send operation =>
      obtain ⟨delivery, -, rfl⟩ := Option.map_eq_some_iff.mp stepped
      rw [send_map]
  | remove operation uniqueId =>
      obtain rfl := Option.some.inj stepped
      exact AList.lookup_erase_ne (fun same => other (congrArg some same.symm))
  | cancelAll => exact absurd rfl listed
  | dropGuard registration =>
      obtain ⟨uniqueId, registered, -, rfl⟩ := dropGuard_eq_some.mp stepped
      apply AList.lookup_erase_ne
      rintro rfl
      exact other registered
  | dropReceiver registration =>
      obtain rfl := Option.some.inj stepped
      rfl

/-! ## Guards -/

/-- The drop of a guard removes no entry of a registration other than its own. -/
def DropsOwn (s : PendingState) : Prop :=
  ∀ registration t id r, pendingStep s (.dropGuard registration) = some t →
    s.map.inner.lookup id = some r → t.map.inner.lookup id ≠ some r → r = registration

/-- No id is registered again while a guard of it is alive. -/
def Unguarded (s : PendingState) : PendingAction → Prop
  | .register uniqueId | .registerGuarded uniqueId =>
      ∀ r, s.guards r → s.registered[r]? ≠ some uniqueId
  | _ => True

/-- Under the id of a live guard there is no entry but the one of its own registration. -/
def GuardsTheirOwn (s : PendingState) : Prop :=
  ∀ registration uniqueId r, s.guards registration → s.registered[registration]? = some uniqueId →
    s.map.inner.lookup uniqueId = some r → r = registration

theorem GuardsTheirOwn.dropsOwn {s : PendingState} (inv : GuardsTheirOwn s) : DropsOwn s := by
  intro registration t id r stepped found removed
  obtain ⟨uniqueId, registered, guarded, rfl⟩ := dropGuard_eq_some.mp stepped
  by_cases same : id = uniqueId
  · exact inv registration uniqueId r guarded registered (same ▸ found)
  · exact absurd ((AList.lookup_erase_ne same).trans found) removed

theorem GuardsTheirOwn.of_fewer {s t : PendingState} (inv : GuardsTheirOwn s)
    (fewer : ∀ id r, t.map.inner.lookup id = some r → s.map.inner.lookup id = some r)
    (registered : t.registered = s.registered) (guards : ∀ r, t.guards r → s.guards r) :
    GuardsTheirOwn t := by
  intro registration uniqueId r guarded at_ found
  rw [registered] at at_
  exact inv registration uniqueId r (guards registration guarded) at_ (fewer uniqueId r found)

theorem GuardsTheirOwn.register {s : PendingState} (inv : GuardsTheirOwn s) {uniqueId : String}
    (unguarded : ∀ r, s.guards r → s.registered[r]? ≠ some uniqueId) (guarded : Bool) :
    GuardsTheirOwn (s.register uniqueId guarded) := by
  intro registration id r alive at_ found
  simp only [PendingState.register, PendingCallMap.register] at alive at_ found
  by_cases new : registration = s.registered.length
  · subst new
    obtain rfl : uniqueId = id := by simpa using at_
    rw [AList.lookup_insert] at found
    exact (Option.some.inj found).symm
  · rw [Function.update_of_ne new] at alive
    have bound := (List.getElem?_eq_some_iff.mp at_).1
    simp only [List.length_append, List.length_singleton] at bound
    rw [List.getElem?_append_left (by omega)] at at_
    have other : id ≠ uniqueId := fun same => unguarded registration alive (same ▸ at_)
    rw [AList.lookup_insert_ne other] at found
    exact inv registration id r alive at_ found

theorem settle_fewer (s : PendingState) (operation : Nat) (uniqueId : String) (outcome : Outcome)
    {id : String} {r : Nat} (found : (s.settle operation uniqueId outcome).map.inner.lookup id = some r) :
    s.map.inner.lookup id = some r := by
  by_cases same : uniqueId = id
  · subst same
    cases here : s.map.inner.lookup uniqueId with
    | none =>
        simp only [PendingState.settle, here] at found
        exact absurd found (by simp)
    | some registration =>
        simp only [PendingState.settle, here, PendingCallMap.remove, AList.lookup_erase] at found
        cases found
  · rwa [settle_lookup_ne s operation outcome same] at found

theorem settle_guards (s : PendingState) (operation : Nat) (uniqueId : String) (outcome : Outcome) :
    (s.settle operation uniqueId outcome).registered = s.registered ∧
      (s.settle operation uniqueId outcome).guards = s.guards := by
  cases found : s.map.inner.lookup uniqueId <;> simp [PendingState.settle, found]

theorem GuardsTheirOwn.settle {s : PendingState} (inv : GuardsTheirOwn s) (operation : Nat)
    (uniqueId : String) (outcome : Outcome) : GuardsTheirOwn (s.settle operation uniqueId outcome) := by
  obtain ⟨registered, guards⟩ := settle_guards s operation uniqueId outcome
  apply inv.of_fewer (fun _ _ => settle_fewer s operation uniqueId outcome) registered
  intro r guarded
  rwa [guards] at guarded

theorem GuardsTheirOwn.step {s t : PendingState} {action : PendingAction} (inv : GuardsTheirOwn s)
    (unguarded : Unguarded s action) (stepped : pendingStep s action = some t) : GuardsTheirOwn t := by
  cases action with
  | register uniqueId =>
      obtain rfl := Option.some.inj stepped
      exact inv.register unguarded false
  | registerGuarded uniqueId =>
      obtain rfl := Option.some.inj stepped
      exact inv.register unguarded true
  | resolve operation uniqueId payload =>
      obtain ⟨-, settled⟩ := Option.ite_none_right_eq_some.mp stepped
      obtain rfl := Option.some.inj settled
      exact inv.settle operation uniqueId (.ok payload)
  | reject operation uniqueId error =>
      obtain ⟨-, settled⟩ := Option.ite_none_right_eq_some.mp stepped
      obtain rfl := Option.some.inj settled
      exact inv.settle operation uniqueId (.error error)
  | send operation =>
      obtain ⟨delivery, -, rfl⟩ := Option.map_eq_some_iff.mp stepped
      simp only [PendingState.send]
      split_ifs <;> exact inv
  | remove operation uniqueId =>
      obtain rfl := Option.some.inj stepped
      exact inv.of_fewer (fun _ _ => HashMap.lookup_of_erase) rfl (fun _ alive => alive)
  | cancelAll =>
      obtain rfl := Option.some.inj stepped
      refine inv.of_fewer (fun id r found => ?_) rfl (fun _ alive => alive)
      simp [PendingCallMap.cancelAll, PendingCallMap.new] at found
  | dropGuard registration =>
      obtain ⟨uniqueId, -, -, rfl⟩ := dropGuard_eq_some.mp stepped
      refine inv.of_fewer (fun _ _ => HashMap.lookup_of_erase) rfl (fun r alive => ?_)
      by_cases same : r = registration
      · simp [same] at alive
      · exact (Function.update_of_ne same _ s.guards) ▸ alive
  | dropReceiver registration =>
      obtain rfl := Option.some.inj stepped
      exact inv

/-- A registration under a live guard of its id has its entry removed when that guard is dropped. -/
theorem reregistered_not_dropsOwn {s : PendingState} {uniqueId : String} {registration : Nat}
    (guarded : Bool) (alive : s.guards registration) (at_ : s.registered[registration]? = some uniqueId) :
    ¬ DropsOwn (s.register uniqueId guarded) := by
  intro own
  have bound := (List.getElem?_eq_some_iff.mp at_).1
  obtain ⟨t, dropped, map⟩ : ∃ t, pendingStep (s.register uniqueId guarded) (.dropGuard registration) =
      some t ∧ t.map = (s.register uniqueId guarded).map.remove uniqueId := by
    refine ⟨_, dropGuard_eq_some.mpr ⟨uniqueId, ?_, ?_, rfl⟩, rfl⟩
    · simp only [PendingState.register]
      rw [List.getElem?_append_left bound]
      exact at_
    · simp only [PendingState.register]
      rw [Function.update_of_ne (by omega)]
      exact alive
  have removed : t.map.inner.lookup uniqueId = none := by
    rw [map]
    exact AList.lookup_erase _ _
  have same := own registration t uniqueId s.registered.length dropped (AList.lookup_insert _) (by
    simp [removed])
  omega

/-! ## Whole runs -/

/-- What correlation by the map promises in a state. -/
structure Correlated (s : PendingState) : Prop where
  once : ∀ r, (s.received r).length ≤ 1
  latest : ∀ d ∈ s.deliveries, d.ToLatest
  actsOnItsId : ActsOnItsId s
  dropsOwn : DropsOwn s

theorem pending_calls_correlated {actions : List PendingAction} {s : PendingState}
    (unguarded : Along pendingStep Unguarded .new actions)
    (ran : run pendingStep .new actions = some s) : Correlated s := by
  have own : GuardsTheirOwn s := by
    refine run_invariant (fun _ _ _ => GuardsTheirOwn.step) (fun registration _ _ alive => ?_) unguarded ran
    cases alive
  have correlating : Correlating s :=
    run_invariant (fun _ _ _ inv _ stepped => inv.step stepped) correlating_new unguarded ran
  exact ⟨correlating.once, correlating.delivered, actsOnItsId s, own.dropsOwn⟩

def repeatedCalls : List PendingAction :=
  [.registerGuarded "a", .registerGuarded "b", .resolve 0 "a" .null, .send 0, .dropGuard 0,
    .registerGuarded "a", .reject 0 "a" (.transport "closed"), .cancelAll, .send 0]

theorem repeatedCalls_correlated :
    ∃ s, run pendingStep .new repeatedCalls = some s ∧ s.deliveries.map (·.registration) = [0, 2] ∧
      Correlated s := by
  have unguarded : Along pendingStep Unguarded .new repeatedCalls := by
    refine .cons ?_ rfl (.cons ?_ rfl ?_)
    · intro r alive
      cases alive
    · intro r alive registered
      match r with
      | 0 => exact absurd registered (by decide)
      | r + 1 => cases registered
    · refine .cons trivial rfl (.cons trivial rfl (.cons trivial rfl (.cons ?_ rfl ?_)))
      · intro r alive registered
        match r with
        | 0 => cases alive
        | 1 => exact absurd registered (by decide)
        | r + 2 => cases registered
      · exact .cons trivial rfl (.cons trivial rfl (.cons trivial rfl trivial))
  exact ⟨_, rfl, rfl, pending_calls_correlated unguarded rfl⟩

/-- A call under an id whose earlier guard is still alive loses its entry when that guard drops. -/
theorem reregistered_entry_dropped :
    ∃ s, run pendingStep .new [.registerGuarded "a", .register "a"] = some s ∧ ¬ Correlated s := by
  refine ⟨_, rfl, fun correlated => ?_⟩
  have same := correlated.dropsOwn 0 _ "a" 1 rfl rfl (by decide)
  cases same

end Ocpp.Transport
