import Ocpp.Library.HashMap
import Ocpp.Types.Message

/-!
# The action dispatcher

`dispatcher.rs`: a CALL is routed by its action, its payload and its response are validated unless the
route skips it, and an after-hook is spawned once the response has passed.
-/

namespace Ocpp
open Library

structure SchemaValidator where
  ocppVersion : String
  hasSchema : String → Bool
  validateCall : String → Json → Except OcppError Unit
  validateCallResult : String → Json → Except OcppError Unit

structure Route (η : Type) where
  handler : η → Json → String → Except OcppError Json × η
  skipValidation : Bool

/-- An after-hook handed to the runtime, with what it was called with. -/
structure SpawnedHook where
  action : String
  payload : Json
  response : Json
  uniqueId : String

structure Router (η : Type) where
  handlers : HashMap String (Route η)
  afterHooks : List String
  validator : Option SchemaValidator

namespace Router

variable {η : Type} (router : Router η)

def ocppVersion : Option String :=
  router.validator.map (·.ocppVersion)

def unroutedActionError (action : String) : OcppError :=
  if router.validator.any (·.hasSchema action) then .notImplemented action else .notSupported action

def validated (route : Route η) (check : SchemaValidator → Except OcppError Unit) :
    Except OcppError Unit :=
  match router.validator with
  | some validator => if route.skipValidation then .ok () else check validator
  | none => .ok ()

def dispatch (state : η × List SpawnedHook) (call : CallMessage) :
    Except OcppError Json × (η × List SpawnedHook) :=
  match router.handlers.lookup call.action with
  | none => (.error (router.unroutedActionError call.action), state)
  | some route =>
      match router.validated route (·.validateCall call.action call.payload) with
      | .error e => (.error e, state)
      | .ok () =>
          match route.handler state.1 call.payload call.uniqueId with
          | (.error e, inner) => (.error e, (inner, state.2))
          | (.ok response, inner) =>
              match router.validated route (·.validateCallResult call.action response) with
              | .error e => (.error e, (inner, state.2))
              | .ok () =>
                  let hook : SpawnedHook := ⟨call.action, call.payload, response, call.uniqueId⟩
                  (.ok response,
                    (inner, if call.action ∈ router.afterHooks then state.2 ++ [hook] else state.2))

/-! ## Typed handlers -/

/-- An `OcppAction` with the serde implementations of the request and of its response. -/
structure Typed where
  actionName : String
  Request : Type
  Response : Type
  fromValue : Json → Except String Request
  toValue : Response → Except String Json

/-- The handler over JSON values that a typed handler is stored as. -/
def Typed.erase (action : Typed) (handler : η → action.Request → Except OcppError action.Response × η) (state : η)
    (raw : Json) (_uniqueId : String) : Except OcppError Json × η :=
  match action.fromValue raw with
  | .error message => (.error (.json message), state)
  | .ok request =>
      match handler state request with
      | (.error e, state) => (.error e, state)
      | (.ok response, state) => ((action.toValue response).mapError .json, state)

/-- `on` registers with `skipValidation` false, `on_skip_validation` with true. -/
def register (action : Typed) (handler : η → action.Request → Except OcppError action.Response × η)
    (skipValidation : Bool) : Router η :=
  { router with handlers := router.handlers.insert action.actionName ⟨action.erase handler, skipValidation⟩ }

/-- Whatever the handler, the CALL fails with `Json` and leaves the state as it is. -/
def FailsBeforeHandler (action : Typed) (state : η × List SpawnedHook) (call : CallMessage) : Prop :=
  ∃ message, ∀ handler, (router.register action handler false).dispatch state call = (.error (.json message), state)

variable {router} {action : Typed} {handler : η → action.Request → Except OcppError action.Response × η}
  {state : η × List SpawnedHook} {call : CallMessage}

/-- A CALL is refused because it is not routed, by a check of its payload, by its handler, or by a check of what the
handler responds. -/
theorem dispatch_eq_error {e : OcppError} : (router.dispatch state call).1 = .error e ↔
    (router.handlers.lookup call.action = none ∧ router.unroutedActionError call.action = e) ∨
    ∃ route, router.handlers.lookup call.action = some route ∧
      (router.validated route (·.validateCall call.action call.payload) = .error e ∨
        router.validated route (·.validateCall call.action call.payload) = .ok () ∧
          ((route.handler state.1 call.payload call.uniqueId).1 = .error e ∨
            ∃ response, (route.handler state.1 call.payload call.uniqueId).1 = .ok response ∧
              router.validated route (·.validateCallResult call.action response) = .error e)) := by
  rw [dispatch]
  cases routed : router.handlers.lookup call.action with
  | none => simp
  | some route =>
      cases checked : router.validated route (·.validateCall call.action call.payload) with
      | error refused => simp [checked]
      | ok _ =>
          cases handled : route.handler state.1 call.payload call.uniqueId with
          | mk answer inner =>
              cases answer with
              | error refused => simp [checked, handled]
              | ok response =>
                  cases passed : router.validated route (·.validateCallResult call.action response) with
                  | error refused => simp [checked, handled, passed]
                  | ok _ => simp [checked, handled, passed]

theorem validated_eq_ok {route : Route η} {check : SchemaValidator → Except OcppError Unit}
    (passes : ∀ validator ∈ router.validator, check validator = .ok ()) : router.validated route check = .ok () := by
  rw [validated]
  split
  next validator found =>
    split_ifs
    · rfl
    · exact passes validator found
  next => rfl

theorem dispatch_register_error (routed : call.action = action.actionName)
    (passes : ∀ validator ∈ router.validator, validator.validateCall call.action call.payload = .ok ())
    {e : OcppError} {inner : η} (failed : action.erase handler state.1 call.payload call.uniqueId = (.error e, inner)) :
    (router.register action handler false).dispatch state call = (.error e, (inner, state.2)) := by
  have found : (router.register action handler false).handlers.lookup call.action =
      some ⟨action.erase handler, false⟩ := by
    rw [routed]
    exact AList.lookup_insert _
  have checked : (router.register action handler false).validated ⟨action.erase handler, false⟩
      (·.validateCall call.action call.payload) = .ok () := validated_eq_ok passes
  simp only [dispatch, found, checked, failed]

theorem failsBeforeHandler_iff (routed : call.action = action.actionName)
    (passes : ∀ validator ∈ router.validator, validator.validateCall call.action call.payload = .ok ()) :
    router.FailsBeforeHandler action state call ↔ ∃ message, action.fromValue call.payload = .error message := by
  constructor
  · rintro ⟨message, fails⟩
    cases read : action.fromValue call.payload with
    | error message' => exact ⟨message', rfl⟩
    | ok request =>
        -- a handler that fails in another way
        have reached : action.erase (fun inner _ => (.error (.timeout ""), inner)) state.1 call.payload call.uniqueId =
            (.error (.timeout ""), state.1) := by
          rw [Typed.erase, read]
        have failed := fails fun inner _ => (.error (.timeout ""), inner)
        rw [dispatch_register_error routed passes reached] at failed
        cases failed
  · rintro ⟨message, unread⟩
    refine ⟨message, fun handler => ?_⟩
    apply dispatch_register_error routed passes
    rw [Typed.erase, unread]

end Router

end Ocpp
