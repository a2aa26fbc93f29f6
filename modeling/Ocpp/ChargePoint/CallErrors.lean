import Ocpp.Messages.SchemaValidation
import Ocpp.Transport.Reply

/-!
# CALLs a charge point refuses

`CpHandler` of `lib.rs`, which routes the CALLs of the CSMS through the dispatcher of the charge point. Its table from
errors to the codes of a CALLERROR stands beside the one of the CSMS, `build_call_error`.
-/

namespace Ocpp.ChargePoint
open Library Transport

def ocppErrorToCallerrorCode : OcppError → CallErrorCode × String
  | .notSupported feature => (.notSupported, "Action '" ++ feature ++ "' not supported")
  | .schemaViolation keyword message _ => (keyword.callErrorCode, message)
  | .validationError message => (.formationViolation, message)
  | .json message => (.formationViolation, message)
  | .protocolViolation message => (.protocolError, message)
  | e => (.internalError, e.display)

variable {η : Type}

def cpHandler (dispatcher : ActionDispatcher η) : MessageHandler η
  | state, .call call =>
      let (result, state) := dispatcher.dispatch state call
      let response :=
        match result with
        | .ok payload => Message.newCallResult call.uniqueId payload
        | .error e =>
            let (code, description) := ocppErrorToCallerrorCode e
            .newCallError call.uniqueId code description none
      (.ok (some response), state)
  | state, _ => (.ok none, state)

/-- Two frames of one kind with the unique id, and with one payload or one error code. -/
def Alike (uniqueId : String) : Message → Message → Prop
  | .callResult a, .callResult b => a.uniqueId = uniqueId ∧ b.uniqueId = uniqueId ∧ a.payload = b.payload
  | .callError a, .callError b => a.uniqueId = uniqueId ∧ b.uniqueId = uniqueId ∧ a.errorCode = b.errorCode
  | _, _ => False

def AnsweredAlike (dispatcher : ActionDispatcher η) (state : η) (call : CallMessage) : Prop :=
  ∃ frame frame', (cpHandler dispatcher state (.call call)).1 = .ok (some frame) ∧
    (dispatchHandler dispatcher state (.call call)).1 = .ok (some frame') ∧ Alike call.uniqueId frame frame'

/-- The errors of which only one of the two tables has a code. -/
def OneSided : OcppError → Prop
  | .notImplemented _ | .protocolViolation _ => True
  | _ => False

/-- Nothing the CALL meets in the dispatcher refuses it with such an error. -/
structure Unanimous (router : Router η) (state : η) (call : CallMessage) : Prop where
  unrouted : router.handlers.lookup call.action = none →
    ∀ validator ∈ router.validator, ¬validator.hasSchema call.action
  payload : ∀ route ∈ router.handlers.lookup call.action, ∀ e,
    router.validated route (·.validateCall call.action call.payload) = .error e → ¬OneSided e
  handler : ∀ route ∈ router.handlers.lookup call.action,
    router.validated route (·.validateCall call.action call.payload) = .ok () →
      ∀ e, (route.handler state call.payload call.uniqueId).1 = .error e → ¬OneSided e
  response : ∀ route ∈ router.handlers.lookup call.action,
    router.validated route (·.validateCall call.action call.payload) = .ok () →
      ∀ response, (route.handler state call.payload call.uniqueId).1 = .ok response →
        ∀ e, router.validated route (·.validateCallResult call.action response) = .error e → ¬OneSided e

theorem alike_errors_iff (uniqueId : String) (version : Option String) (e : OcppError) :
    Alike uniqueId
      (.newCallError uniqueId (ocppErrorToCallerrorCode e).1 (ocppErrorToCallerrorCode e).2 none)
      (buildCallError uniqueId e version) ↔ ¬OneSided e := by
  cases e <;> simp [Alike, Message.newCallError, ocppErrorToCallerrorCode, buildCallError, OneSided]

/-- What the dispatcher returns is answered alike, and what it refuses is if both tables have a code. -/
theorem answeredAlike_iff {dispatcher : ActionDispatcher η} {state : η} {call : CallMessage} :
    AnsweredAlike dispatcher state call ↔ ∀ e, (dispatcher.dispatch state call).1 = .error e → ¬OneSided e := by
  simp only [AnsweredAlike, cpHandler, dispatchHandler, Except.ok.injEq, Option.some.injEq, exists_eq_left']
  cases (dispatcher.dispatch state call).1 with
  | ok payload => simp [Alike, Message.newCallResult]
  | error e => simpa using alike_errors_iff call.uniqueId dispatcher.ocppVersion e

theorem unroutedActionError_oneSided {router : Router η} {action : String} :
    OneSided (router.unroutedActionError action) ↔ ∃ validator ∈ router.validator, validator.hasSchema action := by
  rw [Router.unroutedActionError]
  cases router.validator with
  | none => simp [OneSided]
  | some validator => cases known : validator.hasSchema action <;> simp [OneSided, known]

theorem unanimous_iff {router : Router η} {state : η × List SpawnedHook} {call : CallMessage} :
    Unanimous router state.1 call ↔ ∀ e, (router.dispatch state call).1 = .error e → ¬OneSided e := by
  constructor
  · intro unanimous e refused
    obtain ⟨absent, rfl⟩ | ⟨route, routed, refused⟩ := Router.dispatch_eq_error.mp refused
    · rw [unroutedActionError_oneSided]
      rintro ⟨validator, attached, known⟩
      exact unanimous.unrouted absent validator attached known
    · obtain refused | ⟨passed, refused | ⟨response, responded, refused⟩⟩ := refused
      · exact unanimous.payload route routed e refused
      · exact unanimous.handler route routed passed e refused
      · exact unanimous.response route routed passed response responded e refused
  · intro coded
    constructor
    · intro absent validator attached known
      apply coded _ (Router.dispatch_eq_error.mpr (.inl ⟨absent, rfl⟩))
      exact unroutedActionError_oneSided.mpr ⟨validator, attached, known⟩
    · intro route routed e refused
      exact coded e (Router.dispatch_eq_error.mpr (.inr ⟨route, routed, .inl refused⟩))
    · intro route routed passed e refused
      exact coded e (Router.dispatch_eq_error.mpr (.inr ⟨route, routed, .inr ⟨passed, .inl refused⟩⟩))
    · intro route routed passed response responded e refused
      exact coded e (Router.dispatch_eq_error.mpr
        (.inr ⟨route, routed, .inr ⟨passed, .inr ⟨response, responded, refused⟩⟩⟩))

/-- The two parties answer a CALL alike if and only if nothing refuses it with an error that one table leaves out. -/
theorem answered_alike_iff (router : Router η) (state : η × List SpawnedHook) (call : CallMessage) :
    AnsweredAlike (routedDispatcher router) state call ↔ Unanimous router state.1 call :=
  answeredAlike_iff.trans unanimous_iff.symm

/-- An action of the version without a handler, and a handler that finds the protocol violated. -/
theorem refusals_differ :
    ¬AnsweredAlike (routedDispatcher Router.unhandled) ((), []) ⟨.call, "1", "Reset", .object []⟩ ∧
    ¬AnsweredAlike (routedDispatcher
        ⟨(∅ : HashMap _ _).insert "Reset" ⟨fun _ _ _ => (.error (.protocolViolation "out of order"), ()), true⟩, [],
          none⟩) ((), []) ⟨.call, "1", "Reset", .object []⟩ := by
  constructor
  · intro alike
    exact answeredAlike_iff.mp alike (.notImplemented "Reset") rfl trivial
  · intro alike
    exact answeredAlike_iff.mp alike (.protocolViolation "out of order") rfl trivial

end Ocpp.ChargePoint
