import Ocpp.Messages.V16j
import Ocpp.Types.Message

/-!
# Transport events and message handlers

The events the server reports to its host, the handlers it hands inbound messages to, and the handler
that routes CALLs through an action dispatcher and answers a refused one with a CALLERROR.
-/

namespace Ocpp.Transport
open Library V16j

inductive TransportEvent
  | connected (connectionId : Nat) (remoteAddr : String)
  | disconnected (connectionId : Nat) (reason : String)
  | messageReceived (connectionId : Nat) (message : Message)
  | statusNotification (cpId : String) (connectorId : Int) (status : ChargePointStatus)
  | transactionStarted (cpId : String) (connectorId : Int) (idTag : String) (meterStart : Int)
      (timestamp : DateTime) (transactionId : Int)
  | transactionStopped (cpId : String) (transactionId meterStop : Int) (timestamp : DateTime)
      (reason : Option Reason) (idTag : Option String)
  | meterValues (cpId : String) (connectorId : Int) (transactionId : Option Int)
      (meterValues : List MeterValue)
  | bootNotification (cpId vendor model : String) (serialNumber firmwareVersion : Option String)

def TransportEvent.Semantic : TransportEvent → Prop
  | statusNotification .. | transactionStarted .. | transactionStopped .. | meterValues ..
  | bootNotification .. => True
  | connected .. | disconnected .. | messageReceived .. => False

/-- A handler with its state: an error, no response, or a response. -/
def MessageHandler (η : Type) := η → Message → Except OcppError (Option Message) × η

def buildCallError (uniqueId : String) (error : OcppError) (ocppVersion : Option String) : Message :=
  match error with
  | .notImplemented feature =>
      .newCallError uniqueId .notImplemented CallErrorCode.notImplemented.defaultDescription
        (some (.object [("cause", .string ("No handler for " ++ feature ++ " registered."))]))
  | .notSupported feature =>
      .newCallError uniqueId .notSupported CallErrorCode.notSupported.defaultDescription
        (some (.object [("cause", .string
          (match ocppVersion with
          | some version => feature ++ " not supported by OCPP" ++ version ++ "."
          | none => feature ++ " not supported by receiver."))]))
  | .schemaViolation keyword message action =>
      .newCallError uniqueId keyword.callErrorCode error.display
        (some (match keyword with
          | .required => .object [("cause", .string message)]
          | _ => .object [("action", .string action), ("cause", .string message)]))
  | .validationError _ | .json _ => .newCallError uniqueId .formationViolation error.display none
  | _ => .newCallError uniqueId .internalError error.display none

/-- An action dispatcher: the payload of the response to a CALL, or the error it is refused with. -/
structure ActionDispatcher (η : Type) where
  ocppVersion : Option String
  dispatch : η → CallMessage → Except OcppError Json × η

def dispatchHandler {η : Type} (dispatcher : ActionDispatcher η) : MessageHandler η
  | state, .call call =>
      let (result, state) := dispatcher.dispatch state call
      let response :=
        match result with
        | .ok payload => Message.newCallResult call.uniqueId payload
        | .error e => buildCallError call.uniqueId e dispatcher.ocppVersion
      (.ok (some response), state)
  | state, _ => (.ok none, state)

end Ocpp.Transport
