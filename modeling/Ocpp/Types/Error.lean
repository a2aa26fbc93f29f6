import Ocpp.Library.Json

/-!
# Errors

The error codes of a CALLERROR frame with their spellings on the wire, and the error type of the
crates with the texts it prints.
-/

namespace Ocpp
open Library

inductive CallErrorCode
  | notImplemented
  | notSupported
  | internalError
  | protocolError
  | securityError
  | formationViolation
  | formatViolation
  | propertyConstraintViolation
  | occurenceConstraintViolation
  | occurrenceConstraintViolation
  | typeConstraintViolation
  | genericError
  deriving DecidableEq, Repr

namespace CallErrorCode

def asStr : CallErrorCode → String
  | notImplemented => "NotImplemented"
  | notSupported => "NotSupported"
  | internalError => "InternalError"
  | protocolError => "ProtocolError"
  | securityError => "SecurityError"
  | formationViolation => "FormationViolation"
  | formatViolation => "FormatViolation"
  | propertyConstraintViolation => "PropertyConstraintViolation"
  | occurenceConstraintViolation => "OccurenceConstraintViolation"
  | occurrenceConstraintViolation => "OccurrenceConstraintViolation"
  | typeConstraintViolation => "TypeConstraintViolation"
  | genericError => "GenericError"

def display : CallErrorCode → String
  | notImplemented => "Not implemented"
  | notSupported => "Not supported"
  | internalError => "Internal error"
  | protocolError => "Protocol error"
  | securityError => "Security error"
  | formationViolation => "Formation violation"
  | formatViolation => "Format violation"
  | propertyConstraintViolation => "Property constraint violation"
  | occurenceConstraintViolation => "Occurence constraint violation"
  | occurrenceConstraintViolation => "Occurrence constraint violation"
  | typeConstraintViolation => "Type constraint violation"
  | genericError => "Generic error"

def defaultDescription : CallErrorCode → String
  | notImplemented => "Request Action is recognized but not supported by the receiver"
  | notSupported => "Requested Action is not known by receiver"
  | internalError =>
      "An internal error occurred and the receiver was not able to process the requested Action successfully"
  | protocolError => "Payload for Action is incomplete"
  | securityError =>
      "During the processing of Action a security issue occurred preventing receiver from completing the Action successfully"
  | formatViolation | formationViolation =>
      "Payload for Action is syntactically incorrect or structure for Action"
  | propertyConstraintViolation =>
      "Payload is syntactically correct but at least one field contains an invalid value"
  | occurenceConstraintViolation | occurrenceConstraintViolation =>
      "Payload for Action is syntactically correct but at least one of the fields violates occurence constraints"
  | typeConstraintViolation =>
      "Payload for Action is syntactically correct but at least one of the fields violates data type constraints (e.g. “somestring”: 12)"
  | genericError => "Any other error not all other OCPP defined errors"

/-- The names the derived decoder knows a code by. -/
def ofVariant : String → Option CallErrorCode
  | "NotImplemented" => some notImplemented
  | "NotSupported" => some notSupported
  | "InternalError" => some internalError
  | "ProtocolError" => some protocolError
  | "SecurityError" => some securityError
  | "FormationViolation" => some formationViolation
  | "FormatViolation" => some formatViolation
  | "PropertyConstraintViolation" => some propertyConstraintViolation
  | "OccurenceConstraintViolation" => some occurenceConstraintViolation
  | "OccurrenceConstraintViolation" => some occurrenceConstraintViolation
  | "TypeConstraintViolation" => some typeConstraintViolation
  | "GenericError" => some genericError
  | _ => none

end CallErrorCode

inductive SchemaKeyword
  | type
  | maxLength
  | additionalProperties
  | required
  | other
  deriving DecidableEq, Repr

namespace SchemaKeyword

def callErrorCode : SchemaKeyword → CallErrorCode
  | type | maxLength => .typeConstraintViolation
  | required => .protocolError
  | additionalProperties | other => .formationViolation

def display : SchemaKeyword → String
  | type => "type"
  | maxLength => "maxLength"
  | additionalProperties => "additionalProperties"
  | required => "required"
  | other => "other"

end SchemaKeyword

inductive OcppError
  | invalidMessageType (value : Int)
  | invalidConnectorId (id : Int)
  | json (message : String)
  | protocolViolation (message : String)
  | validationError (message : String)
  | schemaViolation (keyword : SchemaKeyword) (message action : String)
  | transport (message : String)
  | timeout (operation : String)
  | configuration (message : String)
  | authentication (reason : String)
  | authorization (reason : String)
  | internal (message : String)
  | notSupported (feature : String)
  | notImplemented (feature : String)
  | notFound (resource : String)
  | alreadyExists (resource : String)
  | invalidState (operation state : String)
  | rateLimitExceeded (operation : String)
  | database (message : String)
  | callError (code : CallErrorCode) (description : String) (details : Json)
  | bootRejected (attempts : Nat)
  | cpNotConnected (cpId : String)

def OcppError.display : OcppError → String
  | invalidMessageType value => "Invalid message type: " ++ toString value
  | invalidConnectorId id => "Invalid connector ID: " ++ toString id ++ " (must be > 0)"
  | json message => "JSON error: " ++ message
  | protocolViolation message => "Protocol violation: " ++ message
  | validationError message => "Message validation error: " ++ message
  | schemaViolation keyword message _ =>
      "Schema validation error (" ++ keyword.display ++ "): " ++ message
  | transport message => "Transport error: " ++ message
  | timeout operation => "Operation timed out: " ++ operation
  | configuration message => "Configuration error: " ++ message
  | authentication reason => "Authentication failed: " ++ reason
  | authorization reason => "Authorization failed: " ++ reason
  | internal message => "Internal error: " ++ message
  | notSupported feature => "Feature not supported: " ++ feature
  | notImplemented feature => "Feature not implemented: " ++ feature
  | notFound resource => "Resource not found: " ++ resource
  | alreadyExists resource => "Resource already exists: " ++ resource
  | invalidState operation state =>
      "Invalid state for operation: " ++ operation ++ ", current state: " ++ state
  | rateLimitExceeded operation => "Rate limit exceeded for " ++ operation
  | database message => "Database error: " ++ message
  | callError code description _ => "CALLERROR [" ++ code.display ++ "]: " ++ description
  | bootRejected attempts =>
      "Boot rejected by central system after " ++ toString attempts ++ " attempt(s)"
  | cpNotConnected cpId => "Charge point not connected: " ++ cpId

end Ocpp
