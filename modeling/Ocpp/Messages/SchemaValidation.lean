import Ocpp.Messages.Dispatcher

/-!
# The bundled schemas

`schema_validation.rs`: the schemas of a version are keyed by name, `X` for the request of an action and `XResponse`
for its response, in one map. The dispatcher asks that map whether it knows an action it has no handler for. The run
of a schema over a payload is a parameter.
-/

namespace Ocpp
open Library

/-- The schemas of a version: of every action its request and its response. -/
structure SchemaTexts where
  ocppVersion : String
  actions : List String
  requests : ∀ action ∈ actions, ¬"Response".toList <:+ action.toList

namespace SchemaTexts

def v16j : SchemaTexts where
  ocppVersion := "1.6"
  actions :=
    ["Authorize", "BootNotification", "CancelReservation", "CertificateSigned", "ChangeAvailability",
     "ChangeConfiguration", "ClearCache", "ClearChargingProfile", "DataTransfer", "DeleteCertificate",
     "DiagnosticsStatusNotification", "ExtendedTriggerMessage", "FirmwareStatusNotification", "GetCompositeSchedule",
     "GetConfiguration", "GetDiagnostics", "GetInstalledCertificateIds", "GetLocalListVersion", "GetLog",
     "Heartbeat", "InstallCertificate", "LogStatusNotification", "MeterValues", "RemoteStartTransaction",
     "RemoteStopTransaction", "ReserveNow", "Reset", "SecurityEventNotification", "SendLocalList",
     "SetChargingProfile", "SignCertificate", "SignedFirmwareStatusNotification", "SignedUpdateFirmware",
     "StartTransaction", "StatusNotification", "StopTransaction", "TriggerMessage", "UnlockConnector",
     "UpdateFirmware"]
  requests := by decide +kernel

def v201 : SchemaTexts where
  ocppVersion := "2.0.1"
  actions :=
    ["BootNotification", "GetVariables", "SetVariables", "Heartbeat", "StatusNotification", "Authorize",
     "TransactionEvent", "Reset", "RequestStartTransaction", "MeterValues", "RequestStopTransaction", "ClearCache",
     "GetLocalListVersion", "ChangeAvailability", "UnlockConnector", "TriggerMessage", "DataTransfer", "ReserveNow",
     "CancelReservation", "SendLocalList", "FirmwareStatusNotification", "LogStatusNotification",
     "SecurityEventNotification", "SetChargingProfile", "GetTransactionStatus", "ReservationStatusUpdate",
     "CostUpdated", "ClearedChargingLimit", "PublishFirmwareStatusNotification", "PublishFirmware", "GetBaseReport",
     "GetReport", "UnpublishFirmware", "GetMonitoringReport", "NotifyMonitoringReport", "SetMonitoringBase",
     "ClearVariableMonitoring", "SetVariableMonitoring", "ClearChargingProfile", "GetCompositeSchedule",
     "UpdateFirmware", "SetMonitoringLevel", "SignCertificate", "ClearDisplayMessage", "CertificateSigned",
     "InstallCertificate", "DeleteCertificate", "GetInstalledCertificateIds", "SetDisplayMessage",
     "GetDisplayMessages", "GetCertificateStatus", "GetLog", "NotifyDisplayMessages", "GetChargingProfiles",
     "ReportChargingProfiles", "NotifyChargingLimit", "NotifyEvent", "NotifyReport", "NotifyCustomerInformation",
     "CustomerInformation", "NotifyEVChargingSchedule", "Get15118EVCertificate", "NotifyEVChargingNeeds",
     "SetNetworkProfile"]
  requests := by decide +kernel

variable (texts : SchemaTexts)

def names : List String :=
  texts.actions.flatMap fun action => [action, action ++ "Response"]

def getSchema (key : String) : Except OcppError String :=
  if key ∈ texts.names then .ok key else .error (.notSupported ("JSON schema for '" ++ key ++ "'"))

/-- `runValidation` is given the name of the schema, the payload and the action named in an error. -/
def validator (runValidation : String → Json → String → Except OcppError Unit) : SchemaValidator where
  ocppVersion := texts.ocppVersion
  hasSchema action := action ∈ texts.names
  validateCall action payload := (texts.getSchema action).bind fun schema => runValidation schema payload action
  validateCallResult action payload :=
    (texts.getSchema (action ++ "Response")).bind fun schema => runValidation schema payload action

/-- The action has a schema for its request and one for its response. -/
def RequestAction (action : String) : Prop :=
  action ∈ texts.names ∧ action ++ "Response" ∈ texts.names

def ResponseName (name : String) : Prop :=
  ∃ action ∈ texts.actions, name = action ++ "Response"

variable {texts}

theorem mem_names {name : String} : name ∈ texts.names ↔ name ∈ texts.actions ∨ texts.ResponseName name := by
  simp only [names, List.mem_flatMap, List.mem_cons, List.not_mem_nil, or_false, ResponseName]
  constructor
  · rintro ⟨action, member, rfl | response⟩
    · exact Or.inl member
    · exact Or.inr ⟨action, member, response⟩
  · rintro (member | ⟨action, member, response⟩)
    · exact ⟨name, member, Or.inl rfl⟩
    · exact ⟨action, member, Or.inr response⟩

theorem response_not_action (name : String) : name ++ "Response" ∉ texts.actions := by
  intro member
  apply texts.requests _ member
  rw [String.toList_append]
  exact List.suffix_append _ _

theorem requestAction_iff {action : String} : texts.RequestAction action ↔ action ∈ texts.actions := by
  constructor
  · rintro ⟨-, response⟩
    rcases mem_names.mp response with member | ⟨base, member, same⟩
    · exact absurd member (response_not_action action)
    · rw [String.append_left_inj] at same
      rwa [same]
  · intro member
    exact ⟨mem_names.mpr (Or.inl member), mem_names.mpr (Or.inr ⟨action, member, rfl⟩)⟩

end SchemaTexts

namespace Router

variable {η : Type}

/-- A CALL is answered `NotImplemented` for the request actions and `NotSupported` for all else. -/
def Classified (texts : SchemaTexts) (action : String) (answer : Except OcppError Json) : Prop :=
  (answer = .error (.notImplemented action) ↔ texts.RequestAction action) ∧
    (¬texts.RequestAction action → answer = .error (.notSupported action))

theorem dispatch_unrouted (router : Router η) (state : η × List SpawnedHook) (call : CallMessage)
    (unrouted : router.handlers.lookup call.action = none) :
    router.dispatch state call = (.error (router.unroutedActionError call.action), state) := by
  simp only [dispatch, unrouted]

theorem unroutedActionError_bundled (router : Router η) {texts : SchemaTexts}
    {runValidation : String → Json → String → Except OcppError Unit}
    (bundled : router.validator = some (texts.validator runValidation)) (action : String) :
    router.unroutedActionError action =
      if action ∈ texts.names then .notImplemented action else .notSupported action := by
  simp [unroutedActionError, bundled, SchemaTexts.validator]

/-- An action without a handler is classified as the version defines it exactly when it is not the name of a
response. -/
theorem dispatch_classified_iff (router : Router η) (texts : SchemaTexts)
    (runValidation : String → Json → String → Except OcppError Unit) (state : η × List SpawnedHook)
    (call : CallMessage) (bundled : router.validator = some (texts.validator runValidation))
    (unrouted : router.handlers.lookup call.action = none) :
    Classified texts call.action (router.dispatch state call).1 ↔ ¬texts.ResponseName call.action := by
  rw [dispatch_unrouted router state call unrouted, unroutedActionError_bundled router bundled]
  simp only [Classified, SchemaTexts.requestAction_iff]
  constructor
  · rintro ⟨implemented, -⟩ response
    have known : call.action ∈ texts.names := SchemaTexts.mem_names.mpr (Or.inr response)
    rw [if_pos known] at implemented
    have action : call.action ∈ texts.actions := implemented.mp rfl
    obtain ⟨base, -, same⟩ := response
    rw [same] at action
    exact SchemaTexts.response_not_action base action
  · intro request
    have known : call.action ∈ texts.names ↔ call.action ∈ texts.actions := by
      rw [SchemaTexts.mem_names, or_iff_left request]
    simp only [known]
    by_cases action : call.action ∈ texts.actions <;> simp [action]

def unhandled : Router Unit where
  handlers := ∅
  afterHooks := []
  validator := some (SchemaTexts.v16j.validator fun _ _ _ => .ok ())

theorem unhandled_reset_classified :
    Classified .v16j "Reset" (unhandled.dispatch ((), []) ⟨.call, "1", "Reset", .object []⟩).1 := by
  apply (dispatch_classified_iff unhandled .v16j (fun _ _ _ => .ok ()) ((), [])
    ⟨.call, "1", "Reset", .object []⟩ rfl rfl).mpr
  rintro ⟨base, -, same⟩
  have action : "Reset" ∈ SchemaTexts.v16j.actions := by decide +kernel
  have same : "Reset" = base ++ "Response" := same
  rw [same] at action
  exact SchemaTexts.response_not_action base action

/-- The name of a response is answered as an action of the version. -/
theorem unhandled_response_implemented :
    (unhandled.dispatch ((), []) ⟨.call, "1", "BootNotificationResponse", .object []⟩).1 =
        .error (.notImplemented "BootNotificationResponse") ∧
      ¬SchemaTexts.v16j.RequestAction "BootNotificationResponse" := by
  constructor
  · rfl
  · rw [SchemaTexts.requestAction_iff]
    decide +kernel

end Router

end Ocpp
