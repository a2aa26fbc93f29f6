import Ocpp.Messages.V16j

/-!
# Serialised requests

The serialisers that are derived for the requests of 1.6J. A timestamp is printed by `chrono`.
-/

namespace Ocpp.V16j
open Library

/-! ## Enumerations -/

def ChargePointStatus.toVariant : ChargePointStatus → String
  | .available => "Available"
  | .preparing => "Preparing"
  | .charging => "Charging"
  | .suspendedEV => "SuspendedEV"
  | .suspendedEVSE => "SuspendedEVSE"
  | .finishing => "Finishing"
  | .reserved => "Reserved"
  | .faulted => "Faulted"
  | .unavailable => "Unavailable"

def ChargePointErrorCode.toVariant : ChargePointErrorCode → String
  | .connectorLockFailure => "ConnectorLockFailure"
  | .evCommunicationError => "EVCommunicationError"
  | .groundFailure => "GroundFailure"
  | .highTemperature => "HighTemperature"
  | .internalError => "InternalError"
  | .localListConflict => "LocalListConflict"
  | .noError => "NoError"
  | .otherError => "OtherError"
  | .overCurrentFailure => "OverCurrentFailure"
  | .overVoltage => "OverVoltage"
  | .powerMeterFailure => "PowerMeterFailure"
  | .powerSwitchFailure => "PowerSwitchFailure"
  | .readerFailure => "ReaderFailure"
  | .resetFailure => "ResetFailure"
  | .underVoltage => "UnderVoltage"
  | .weakSignal => "WeakSignal"

def Reason.toVariant : Reason → String
  | .emergencyStop => "EmergencyStop"
  | .evDisconnected => "EVDisconnected"
  | .hardReset => "HardReset"
  | .local => "Local"
  | .other => "Other"
  | .powerLoss => "PowerLoss"
  | .reboot => "Reboot"
  | .remote => "Remote"
  | .softReset => "SoftReset"
  | .unlockCommand => "UnlockCommand"
  | .deAuthorized => "DeAuthorized"

def ReadingContext.toVariant : ReadingContext → String
  | .interruptionBegin => "Interruption.Begin"
  | .interruptionEnd => "Interruption.End"
  | .sampleClock => "Sample.Clock"
  | .samplePeriodic => "Sample.Periodic"
  | .transactionBegin => "Transaction.Begin"
  | .transactionEnd => "Transaction.End"
  | .trigger => "Trigger"
  | .other => "Other"

def ValueFormat.toVariant : ValueFormat → String
  | .raw => "Raw"
  | .signedData => "SignedData"

def Measurand.toVariant : Measurand → String
  | .energyActiveImportRegister => "Energy.Active.Import.Register"
  | .energyActiveExportRegister => "Energy.Active.Export.Register"
  | .energyReactiveImportRegister => "Energy.Reactive.Import.Register"
  | .energyReactiveExportRegister => "Energy.Reactive.Export.Register"
  | .energyActiveImportInterval => "Energy.Active.Import.Interval"
  | .energyActiveExportInterval => "Energy.Active.Export.Interval"
  | .energyReactiveImportInterval => "Energy.Reactive.Import.Interval"
  | .energyReactiveExportInterval => "Energy.Reactive.Export.Interval"
  | .powerActiveImport => "Power.Active.Import"
  | .powerActiveExport => "Power.Active.Export"
  | .powerReactiveImport => "Power.Reactive.Import"
  | .powerReactiveExport => "Power.Reactive.Export"
  | .powerFactor => "Power.Factor"
  | .powerOffered => "Power.Offered"
  | .currentImport => "Current.Import"
  | .currentExport => "Current.Export"
  | .currentOffered => "Current.Offered"
  | .voltage => "Voltage"
  | .frequency => "Frequency"
  | .temperature => "Temperature"
  | .soC => "SoC"
  | .rpm => "RPM"

def Phase.toVariant : Phase → String
  | .l1 => "L1"
  | .l2 => "L2"
  | .l3 => "L3"
  | .n => "N"
  | .l1N => "L1-N"
  | .l2N => "L2-N"
  | .l3N => "L3-N"
  | .l1L2 => "L1-L2"
  | .l2L3 => "L2-L3"
  | .l3L1 => "L3-L1"

def Location.toVariant : Location → String
  | .cable => "Cable"
  | .ev => "EV"
  | .inlet => "Inlet"
  | .outlet => "Outlet"
  | .body => "Body"

def UnitOfMeasure.toVariant : UnitOfMeasure → String
  | .wh => "Wh"
  | .kWh => "kWh"
  | .varh => "varh"
  | .kvarh => "kvarh"
  | .w => "W"
  | .kW => "kW"
  | .var => "var"
  | .kvar => "kvar"
  | .va => "VA"
  | .kVA => "kVA"
  | .a => "A"
  | .v => "V"
  | .celsius => "Celsius"
  | .fahrenheit => "Fahrenheit"
  | .k => "K"
  | .percent => "Percent"

/-! ## Structures -/

def SampledValue.toJson (sample : SampledValue) : Json := .object <| Json.present
  [("value", some (.string sample.value)), ("context", sample.context.map (.string ·.toVariant)),
   ("format", sample.format.map (.string ·.toVariant)), ("measurand", sample.measurand.map (.string ·.toVariant)),
   ("phase", sample.phase.map (.string ·.toVariant)), ("location", sample.location.map (.string ·.toVariant)),
   ("unit", sample.unit.map (.string ·.toVariant))]

def AuthorizeRequest.toJson (request : AuthorizeRequest) : Json := .object <| Json.present
  [("idTag", some (.string request.idTag))]

def BootNotificationRequest.toJson (request : BootNotificationRequest) : Json := .object <| Json.present
  [("chargePointVendor", some (.string request.chargePointVendor)),
   ("chargePointModel", some (.string request.chargePointModel)),
   ("chargePointSerialNumber", request.chargePointSerialNumber.map .string),
   ("chargeBoxSerialNumber", request.chargeBoxSerialNumber.map .string),
   ("firmwareVersion", request.firmwareVersion.map .string), ("iccid", request.iccid.map .string),
   ("imsi", request.imsi.map .string), ("meterType", request.meterType.map .string),
   ("meterSerialNumber", request.meterSerialNumber.map .string)]

section Stamped

variable (print : DateTime → String)

def MeterValue.toJson (reading : MeterValue) : Json := .object <| Json.present
  [("timestamp", some (.string (print reading.timestamp))),
   ("sampledValue", some (.array (reading.sampledValues.map SampledValue.toJson)))]

def StartTransactionRequest.toJson (request : StartTransactionRequest) : Json := .object <| Json.present
  [("connectorId", some (.ofInt request.connectorId)), ("idTag", some (.string request.idTag)),
   ("meterStart", some (.ofInt request.meterStart)), ("timestamp", some (.string (print request.timestamp))),
   ("reservationId", request.reservationId.map .ofInt)]

def StatusNotificationRequest.toJson (request : StatusNotificationRequest) : Json := .object <| Json.present
  [("connectorId", some (.ofInt request.connectorId)), ("errorCode", some (.string request.errorCode.toVariant)),
   ("info", request.info.map .string), ("status", some (.string request.status.toVariant)),
   ("timestamp", request.timestamp.map (.string <| print ·)), ("vendorErrorCode", request.vendorErrorCode.map .string),
   ("vendorId", request.vendorId.map .string)]

def StopTransactionRequest.toJson (request : StopTransactionRequest) : Json := .object <| Json.present
  [("idTag", request.idTag.map .string), ("meterStop", some (.ofInt request.meterStop)),
   ("timestamp", some (.string (print request.timestamp))), ("transactionId", some (.ofInt request.transactionId)),
   ("reason", request.reason.map (.string ·.toVariant)),
   ("transactionData", request.transactionData.map (.array <| ·.map (MeterValue.toJson print)))]

end Stamped

end Ocpp.V16j
