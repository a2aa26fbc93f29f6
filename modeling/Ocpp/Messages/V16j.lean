import Ocpp.Library.Json
import Ocpp.Types.Authorization

/-!
# Payloads of 1.6J requests

The requests whose fields the server turns into events, with the decoders that are derived for them.
A timestamp is text that a parser of `chrono` reads (`Timestamps`).
-/

namespace Ocpp.V16j
open Library

structure Timestamps where
  parse : String → Option DateTime

def Timestamps.decode (timestamps : Timestamps) (value : Json) : Option DateTime :=
  value.asStr.bind timestamps.parse

/-! ## Enumerations -/

inductive ChargePointStatus
  | available
  | preparing
  | charging
  | suspendedEV
  | suspendedEVSE
  | finishing
  | reserved
  | faulted
  | unavailable
  deriving DecidableEq, Repr

def ChargePointStatus.ofVariant : String → Option ChargePointStatus
  | "Available" => some .available
  | "Preparing" => some .preparing
  | "Charging" => some .charging
  | "SuspendedEV" => some .suspendedEV
  | "SuspendedEVSE" => some .suspendedEVSE
  | "Finishing" => some .finishing
  | "Reserved" => some .reserved
  | "Faulted" => some .faulted
  | "Unavailable" => some .unavailable
  | _ => none

inductive ChargePointErrorCode
  | connectorLockFailure
  | evCommunicationError
  | groundFailure
  | highTemperature
  | internalError
  | localListConflict
  | noError
  | otherError
  | overCurrentFailure
  | overVoltage
  | powerMeterFailure
  | powerSwitchFailure
  | readerFailure
  | resetFailure
  | underVoltage
  | weakSignal
  deriving DecidableEq, Repr

def ChargePointErrorCode.ofVariant : String → Option ChargePointErrorCode
  | "ConnectorLockFailure" => some .connectorLockFailure
  | "EVCommunicationError" => some .evCommunicationError
  | "GroundFailure" => some .groundFailure
  | "HighTemperature" => some .highTemperature
  | "InternalError" => some .internalError
  | "LocalListConflict" => some .localListConflict
  | "NoError" => some .noError
  | "OtherError" => some .otherError
  | "OverCurrentFailure" => some .overCurrentFailure
  | "OverVoltage" => some .overVoltage
  | "PowerMeterFailure" => some .powerMeterFailure
  | "PowerSwitchFailure" => some .powerSwitchFailure
  | "ReaderFailure" => some .readerFailure
  | "ResetFailure" => some .resetFailure
  | "UnderVoltage" => some .underVoltage
  | "WeakSignal" => some .weakSignal
  | _ => none

inductive Reason
  | emergencyStop
  | evDisconnected
  | hardReset
  | local
  | other
  | powerLoss
  | reboot
  | remote
  | softReset
  | unlockCommand
  | deAuthorized
  deriving DecidableEq, Repr

def Reason.ofVariant : String → Option Reason
  | "EmergencyStop" => some .emergencyStop
  | "EVDisconnected" => some .evDisconnected
  | "HardReset" => some .hardReset
  | "Local" => some .local
  | "Other" => some .other
  | "PowerLoss" => some .powerLoss
  | "Reboot" => some .reboot
  | "Remote" => some .remote
  | "SoftReset" => some .softReset
  | "UnlockCommand" => some .unlockCommand
  | "DeAuthorized" => some .deAuthorized
  | _ => none

inductive ReadingContext
  | interruptionBegin
  | interruptionEnd
  | sampleClock
  | samplePeriodic
  | transactionBegin
  | transactionEnd
  | trigger
  | other
  deriving DecidableEq, Repr

def ReadingContext.ofVariant : String → Option ReadingContext
  | "Interruption.Begin" => some .interruptionBegin
  | "Interruption.End" => some .interruptionEnd
  | "Sample.Clock" => some .sampleClock
  | "Sample.Periodic" => some .samplePeriodic
  | "Transaction.Begin" => some .transactionBegin
  | "Transaction.End" => some .transactionEnd
  | "Trigger" => some .trigger
  | "Other" => some .other
  | _ => none

inductive ValueFormat
  | raw
  | signedData
  deriving DecidableEq, Repr

def ValueFormat.ofVariant : String → Option ValueFormat
  | "Raw" => some .raw
  | "SignedData" => some .signedData
  | _ => none

inductive Measurand
  | energyActiveImportRegister
  | energyActiveExportRegister
  | energyReactiveImportRegister
  | energyReactiveExportRegister
  | energyActiveImportInterval
  | energyActiveExportInterval
  | energyReactiveImportInterval
  | energyReactiveExportInterval
  | powerActiveImport
  | powerActiveExport
  | powerReactiveImport
  | powerReactiveExport
  | powerFactor
  | powerOffered
  | currentImport
  | currentExport
  | currentOffered
  | voltage
  | frequency
  | temperature
  | soC
  | rpm
  deriving DecidableEq, Repr

def Measurand.ofVariant : String → Option Measurand
  | "Energy.Active.Import.Register" => some .energyActiveImportRegister
  | "Energy.Active.Export.Register" => some .energyActiveExportRegister
  | "Energy.Reactive.Import.Register" => some .energyReactiveImportRegister
  | "Energy.Reactive.Export.Register" => some .energyReactiveExportRegister
  | "Energy.Active.Import.Interval" => some .energyActiveImportInterval
  | "Energy.Active.Export.Interval" => some .energyActiveExportInterval
  | "Energy.Reactive.Import.Interval" => some .energyReactiveImportInterval
  | "Energy.Reactive.Export.Interval" => some .energyReactiveExportInterval
  | "Power.Active.Import" => some .powerActiveImport
  | "Power.Active.Export" => some .powerActiveExport
  | "Power.Reactive.Import" => some .powerReactiveImport
  | "Power.Reactive.Export" => some .powerReactiveExport
  | "Power.Factor" => some .powerFactor
  | "Power.Offered" => some .powerOffered
  | "Current.Import" => some .currentImport
  | "Current.Export" => some .currentExport
  | "Current.Offered" => some .currentOffered
  | "Voltage" => some .voltage
  | "Frequency" => some .frequency
  | "Temperature" => some .temperature
  | "SoC" => some .soC
  | "RPM" => some .rpm
  | _ => none

inductive Phase
  | l1
  | l2
  | l3
  | n
  | l1N
  | l2N
  | l3N
  | l1L2
  | l2L3
  | l3L1
  deriving DecidableEq, Repr

def Phase.ofVariant : String → Option Phase
  | "L1" => some .l1
  | "L2" => some .l2
  | "L3" => some .l3
  | "N" => some .n
  | "L1-N" => some .l1N
  | "L2-N" => some .l2N
  | "L3-N" => some .l3N
  | "L1-L2" => some .l1L2
  | "L2-L3" => some .l2L3
  | "L3-L1" => some .l3L1
  | _ => none

inductive Location
  | cable
  | ev
  | inlet
  | outlet
  | body
  deriving DecidableEq, Repr

def Location.ofVariant : String → Option Location
  | "Cable" => some .cable
  | "EV" => some .ev
  | "Inlet" => some .inlet
  | "Outlet" => some .outlet
  | "Body" => some .body
  | _ => none

inductive UnitOfMeasure
  | wh
  | kWh
  | varh
  | kvarh
  | w
  | kW
  | var
  | kvar
  | va
  | kVA
  | a
  | v
  | celsius
  | fahrenheit
  | k
  | percent
  deriving DecidableEq, Repr

def UnitOfMeasure.ofVariant : String → Option UnitOfMeasure
  | "Wh" => some .wh
  | "kWh" => some .kWh
  | "varh" => some .varh
  | "kvarh" => some .kvarh
  | "W" => some .w
  | "kW" => some .kW
  | "var" => some .var
  | "kvar" => some .kvar
  | "VA" => some .va
  | "kVA" => some .kVA
  | "A" => some .a
  | "V" => some .v
  | "Celsius" => some .celsius
  | "Fahrenheit" => some .fahrenheit
  | "K" => some .k
  | "Percent" => some .percent
  | _ => none

/-! ## Structures -/

def decodeAuthorizationStatus : String → Option AuthorizationStatus
  | "Accepted" => some .accepted
  | "Blocked" => some .blocked
  | "Expired" => some .expired
  | "Invalid" => some .invalid
  | "ConcurrentTx" => some .concurrentTx
  | _ => none

def decodeIdTagInfo (timestamps : Timestamps) (value : Json) : Option IdTagInfo := do
  let fields ← value.structFields ["status", "parentIdTag", "expiryDate"]
  return {
    status := ← Json.requiredField fields "status" (Json.decodeVariant decodeAuthorizationStatus)
    parentIdTag := ← Json.optionalField fields "parentIdTag" Json.asStr
    expiryDate := ← Json.optionalField fields "expiryDate" timestamps.decode }

structure SampledValue where
  value : String
  context : Option ReadingContext
  format : Option ValueFormat
  measurand : Option Measurand
  phase : Option Phase
  location : Option Location
  unit : Option UnitOfMeasure
  deriving DecidableEq, Repr

def SampledValue.fromJson (value : Json) : Option SampledValue := do
  let fields ← value.structFields
    ["value", "context", "format", "measurand", "phase", "location", "unit"]
  return {
    value := ← Json.requiredField fields "value" Json.asStr
    context := ← Json.optionalField fields "context" (Json.decodeVariant ReadingContext.ofVariant)
    format := ← Json.optionalField fields "format" (Json.decodeVariant ValueFormat.ofVariant)
    measurand := ← Json.optionalField fields "measurand" (Json.decodeVariant Measurand.ofVariant)
    phase := ← Json.optionalField fields "phase" (Json.decodeVariant Phase.ofVariant)
    location := ← Json.optionalField fields "location" (Json.decodeVariant Location.ofVariant)
    unit := ← Json.optionalField fields "unit" (Json.decodeVariant UnitOfMeasure.ofVariant) }

structure MeterValue where
  timestamp : DateTime
  sampledValues : List SampledValue
  deriving DecidableEq, Repr

def MeterValue.fromJson (timestamps : Timestamps) (value : Json) : Option MeterValue := do
  let fields ← value.structFields ["timestamp", "sampledValue"]
  return {
    timestamp := ← Json.requiredField fields "timestamp" timestamps.decode
    sampledValues := ← Json.requiredField fields "sampledValue" (Json.decodeVec SampledValue.fromJson) }

structure AuthorizeRequest where
  idTag : String
  deriving DecidableEq, Repr

structure BootNotificationRequest where
  chargePointVendor : String
  chargePointModel : String
  chargePointSerialNumber : Option String
  chargeBoxSerialNumber : Option String
  firmwareVersion : Option String
  iccid : Option String
  imsi : Option String
  meterType : Option String
  meterSerialNumber : Option String
  deriving DecidableEq, Repr

def BootNotificationRequest.fromJson (value : Json) : Option BootNotificationRequest := do
  let fields ← value.structFields
    ["chargePointVendor", "chargePointModel", "chargePointSerialNumber", "chargeBoxSerialNumber",
     "firmwareVersion", "iccid", "imsi", "meterType", "meterSerialNumber"]
  return {
    chargePointVendor := ← Json.requiredField fields "chargePointVendor" Json.asStr
    chargePointModel := ← Json.requiredField fields "chargePointModel" Json.asStr
    chargePointSerialNumber := ← Json.optionalField fields "chargePointSerialNumber" Json.asStr
    chargeBoxSerialNumber := ← Json.optionalField fields "chargeBoxSerialNumber" Json.asStr
    firmwareVersion := ← Json.optionalField fields "firmwareVersion" Json.asStr
    iccid := ← Json.optionalField fields "iccid" Json.asStr
    imsi := ← Json.optionalField fields "imsi" Json.asStr
    meterType := ← Json.optionalField fields "meterType" Json.asStr
    meterSerialNumber := ← Json.optionalField fields "meterSerialNumber" Json.asStr }

structure MeterValuesRequest where
  connectorId : Int
  transactionId : Option Int
  meterValues : List MeterValue
  deriving DecidableEq, Repr

def MeterValuesRequest.fromJson (timestamps : Timestamps) (value : Json) : Option MeterValuesRequest := do
  let fields ← value.structFields ["connectorId", "transactionId", "meterValue"]
  return {
    connectorId := ← Json.requiredField fields "connectorId" Json.decodeU32
    transactionId := ← Json.optionalField fields "transactionId" Json.decodeI32
    meterValues := ← Json.requiredField fields "meterValue" (Json.decodeVec (MeterValue.fromJson timestamps)) }

structure StartTransactionRequest where
  connectorId : Int
  idTag : String
  meterStart : Int
  timestamp : DateTime
  reservationId : Option Int
  deriving DecidableEq, Repr

def StartTransactionRequest.fromJson (timestamps : Timestamps) (value : Json) : Option StartTransactionRequest := do
  let fields ← value.structFields
    ["connectorId", "idTag", "meterStart", "timestamp", "reservationId"]
  return {
    connectorId := ← Json.requiredField fields "connectorId" Json.decodeU32
    idTag := ← Json.requiredField fields "idTag" Json.asStr
    meterStart := ← Json.requiredField fields "meterStart" Json.decodeI32
    timestamp := ← Json.requiredField fields "timestamp" timestamps.decode
    reservationId := ← Json.optionalField fields "reservationId" Json.decodeI32 }

structure StartTransactionResponse where
  idTagInfo : IdTagInfo
  transactionId : Int
  deriving DecidableEq, Repr

def StartTransactionResponse.fromJson (timestamps : Timestamps) (value : Json) : Option StartTransactionResponse := do
  let fields ← value.structFields ["idTagInfo", "transactionId"]
  return {
    idTagInfo := ← Json.requiredField fields "idTagInfo" (decodeIdTagInfo timestamps)
    transactionId := ← Json.requiredField fields "transactionId" Json.decodeI32 }

structure StatusNotificationRequest where
  connectorId : Int
  errorCode : ChargePointErrorCode
  info : Option String
  status : ChargePointStatus
  timestamp : Option DateTime
  vendorErrorCode : Option String
  vendorId : Option String
  deriving DecidableEq, Repr

def StatusNotificationRequest.fromJson (timestamps : Timestamps) (value : Json) : Option StatusNotificationRequest := do
  let fields ← value.structFields
    ["connectorId", "errorCode", "info", "status", "timestamp", "vendorErrorCode", "vendorId"]
  return {
    connectorId := ← Json.requiredField fields "connectorId" Json.decodeU32
    errorCode := ← Json.requiredField fields "errorCode" (Json.decodeVariant ChargePointErrorCode.ofVariant)
    info := ← Json.optionalField fields "info" Json.asStr
    status := ← Json.requiredField fields "status" (Json.decodeVariant ChargePointStatus.ofVariant)
    timestamp := ← Json.optionalField fields "timestamp" timestamps.decode
    vendorErrorCode := ← Json.optionalField fields "vendorErrorCode" Json.asStr
    vendorId := ← Json.optionalField fields "vendorId" Json.asStr }

structure StopTransactionRequest where
  idTag : Option String
  meterStop : Int
  timestamp : DateTime
  transactionId : Int
  reason : Option Reason
  transactionData : Option (List MeterValue)
  deriving DecidableEq, Repr

def StopTransactionRequest.fromJson (timestamps : Timestamps) (value : Json) : Option StopTransactionRequest := do
  let fields ← value.structFields
    ["idTag", "meterStop", "timestamp", "transactionId", "reason", "transactionData"]
  return {
    idTag := ← Json.optionalField fields "idTag" Json.asStr
    meterStop := ← Json.requiredField fields "meterStop" Json.decodeI32
    timestamp := ← Json.requiredField fields "timestamp" timestamps.decode
    transactionId := ← Json.requiredField fields "transactionId" Json.decodeI32
    reason := ← Json.optionalField fields "reason" (Json.decodeVariant Reason.ofVariant)
    transactionData := ← Json.optionalField fields "transactionData" (Json.decodeVec (MeterValue.fromJson timestamps)) }

end Ocpp.V16j
