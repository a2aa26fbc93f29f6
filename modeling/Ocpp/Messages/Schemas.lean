import Ocpp.Library.JsonSchema
import Ocpp.Messages.V16j

/-!
# Schemas of 1.6J requests

The bundled schemas of `Authorize`, `BootNotification`, `StartTransaction`, `StatusNotification` and `StopTransaction`.
An enumeration is `additionalProperties: false` too, which says nothing about a string.
-/

namespace Ocpp.V16j
open Library

def AuthorizeRequest.schema : Schema := .object
  [("idTag", .string (some 20))]
  ["idTag"]

def BootNotificationRequest.schema : Schema := .object
  [("chargePointVendor", .string (some 20)), ("chargePointModel", .string (some 20)),
   ("chargePointSerialNumber", .string (some 25)), ("chargeBoxSerialNumber", .string (some 25)),
   ("firmwareVersion", .string (some 50)), ("iccid", .string (some 20)), ("imsi", .string (some 20)),
   ("meterType", .string (some 25)), ("meterSerialNumber", .string (some 25))]
  ["chargePointVendor", "chargePointModel"]

def StartTransactionRequest.schema : Schema := .object
  [("connectorId", .integer), ("idTag", .string (some 20)), ("meterStart", .integer), ("reservationId", .integer),
   ("timestamp", .dateTime)]
  ["connectorId", "idTag", "meterStart", "timestamp"]

def ChargePointErrorCode.schema : Schema := .enum
  ["ConnectorLockFailure", "EVCommunicationError", "GroundFailure", "HighTemperature", "InternalError",
   "LocalListConflict", "NoError", "OtherError", "OverCurrentFailure", "PowerMeterFailure", "PowerSwitchFailure",
   "ReaderFailure", "ResetFailure", "UnderVoltage", "OverVoltage", "WeakSignal"]

def ChargePointStatus.schema : Schema := .enum
  ["Available", "Preparing", "Charging", "SuspendedEVSE", "SuspendedEV", "Finishing", "Reserved", "Unavailable",
   "Faulted"]

def StatusNotificationRequest.schema : Schema := .object
  [("connectorId", .integer), ("errorCode", ChargePointErrorCode.schema), ("info", .string (some 50)),
   ("status", ChargePointStatus.schema), ("timestamp", .dateTime), ("vendorId", .string (some 255)),
   ("vendorErrorCode", .string (some 50))]
  ["connectorId", "errorCode", "status"]

def Reason.schema : Schema := .enum
  ["EmergencyStop", "EVDisconnected", "HardReset", "Local", "Other", "PowerLoss", "Reboot", "Remote", "SoftReset",
   "UnlockCommand", "DeAuthorized"]

def ReadingContext.schema : Schema := .enum
  ["Interruption.Begin", "Interruption.End", "Sample.Clock", "Sample.Periodic", "Transaction.Begin",
   "Transaction.End", "Trigger", "Other"]

def ValueFormat.schema : Schema := .enum
  ["Raw", "SignedData"]

def Measurand.schema : Schema := .enum
  ["Energy.Active.Export.Register", "Energy.Active.Import.Register", "Energy.Reactive.Export.Register",
   "Energy.Reactive.Import.Register", "Energy.Active.Export.Interval", "Energy.Active.Import.Interval",
   "Energy.Reactive.Export.Interval", "Energy.Reactive.Import.Interval", "Power.Active.Export", "Power.Active.Import",
   "Power.Offered", "Power.Reactive.Export", "Power.Reactive.Import", "Power.Factor", "Current.Import",
   "Current.Export", "Current.Offered", "Voltage", "Frequency", "Temperature", "SoC", "RPM"]

def Phase.schema : Schema := .enum
  ["L1", "L2", "L3", "N", "L1-N", "L2-N", "L3-N", "L1-L2", "L2-L3", "L3-L1"]

def Location.schema : Schema := .enum
  ["Cable", "EV", "Inlet", "Outlet", "Body"]

def UnitOfMeasure.schema : Schema := .enum
  ["Wh", "kWh", "varh", "kvarh", "W", "kW", "VA", "kVA", "var", "kvar", "A", "V", "K", "Celcius", "Celsius",
   "Fahrenheit", "Percent"]

def SampledValue.schema : Schema := .object
  [("value", .string none), ("context", ReadingContext.schema), ("format", ValueFormat.schema),
   ("measurand", Measurand.schema), ("phase", Phase.schema), ("location", Location.schema),
   ("unit", UnitOfMeasure.schema)]
  ["value"]

def MeterValue.schema : Schema := .object
  [("timestamp", .dateTime), ("sampledValue", .array SampledValue.schema)]
  ["timestamp", "sampledValue"]

def StopTransactionRequest.schema : Schema := .object
  [("idTag", .string (some 20)), ("meterStop", .integer), ("timestamp", .dateTime), ("transactionId", .integer),
   ("reason", Reason.schema), ("transactionData", .array MeterValue.schema)]
  ["transactionId", "timestamp", "meterStop"]

end Ocpp.V16j
