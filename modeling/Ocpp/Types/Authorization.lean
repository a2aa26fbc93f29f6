import Ocpp.Types.Time

/-!
# Authorization data

The entries of a local authorization list in the two dialects and the requests that push them.
-/

namespace Ocpp

inductive AuthorizationStatus
  | accepted
  | blocked
  | expired
  | invalid
  | concurrentTx
  deriving DecidableEq, Repr

structure IdTagInfo where
  status : AuthorizationStatus
  parentIdTag : Option String
  expiryDate : Option DateTime
  deriving DecidableEq, Repr

namespace V16j

inductive UpdateType
  | differential
  | full
  deriving DecidableEq, Repr

inductive UpdateStatus
  | accepted
  | failed
  | notSupported
  | versionMismatch
  deriving DecidableEq, Repr

structure AuthorizationData where
  idTag : String
  idTagInfo : Option IdTagInfo
  deriving DecidableEq, Repr

structure SendLocalListRequest where
  listVersion : Int
  updateType : UpdateType
  localAuthorizationList : List AuthorizationData
  deriving DecidableEq, Repr

end V16j

namespace V201

inductive AuthorizationStatusEnumType
  | accepted
  | blocked
  | concurrentTx
  | expired
  | invalid
  | noCredit
  | notAllowedTypeEvse
  | notAtThisLocation
  | notAtThisTime
  | unknown
  deriving DecidableEq, Repr

inductive UpdateEnumType
  | differential
  | full
  deriving DecidableEq, Repr

inductive SendLocalListStatusEnumType
  | accepted
  | failed
  | versionMismatch
  deriving DecidableEq, Repr

structure IdTokenType where
  idToken : String
  deriving DecidableEq, Repr

structure IdTokenInfoType where
  status : AuthorizationStatusEnumType
  cacheExpiryDateTime : Option String
  groupIdToken : Option IdTokenType
  deriving DecidableEq, Repr

structure AuthorizationData where
  idToken : IdTokenType
  idTokenInfo : Option IdTokenInfoType
  deriving DecidableEq, Repr

structure SendLocalListRequest where
  versionNumber : Int
  updateType : UpdateEnumType
  localAuthorizationList : Option (List AuthorizationData)
  deriving DecidableEq, Repr

end V201

end Ocpp
