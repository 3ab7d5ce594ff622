import ApexEdge.Storage.PaymentIntents

/-! Pairing codes, trusted devices and sessions. Codes are consumed and sessions revoked by
their id, whatever they were before. -/

namespace ApexEdge.Storage
open Payment Domain Library

structure DevicePairingCodeRow where
  id : Uuid
  storeId : Uuid
  codeHash : String
  createdBy : String
  expiresAt : Timestamp
  attempts : Int
  maxAttempts : Int
  consumedAt : Option Timestamp
  consumedDeviceId : Option Uuid
  deriving DecidableEq, Repr

structure TrustedDeviceRow where
  id : Uuid
  storeId : Uuid
  registerId : Option Uuid
  deviceName : String
  platform : Option String
  secretHash : String
  status : String
  enrolledAt : Timestamp
  revokedAt : Option Timestamp
  deriving DecidableEq, Repr

structure AuthSessionRow where
  sessionId : Uuid
  associateId : String
  storeId : Uuid
  deviceId : Uuid
  accessExp : Timestamp
  refreshExp : Timestamp
  revokedAt : Option Timestamp
  deriving DecidableEq, Repr

structure NewPairingCode where
  storeId : Uuid
  codeHash : String
  createdBy : String
  expiresAt : Timestamp
  maxAttempts : Int
  deriving DecidableEq, Repr

structure NewTrustedDevice where
  id : Uuid
  storeId : Uuid
  registerId : Uuid
  deviceName : String
  platform : Option String
  secretHash : String
  deriving DecidableEq, Repr

structure NewAuthSession where
  sessionId : Uuid
  associateId : String
  storeId : Uuid
  deviceId : Uuid
  accessExp : Timestamp
  refreshExp : Timestamp
  deriving DecidableEq, Repr

def NewPairingCode.row (new : NewPairingCode) (id : Uuid) : DevicePairingCodeRow :=
  { id := id, storeId := new.storeId, codeHash := new.codeHash, createdBy := new.createdBy, expiresAt := new.expiresAt
    attempts := 0, maxAttempts := new.maxAttempts, consumedAt := none, consumedDeviceId := none }

def NewTrustedDevice.row (new : NewTrustedDevice) (now : Timestamp) : TrustedDeviceRow :=
  { id := new.id, storeId := new.storeId, registerId := some new.registerId, deviceName := new.deviceName
    platform := new.platform, secretHash := new.secretHash, status := "active", enrolledAt := now, revokedAt := none }

def NewAuthSession.row (new : NewAuthSession) : AuthSessionRow :=
  { sessionId := new.sessionId, associateId := new.associateId, storeId := new.storeId, deviceId := new.deviceId
    accessExp := new.accessExp, refreshExp := new.refreshExp, revokedAt := none }

namespace Auth

def createDevicePairingCode (id : Uuid) (new : NewPairingCode) (codes : List DevicePairingCodeRow) :
    Except PoolError (List DevicePairingCodeRow) :=
  if codes.any (·.id = id) then .error (.connection "UNIQUE constraint failed: device_pairing_codes.id")
  else if codes.any (·.codeHash = new.codeHash) then
    .error (.connection "UNIQUE constraint failed: device_pairing_codes.code_hash")
  else .ok (codes ++ [new.row id])

def getPairingCodeByHash (codeHash : String) (codes : List DevicePairingCodeRow) : Option DevicePairingCodeRow :=
  codes.find? (·.codeHash = codeHash)

def incrementPairingCodeAttempts (id : Uuid) : Table.Update DevicePairingCodeRow :=
  { selects := (·.id = id), set := fun row => { row with attempts := row.attempts + 1 } }

def consumePairingCode (id deviceId : Uuid) (now : Timestamp) : Table.Update DevicePairingCodeRow :=
  { selects := (·.id = id), set := fun row => { row with consumedAt := some now, consumedDeviceId := some deviceId } }

def createTrustedDevice (new : NewTrustedDevice) (now : Timestamp) (devices : List TrustedDeviceRow) :
    Except PoolError (List TrustedDeviceRow) :=
  if devices.any (·.id = new.id) then .error (.connection "UNIQUE constraint failed: trusted_devices.id")
  else .ok (devices ++ [new.row now])

def getTrustedDevice (id : Uuid) (devices : List TrustedDeviceRow) : Option TrustedDeviceRow := devices.find? (·.id = id)

def createAuthSession (new : NewAuthSession) (sessions : List AuthSessionRow) : Except PoolError (List AuthSessionRow) :=
  if sessions.any (·.sessionId = new.sessionId) then
    .error (.connection "UNIQUE constraint failed: auth_sessions.session_id")
  else .ok (sessions ++ [new.row])

def getAuthSession (sessionId : Uuid) (sessions : List AuthSessionRow) : Option AuthSessionRow :=
  sessions.find? (·.sessionId = sessionId)

def revokeAuthSession (sessionId : Uuid) (now : Timestamp) : Table.Update AuthSessionRow :=
  { selects := (·.sessionId = sessionId), set := fun row => { row with revokedAt := some now } }

end Auth
end ApexEdge.Storage
