import ApexEdge.Library.HashChain
import ApexEdge.Storage.PaymentIntents

/-! The audit log: each row repeats the hash of the row before it and is hashed under the key
of the hub. Rows from before the chain was introduced have neither hash. -/

namespace ApexEdge.Storage.Audit
open Library Payment

/-- HMAC-SHA256 as the log stores it: the 32 bytes of the digest in hexadecimal digits. -/
structure Hmac where
  digest : List UInt8 → String → String
  digest_length : ∀ secret text, (digest secret text).length = 64
  digest_hex : ∀ secret text, ∀ digit ∈ (digest secret text).toList, digit ∈ "0123456789abcdef".toList

structure AuditKey where
  hubKeyId : String
  secret : List UInt8
  deriving DecidableEq, Repr

def defaultKey : AuditKey :=
  ⟨"dev-hub-key", "apex-edge-default-audit-key-do-not-use-in-prod".toUTF8.data.toList⟩

/-- The key that was installed last, if one was installed at all. -/
def currentKey (slot : Option AuditKey) : AuditKey := slot.getD defaultKey

/-- One row of `audit_log`; only rows from before the chain can lack a payload. -/
structure AuditRow where
  id : Int
  eventType : String
  entityId : Option String
  payload : Option String
  createdAt : String
  prevHash : String
  hash : String
  hubKeyId : String
  deriving DecidableEq, Repr

/-- The table in the order of its ids, which are handed out once. -/
structure AuditLog where
  rows : List AuditRow
  sequence : Int
  ordered : rows.Pairwise fun first second => first.id < second.id
  numbered : ∀ row ∈ rows, row.id ≤ sequence

/-- The text that is hashed. -/
def hashedText (prevHash eventType : String) (entityId : Option String) (payload createdAt hubKeyId : String) : String :=
  prevHash ++ "|" ++ eventType ++ "|" ++ entityId.getD "" ++ "|" ++ payload ++ "|" ++ createdAt ++ "|" ++ hubKeyId

def computeHash (hmac : Hmac) (secret : List UInt8) (prevHash eventType : String) (entityId : Option String)
    (payload createdAt hubKeyId : String) : String :=
  hmac.digest secret (hashedText prevHash eventType entityId payload createdAt hubKeyId)

def lastHash (rows : List AuditRow) : String := HashChain.tip AuditRow.hash "" rows

/-- One call of `record`: the key it finds, its arguments, the clock, and the error of the
store when the transaction does not commit. -/
structure Recording where
  slot : Option AuditKey
  eventType : String
  entityId : Option Uuid
  payload : String
  now : String
  failure : Option PoolError

/-- The row that a call appends after rows that end with `prevHash`. -/
def Recording.row (call : Recording) (hmac : Hmac) (id : Int) (prevHash : String) : AuditRow :=
  let key := currentKey call.slot
  let entityId := call.entityId.map Uuid.toString
  { id, eventType := call.eventType, entityId, payload := some call.payload, createdAt := call.now, prevHash,
    hash := computeHash hmac key.secret prevHash call.eventType entityId call.payload call.now key.hubKeyId,
    hubKeyId := key.hubKeyId }

def AuditLog.append (log : AuditLog) (row : Int → AuditRow) (numbers : ∀ id, (row id).id = id) : AuditLog where
  rows := log.rows ++ [row (log.sequence + 1)]
  sequence := log.sequence + 1
  ordered := by
    refine List.pairwise_append.mpr ⟨log.ordered, List.pairwise_singleton _ _, ?_⟩
    intro before member after last
    have small := log.numbered before member
    rw [List.mem_singleton.mp last, numbers]
    omega
  numbered := by
    intro row member
    rcases List.mem_append.mp member with old | last
    · have small := log.numbered row old
      omega
    · rw [List.mem_singleton.mp last, numbers]

/-- Read the last hash and insert the next row, in one transaction. -/
def record (hmac : Hmac) (log : AuditLog) (call : Recording) : Except PoolError Unit × AuditLog :=
  match call.failure with
  | some error => (.error error, log)
  | none => (.ok (), log.append (fun id => call.row hmac id (lastHash log.rows)) fun _ => rfl)

structure AuditChainVerification where
  ok : Bool
  checked : Nat
  firstBadId : Option Int
  reason : Option String
  deriving DecidableEq, Repr

/-- Rows from before the chain have all three columns empty. -/
def AuditRow.isLegacy (row : AuditRow) : Bool := row.hash = "" ∧ row.prevHash = "" ∧ row.hubKeyId = ""

def AuditRow.recomputed (hmac : Hmac) (secret : List UInt8) (row : AuditRow) : String :=
  computeHash hmac secret row.prevHash row.eventType row.entityId (row.payload.getD "") row.createdAt row.hubKeyId

def verifyRows (hmac : Hmac) (key : AuditKey) (checked : Nat) (expectedPrev : String) :
    List AuditRow → AuditChainVerification
  | [] => ⟨true, checked, none, none⟩
  | row :: rows =>
    if row.isLegacy then verifyRows hmac key checked expectedPrev rows
    else if row.prevHash ≠ expectedPrev then
      ⟨false, checked, some row.id, some "prev_hash does not match previous row"⟩
    -- a row of another key cannot be hashed again: its link is all that is looked at
    else if row.hubKeyId ≠ key.hubKeyId then verifyRows hmac key (checked + 1) row.hash rows
    else if row.recomputed hmac key.secret ≠ row.hash then
      ⟨false, checked, some row.id, some "recomputed hash does not match stored hash (tamper detected)"⟩
    else verifyRows hmac key (checked + 1) row.hash rows

def verifyChain (hmac : Hmac) (slot : Option AuditKey) (log : AuditLog) : AuditChainVerification :=
  verifyRows hmac (currentKey slot) 0 "" log.rows

/-- A log after some calls, whatever each of them returned. -/
def recordAll (hmac : Hmac) (log : AuditLog) (calls : List Recording) : AuditLog :=
  calls.foldl (fun log call => (record hmac log call).2) log

/-- A table without a row. -/
def AuditLog.empty : AuditLog := ⟨[], 0, .nil, fun _ member => nomatch member⟩

end ApexEdge.Storage.Audit
