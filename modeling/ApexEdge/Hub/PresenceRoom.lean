import ApexEdge.Library.Replica
import ApexEdge.Library.Sequence
import ApexEdge.Payment.Provider
import Mathlib.Data.Finset.Dedup
import Mathlib.Data.Finset.Empty

/-! Which registers are present in a store. Every connection counts its register in, and out
when it is dropped; the first one in and the last one out read which registers are present
and publish that, each in a step of its own. -/

namespace ApexEdge.Hub.Presence
open Library.Replica Payment

/-- Connections per register. The counters are 32 bits wide. -/
abbrev PresenceCounts := Entries Uuid Nat

/-- Whether this was the first active connection of the register. -/
def connectRegister (counts : PresenceCounts) (registerId : Uuid) : Bool × PresenceCounts :=
  let count := ((valueOf counts registerId).getD 0 + 1) % 2 ^ 32
  (count = 1, put counts (registerId, count))

/-- Whether the register has no connection left. -/
def disconnectRegister (counts : PresenceCounts) (registerId : Uuid) : Bool × PresenceCounts :=
  match valueOf counts registerId with
  | none => (false, counts)
  | some count =>
    if count - 1 = 0 then (true, remove counts registerId) else (false, put counts (registerId, count - 1))

/-- The keys of the map, in no particular order. -/
def presentRegisters (counts : PresenceCounts) : Finset Uuid := (counts.map Prod.fst).toFinset

structure PresenceEvent where
  seq : Nat
  isConnect : Bool
  registerId : Uuid
  present : Finset Uuid
  deriving DecidableEq

/-- Where the guard of a connection has come to. -/
inductive PresencePhase where
  /-- Counted in as the first, and about to read who is present. -/
  | entering
  | entered (present : Finset Uuid)
  | listening
  /-- Counted out as the last, and about to read who is present. -/
  | leaving
  | left (present : Finset Uuid)
  | closed
  deriving DecidableEq

structure PresenceConnection where
  registerId : Uuid
  phase : PresencePhase
  deriving DecidableEq

/-- Counted in, and not counted out yet. -/
def PresenceConnection.isOpen (connection : PresenceConnection) : Bool :=
  match connection.phase with
  | .entering | .entered _ | .listening => true
  | .leaving | .left _ | .closed => false

/-- No step of its guard is in progress. -/
def PresenceConnection.isIdle (connection : PresenceConnection) : Bool :=
  connection.phase = .listening ∨ connection.phase = .closed

/-- `issued` is kept for the record: every presence event that was published. -/
structure PresenceRoom where
  counts : PresenceCounts
  connections : List PresenceConnection
  seq : Nat
  issued : List PresenceEvent
  deriving DecidableEq

inductive PresenceStep where
  | connect (registerId : Uuid)
  | disconnect (connection : Nat)
  | advance (connection : Nat)
  /-- Some other event of the store takes its number. -/
  | publishOther

namespace PresenceRoom

def opened : PresenceRoom := ⟨[], [], 0, []⟩

def publish (room : PresenceRoom) (isConnect : Bool) (registerId : Uuid) (present : Finset Uuid) : PresenceRoom :=
  { room with seq := room.seq + 1, issued := room.issued ++ [⟨room.seq + 1, isConnect, registerId, present⟩] }

def setPhase (room : PresenceRoom) (index : Nat) (registerId : Uuid) (phase : PresencePhase) : PresenceRoom :=
  { room with connections := room.connections.set index ⟨registerId, phase⟩ }

def apply (room : PresenceRoom) : PresenceStep → PresenceRoom
  | .connect registerId =>
    let (isNew, counts) := connectRegister room.counts registerId
    { room with
      counts
      connections := room.connections ++ [⟨registerId, if isNew then .entering else .listening⟩] }
  | .disconnect index =>
    match room.connections[index]? with
    | some ⟨registerId, .listening⟩ =>
      let (becameAbsent, counts) := disconnectRegister room.counts registerId
      { room with counts }.setPhase index registerId (if becameAbsent then .leaving else .closed)
    | _ => room
  | .advance index =>
    match room.connections[index]? with
    | some ⟨registerId, .entering⟩ => room.setPhase index registerId (.entered (presentRegisters room.counts))
    | some ⟨registerId, .entered present⟩ => (room.publish true registerId present).setPhase index registerId .listening
    | some ⟨registerId, .leaving⟩ => room.setPhase index registerId (.left (presentRegisters room.counts))
    | some ⟨registerId, .left present⟩ => (room.publish false registerId present).setPhase index registerId .closed
    | _ => room
  | .publishOther => { room with seq := room.seq + 1 }

/-- The open connections of a register. -/
def openConnections (room : PresenceRoom) (registerId : Uuid) : Nat :=
  room.connections.countP fun connection => connection.isOpen ∧ connection.registerId = registerId

end PresenceRoom
end ApexEdge.Hub.Presence
