import ApexEdge.Library.Replica
import ApexEdge.Payment.Provider

/-! The store stream as the web client of a register reduces it: live availability, the
registers that are present, and handoffs of carts. Events patch the availability; a snapshot
replaces it. Neither is compared with the other by its number. -/

namespace ApexEdge.Pos
open Library.Replica Payment

structure HandoffNotice where
  parkedCartId : Uuid
  claimedByRegister : Uuid
  parkedByRegister : Uuid
  deriving DecidableEq, Repr

structure StoreStreamState where
  availability : Entries Uuid Int
  presentRegisters : List Uuid
  lastHandoff : Option HandoffNotice
  /-- At least one message has been received. -/
  connected : Bool
  deriving DecidableEq, Repr

def initialStoreStreamState : StoreStreamState := ⟨[], [], none, false⟩

/-- What the client reads of a snapshot. -/
structure StoreSnapshot where
  seq : Nat
  stock : Entries Uuid Int
  registers : List Uuid
  deriving DecidableEq, Repr

/-- The events the client listens to, as the hub writes them. -/
inductive StreamPayload where
  | stockChanged (items : Entries Uuid Int)
  | registerPresence (present : List Uuid)
  | cartHandoff (notice : HandoffNotice)
  deriving DecidableEq, Repr

/-- The availability that an event tells of. -/
def StreamPayload.stock (payload : StreamPayload) : Entries Uuid Int :=
  match payload with
  | .stockChanged items => items
  | _ => []

/-- Fold a full snapshot into the state, replacing the live aggregates. -/
def applySnapshot (state : StoreStreamState) (snapshot : StoreSnapshot) : StoreStreamState :=
  { state with
    availability := patch [] snapshot.stock
    presentRegisters := snapshot.registers
    connected := true }

/-- Fold a single event into the state. -/
def applyStreamEvent (state : StoreStreamState) (payload : StreamPayload) : StoreStreamState :=
  let next := { state with connected := true }
  match payload with
  | .stockChanged items => { next with availability := patch state.availability items }
  | .registerPresence present => { next with presentRegisters := present }
  | .cartHandoff notice => { next with lastHandoff := some notice }

theorem availability_applyStreamEvent (state : StoreStreamState) (payload : StreamPayload) :
    (applyStreamEvent state payload).availability = patch state.availability payload.stock := by
  cases payload <;> rfl

/-- Many events patch the availability with all that they tell. -/
theorem availability_foldl (state : StoreStreamState) (payloads : List StreamPayload) :
    (payloads.foldl applyStreamEvent state).availability =
      patch state.availability (payloads.flatMap StreamPayload.stock) := by
  induction payloads generalizing state with
  | nil => rfl
  | cons payload payloads ih =>
    rw [List.foldl_cons, ih, availability_applyStreamEvent, List.flatMap_cons, patch_append]

end ApexEdge.Pos
