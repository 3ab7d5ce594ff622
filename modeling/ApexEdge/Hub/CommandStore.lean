import ApexEdge.Hub.Till
import ApexEdge.Library.Retry

/-! How a command of any kind is answered: from the stored response, or by executing it
and storing its success. What it executes is a program over the statements of the store,
which are told apart here by whether they write. -/

namespace ApexEdge.Hub
open Library Payment Domain Storage Contracts

/-- Statements among which are those on the stored responses. -/
structure CommandStore (Op : Type) (Reply : Op → Type) (World Choice : Type) extends
    Statements Op Reply World Choice where
  getResponse : Uuid → Op
  /-- Store the response to a command with this key, under the key that the response names. -/
  setResponse : Uuid → PosResponse → Op
  found : (key : Uuid) → Reply (getResponse key) → Except PoolError (Option PosResponse)
  peeks : ∀ key, writes (getResponse key) = false
  remembers : ∀ choice world key response, fails choice = false → response.idempotencyKey = key →
    ∀ later, fails later = false →
      found key (perform later (perform choice world (setResponse key response)).2 (getResponse key)).1 =
        .ok (some response)

structure CommandHeader where
  version : ContractVersion
  idempotencyKey : Uuid
  storeId : Uuid
  registerId : Uuid
  deriving DecidableEq, Repr

def CommandHeader.ofPos (envelope : PosRequestEnvelope) : CommandHeader :=
  { version := envelope.version, idempotencyKey := envelope.idempotencyKey, storeId := envelope.storeId
    registerId := envelope.registerId }

def CommandHeader.ofTill (envelope : TillEnvelope) : CommandHeader :=
  { version := envelope.version, idempotencyKey := envelope.idempotencyKey, storeId := envelope.storeId
    registerId := envelope.registerId }

namespace CommandStore
variable {Op : Type} {Reply : Op → Type} {World Choice : Type} (store : CommandStore Op Reply World Choice)

/-- Only a success is stored, and only after the command has run. -/
def storeResponse (key : Uuid) (response : PosResponse) : Program Op Reply PosResponse :=
  if response.success then do
    let _ ← Program.ask (store.setResponse key response)
    return response
  else return response

/-- A response that cannot be looked up counts as none. -/
def executeOnce (key : Uuid) (execute : Program Op Reply PosResponse) : Program Op Reply PosResponse := do
  let reply ← Program.ask (store.getResponse key)
  match store.found key reply with
  | .ok (some replayed) => return replayed
  | _ => execute >>= store.storeResponse key

def handleCommand (app : AppState) (boundRegister : Option Uuid) (header : CommandHeader)
    (execute : Program Op Reply PosResponse) : Program Op Reply PosResponse :=
  let refuse (error : PosError) : Program Op Reply PosResponse := return .rejected header.idempotencyKey [error]
  if header.storeId ≠ app.storeId then refuse storeMismatch
  else if boundRegister.any (· ≠ header.registerId) then
    refuse ⟨"REGISTER_MISMATCH", "register_id does not match the paired device", some "register_id"⟩
  else if header.version ≠ .v1_0_0 then
    refuse ⟨"UNSUPPORTED_VERSION", "Unsupported contract version", none⟩
  else store.executeOnce header.idempotencyKey execute

end CommandStore

def Service.writes (wanted : Service) : Bool :=
  match wanted with
  | .fetchOpenShift .. | .getCustomer .. | .listPromotions _ | .getPrintTemplate .. => false
  | _ => true

/-- Calls of a provider count as writes: they move money. -/
def Call.writes (call : Call) : Bool :=
  match call with
  | .clock | .newId | .getResponse _ | .loadCart _ | .findPaymentIntent .. | .fetchPaymentIntentsAwaitingReversal _
  | .fetchOrderLedgerEntry _ | .fetchReturn _ | .listReturnLines _ | .listRefunds _ | .refundReservation _
  | .refundRecorded _ => false
  | .service wanted => wanted.writes
  | _ => true

def TillCall.writes (call : TillCall) : Bool :=
  match call with
  | .hub call => call.writes
  | _ => true

section Stores
variable {Remote Answer : Type}

/-- A statement that does not write leaves the hub as it was. -/
theorem perform_reads (providers : Providers Remote Answer) (choice : Choice Answer) (world : World Remote)
    (request : Request) (reading : request.call.writes = false) : (perform providers choice world request).2 = world := by
  obtain ⟨frame, call⟩ := request
  cases call
  all_goals first
    | rfl
    | exact query_world choice world _
    | cases reading

theorem performAtTill_reads (rates : LoyaltyRates) (providers : Providers Remote Answer) (choice : TillChoice Answer)
    (world : TillWorld Remote) (request : TillRequest) (reading : request.call.writes = false) :
    (performAtTill rates providers choice world request).2 = world := by
  obtain ⟨frame, debit, call⟩ := request
  cases call with
  | redeemGiftCard code amountCents => cases reading
  | redeemLoyaltyPoints customerId points => cases reading
  | hub call =>
    have kept := perform_reads providers choice.hub world.hub ⟨frame, call⟩ reading
    cases call
    case service wanted =>
      cases wanted <;> first | rfl | cases reading
    all_goals exact congrArg (fun hub => { world with hub := hub }) kept

/-- A stored response is found again. -/
theorem perform_remembers (providers : Providers Remote Answer) (choice later : Choice Answer) (world : World Remote)
    (frame frame' : Frame) (response : PosResponse) (fine : choice.storageFailure = none)
    (again : later.storageFailure = none) :
    (perform providers later
      (perform providers choice world ⟨frame, .setResponse response.idempotencyKey response⟩).2
      ⟨frame', .getResponse response.idempotencyKey⟩).1 = .ok (some response) := by
  simp [perform, update, transact, query, fine, again]

def hubStore (providers : Providers Remote Answer) :
    CommandStore Request Request.Reply (World Remote) (Choice Answer) where
  perform := perform providers
  writes request := request.call.writes
  fails choice := choice.storageFailure.isSome
  reads choice world request := perform_reads providers choice world request
  getResponse key := ⟨Frame.ofKey (some key), .getResponse key⟩
  setResponse key response := ⟨Frame.ofKey (some key), .setResponse response.idempotencyKey response⟩
  found _ reply := reply
  peeks _ := rfl
  remembers := by
    rintro choice world _ response fine rfl later again
    exact perform_remembers providers choice later world _ _ response (by simpa using fine) (by simpa using again)

def tillStore (rates : LoyaltyRates) (providers : Providers Remote Answer) :
    CommandStore TillRequest TillRequest.Reply (TillWorld Remote) (TillChoice Answer) where
  perform := performAtTill rates providers
  writes request := request.call.writes
  fails choice := choice.hub.storageFailure.isSome || choice.readBack.isSome
  reads choice world request := performAtTill_reads rates providers choice world request
  getResponse key := ⟨Frame.ofKey (some key), none, .hub (.getResponse key)⟩
  setResponse key response := ⟨Frame.ofKey (some key), none, .hub (.setResponse response.idempotencyKey response)⟩
  found _ reply := reply
  peeks _ := rfl
  remembers := by
    rintro choice world _ response fine rfl later again
    simp only [Bool.or_eq_false_iff, Option.isSome_eq_false_iff, Option.isNone_iff_eq_none] at fine again
    exact perform_remembers providers choice.hub later.hub world.hub _ _ response fine.1 again.1

/-- The hub's own commands are answered so. -/
theorem handlePosCommand_eq (app : AppState) (providers : Providers Remote Answer) (boundRegister : Option Uuid)
    (envelope : PosRequestEnvelope) :
    handlePosCommand app boundRegister envelope =
      (hubStore providers).handleCommand app boundRegister (.ofPos envelope) (executePosCommand app envelope) := by
  unfold handlePosCommand CommandStore.handleCommand
  refine if_congr Iff.rfl rfl (if_congr Iff.rfl rfl (if_congr Iff.rfl rfl ?_))
  show Program.request _ _ = Program.request _ _
  congr 1
  funext reply
  rcases reply with error | none | replayed <;> rfl

/-- Redemptions are answered so. -/
theorem handleRedemption_eq (app : AppState) (rates : LoyaltyRates) (providers : Providers Remote Answer)
    (envelope : TillEnvelope) (boundRegister : Option Uuid) (redeem : TillAction (List PosError) Payload) :
    handleRedemption app envelope boundRegister redeem =
      (tillStore rates providers).handleCommand app boundRegister (.ofTill envelope)
        (Program.bind redeem fun
          | .ok payload => return .accepted envelope.idempotencyKey payload
          | .error errors => return .rejected envelope.idempotencyKey errors) := by
  have stored : (Program.bind redeem fun
        | .ok payload => atTill (storeResponse (Frame.ofKey (some envelope.idempotencyKey))
            (.accepted envelope.idempotencyKey payload))
        | .error errors => return .rejected envelope.idempotencyKey errors) =
      (Program.bind redeem fun
        | .ok payload => return .accepted envelope.idempotencyKey payload
        | .error errors => return .rejected envelope.idempotencyKey errors) >>=
        (tillStore rates providers).storeResponse envelope.idempotencyKey := by
    refine Eq.trans ?_ (Program.bind_assoc redeem _ _).symm
    congr 1
    funext result
    cases result <;> rfl
  unfold handleRedemption CommandStore.handleCommand
  refine if_congr Iff.rfl rfl (if_congr Iff.rfl rfl (if_congr Iff.rfl rfl ?_))
  show Program.request _ _ = Program.request _ _
  congr 1
  funext reply
  rcases reply with error | none | replayed
  · exact stored
  · exact stored
  · rfl

end Stores
end ApexEdge.Hub
