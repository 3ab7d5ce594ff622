import ApexEdge.Hub.CommandStore
import ApexEdge.Proofs.Attempts

/-! Submitting a command again. Its success is stored once all of it is done, so that an
attempt which stops in between is carried out a second time. -/

namespace ApexEdge.Proofs.Retries
open Library Payment Domain Storage Contracts Hub

section Store
variable {Op : Type} {Reply : Op → Type} {World Choice : Type} (store : CommandStore Op Reply World Choice)

/-- The command has been answered for good. -/
def Answered (key : Uuid) (world : World) : Prop :=
  ∃ response, ∀ choice, store.fails choice = false →
    store.found key (store.perform choice world (store.getResponse key)).1 = .ok (some response)

/-- The statement that stores the response. -/
def Stores (key : Uuid) (op : Op) : Prop :=
  ∃ response, response.idempotencyKey = key ∧ op = store.setResponse key response

variable {store}

theorem answered_stores {key : Uuid} {choice : Choice} {world : World} {op : Op} (fine : store.fails choice = false)
    (stores : Stores store key op) : Answered store key (store.perform choice world op).2 := by
  obtain ⟨response, own, rfl⟩ := stores
  exact ⟨response, store.remembers choice world key response fine own⟩

/-- An answered command is not executed again. -/
theorem answered_repeats {app : AppState} {boundRegister : Option Uuid} {header : CommandHeader}
    {execute : Program Op Reply PosResponse} {world : World} {choices : List Choice}
    (answered : Answered store header.idempotencyKey world) (smooth : store.Smooth choices) :
    (store.attempt (store.handleCommand app boundRegister header execute) choices world).2 = world := by
  obtain ⟨response, found⟩ := answered
  unfold CommandStore.handleCommand
  dsimp only
  split
  · rfl
  split
  · rfl
  split
  · rfl
  cases choices with
  | nil => rfl
  | cons choice choices =>
    have fine := smooth choice List.mem_cons_self
    have same := store.reads choice world _ (store.peeks header.idempotencyKey)
    simp only [CommandStore.executeOnce, Program.ask_bind, Statements.attempt, found choice fine]
    exact same

end Store

section Runs
open Attempts

def inCash : PosRequestEnvelope :=
  { version := .v1_0_0, idempotencyKey := 100, storeId := 1, registerId := 2
    payload := .addPayment
      { cartId := 10, tenderId := 20, amountCents := 1000, tipAmountCents := 0, externalReference := none
        provider := none, providerPaymentId := none, entryMethod := none } }

/-- The first `count` statements of the attempt are answered. -/
def answers (count : Nat) : List (Choice ProviderAnswer) :=
  (List.range count).map fun step => choice step (500 + step) approves

def paymentsOn (cartId : Uuid) (world : World RemotePayments) : Option (List PaymentRecord) :=
  (Carts.load cartId world.db.carts).map Cart.payments

abbrev store : CommandStore Request Request.Reply (World RemotePayments) (Choice ProviderAnswer) := hubStore contractual

def payment : Program Request Request.Reply PosResponse :=
  store.handleCommand shop none (.ofPos inCash) (executePosCommand shop inCash)

/-- An attempt that gets through pays once. -/
theorem paid_once {one : List (Choice ProviderAnswer)} (smooth : store.Smooth one)
    (finishes : store.Finishes payment one opening) :
    (paymentsOn 10 (store.attempt payment one opening).2).map List.length = some 1 := by
  have plain : one.map (fun choice => { choice with storageFailure := none }) = one := by
    refine (List.map_congr_left fun choice member => ?_).trans (List.map_id one)
    have fine : choice.storageFailure.isSome = false := smooth choice member
    rw [← Option.not_isSome_iff_eq_none.mp (by simp [fine] : ¬choice.storageFailure.isSome)]
    rfl
  rw [← plain] at finishes ⊢
  rcases one with _ | ⟨first, _ | ⟨second, _ | ⟨third, _ | ⟨fourth, _ | ⟨fifth, rest⟩⟩⟩⟩⟩
  case cons.cons.cons.cons.cons => rfl
  all_goals exact absurd finishes Bool.false_ne_true

end Runs
end ApexEdge.Proofs.Retries
