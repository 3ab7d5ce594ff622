import ApexEdge.Domain.Cart
import ApexEdge.Library.SignedWord

/-! What a drawer should hold. The sum is made in signed words of 64 bits. -/

namespace ApexEdge.Domain
open Payment Library

inductive CashMovementKind where
  | paidIn | paidOut | noSale
  deriving DecidableEq, Repr

namespace CashMovementKind

def asStr (kind : CashMovementKind) : String :=
  match kind with
  | .paidIn => "paid_in"
  | .paidOut => "paid_out"
  | .noSale => "no_sale"

def parse (text : String) : Option CashMovementKind :=
  if text = "paid_in" then some .paidIn
  else if text = "paid_out" then some .paidOut
  else if text = "no_sale" then some .noSale
  else none

theorem parse_asStr (kind : CashMovementKind) : parse kind.asStr = some kind := by cases kind <;> decide

def signedEffect (kind : CashMovementKind) : Int :=
  match kind with
  | .paidIn => 1
  | .paidOut => -1
  | .noSale => 0

end CashMovementKind

structure CashMovement where
  id : Uuid
  kind : CashMovementKind
  amountCents : Nat
  reason : Option String
  approvalId : Option Uuid
  deriving DecidableEq, Repr

/-- What a movement does to the drawer. -/
def CashMovement.effect (movement : CashMovement) : Int := movement.kind.signedEffect * movement.amountCents

def expectedCashCents (openingFloatCents cashSalesCents cashRefundsCents : Nat) (movements : List CashMovement) : Int :=
  let start := wrapI64 (wrapI64 (asI64 openingFloatCents + asI64 cashSalesCents) - asI64 cashRefundsCents)
  movements.foldl
    (fun total movement => wrapI64 (total + wrapI64 (movement.kind.signedEffect * asI64 movement.amountCents))) start

def varianceCents (countedCents expectedCents : Int) : Int := wrapI64 (countedCents - expectedCents)

section Sums

private theorem bmod_effect (total sign amount : Int) (m : Nat) :
    (total.bmod m + (sign * amount.bmod m).bmod m).bmod m = (total + sign * amount).bmod m := by
  rw [Int.bmod_add_bmod, Int.add_bmod_bmod, Int.add_comm total, Int.add_comm total]
  exact Int.add_bmod_eq_add_bmod_right total (Int.mul_bmod_bmod)

private theorem bmod_balance (opening sales refunds : Int) (m : Nat) :
    ((opening.bmod m + sales.bmod m).bmod m - refunds.bmod m).bmod m = (opening + sales - refunds).bmod m := by
  rw [← Int.add_bmod, ← Int.sub_bmod]

private theorem foldl_effects (movements : List CashMovement) (start : Int) :
    movements.foldl
        (fun total movement => wrapI64 (total + wrapI64 (movement.kind.signedEffect * asI64 movement.amountCents)))
        (wrapI64 start) =
      wrapI64 (start + (movements.map CashMovement.effect).sum) := by
  induction movements generalizing start with
  | nil => simp
  | cons movement movements ih =>
    have step : wrapI64 (wrapI64 start + wrapI64 (movement.kind.signedEffect * asI64 movement.amountCents)) =
        wrapI64 (start + movement.effect) := bmod_effect ..
    rw [List.foldl_cons, step, ih, List.map_cons, List.sum_cons, Int.add_assoc]

/-- The intermediate sums may overflow; the result is that of the whole sum. -/
theorem expectedCashCents_eq (openingFloatCents cashSalesCents cashRefundsCents : Nat) (movements : List CashMovement) :
    expectedCashCents openingFloatCents cashSalesCents cashRefundsCents movements =
      wrapI64 (openingFloatCents + cashSalesCents - cashRefundsCents + (movements.map CashMovement.effect).sum) := by
  have start : wrapI64 (wrapI64 (asI64 openingFloatCents + asI64 cashSalesCents) - asI64 cashRefundsCents) =
      wrapI64 (openingFloatCents + cashSalesCents - cashRefundsCents) := bmod_balance ..
  unfold expectedCashCents
  dsimp only
  rw [start, foldl_effects]

/-- A movement moves the drawer by no more than its amount. -/
theorem CashMovement.effect_bounds (movement : CashMovement) :
    -(movement.amountCents : Int) ≤ movement.effect ∧ movement.effect ≤ movement.amountCents := by
  unfold effect
  cases movement.kind <;> simp only [CashMovementKind.signedEffect] <;> omega

end Sums

end ApexEdge.Domain
