import ApexEdge.Domain.Returns
import ApexEdge.Library.Sequence

/-! The books of a return over any run of operations on it: its total is what its lines are
worth, it is never refunded beyond its total, and a line of the receipt is not taken back
more often than it may be. -/

namespace ApexEdge.Proofs.ReturnSnapshots
open Library Library.Sequence Payment Domain Storage Contracts

inductive ReturnOperation where
  | addLine (line : ReturnLineRow) (maxAllowed : Option Nat)
  | applyRefund (refund : RefundRow)
  | finalize
  | void

def attempt (snapshot : ReturnSnapshot) (operation : ReturnOperation) : Except String ReturnSnapshot :=
  match operation with
  | .addLine line maxAllowed => snapshot.addLineWithin line maxAllowed
  | .applyRefund refund => snapshot.applyRefund refund
  | .finalize => snapshot.finalize
  | .void => snapshot.void

/-- An operation that fails leaves the return as it is. -/
def perform (snapshot : ReturnSnapshot) (operation : ReturnOperation) : ReturnSnapshot :=
  match attempt snapshot operation with
  | .ok after => after
  | .error _ => snapshot

/-- A return that has just been started. -/
structure Fresh (snapshot : ReturnSnapshot) : Prop where
  state : snapshot.row.state = .open
  total : snapshot.row.totalCents = 0
  refunded : snapshot.row.refundedCents = 0
  lines : snapshot.lines = []
  refunds : snapshot.refunds = []

/-- What the state of a return says of its refunds. -/
def Stated (snapshot : ReturnSnapshot) : Prop :=
  match snapshot.row.state with
  | .open | .items => snapshot.refunds = []
  | .tendered => snapshot.row.refundedCents < snapshot.row.totalCents
  | .paid => snapshot.refunds ≠ [] ∧ snapshot.row.refundedCents = snapshot.row.totalCents
  | .finalized | .voided => True

structure Consistent (snapshot : ReturnSnapshot) : Prop where
  total : snapshot.row.totalCents = min (snapshot.lines.map ReturnLineRow.grossCents).sum u64Max
  refunded : snapshot.row.refundedCents = min (snapshot.refunds.map RefundRow.amountCents).sum u64Max
  within : snapshot.row.refundedCents ≤ snapshot.row.totalCents
  stated : Stated snapshot

/-- The units of a line of the receipt that have been taken back. -/
def returnedUnits (snapshot : ReturnSnapshot) (original : Option Uuid) : Nat :=
  ((snapshot.lines.filter (·.originalLineId = original)).map ReturnLineRow.quantity).sum

section Steps
variable {snapshot after : ReturnSnapshot} {original : Option Uuid}

/-- What an operation that does not fail can do. -/
theorem attempt_cases {operation : ReturnOperation} (done : attempt snapshot operation = .ok after) :
    (∃ line maxAllowed, operation = .addLine line maxAllowed ∧
        (snapshot.row.state = .open ∨ snapshot.row.state = .items) ∧
        (∀ max, maxAllowed = some max → wrap32 (snapshot.already line.originalLineId + line.quantity) ≤ max) ∧
        after = { snapshot with row := snapshot.row.withLine line, lines := snapshot.lines ++ [line] }) ∨
      (∃ refund, operation = .applyRefund refund ∧ (snapshot.row.state = .items ∨ snapshot.row.state = .tendered) ∧
        saturatingAdd snapshot.row.refundedCents refund.amountCents ≤ snapshot.row.totalCents ∧
        after = ⟨{ snapshot.row with
            refundedCents := saturatingAdd snapshot.row.refundedCents refund.amountCents
            state := if snapshot.row.totalCents ≤ saturatingAdd snapshot.row.refundedCents refund.amountCents then .paid
              else .tendered }, snapshot.lines, snapshot.refunds ++ [refund]⟩) ∨
      ∃ state, (state = .finalized ∨ state = .voided) ∧ after = { snapshot with row := { snapshot.row with state := state } } := by
  cases operation with
  | addLine line maxAllowed =>
    simp only [attempt, ReturnSnapshot.addLineWithin, ReturnSnapshot.addLine] at done
    split at done
    next takes =>
      refine .inl ⟨line, maxAllowed, rfl, takes, ?_⟩
      cases maxAllowed with
      | none => exact ⟨nofun, (Except.ok.inj done).symm⟩
      | some max =>
        dsimp only at done
        split at done
        next => cases done
        next allowed =>
          refine ⟨fun limit same => ?_, (Except.ok.inj done).symm⟩
          cases same
          exact Nat.not_lt.mp allowed
    next => cases done
  | applyRefund refund =>
    simp only [attempt, ReturnSnapshot.applyRefund] at done
    split at done
    next takes =>
      split at done
      next => cases done
      next within => exact .inr (.inl ⟨refund, rfl, takes, Nat.not_lt.mp within, (Except.ok.inj done).symm⟩)
    next => cases done
  | finalize =>
    simp only [attempt, ReturnSnapshot.finalize] at done
    split at done
    next => exact .inr (.inr ⟨.finalized, .inl rfl, (Except.ok.inj done).symm⟩)
    next => cases done
  | void =>
    simp only [attempt, ReturnSnapshot.void] at done
    split at done
    next => cases done
    next => exact .inr (.inr ⟨.voided, .inr rfl, (Except.ok.inj done).symm⟩)

/-- A saturating total with one more amount. -/
theorem saturating_append (amounts : List Nat) (amount : Nat) :
    saturatingAdd (min amounts.sum u64Max) amount = min (amounts ++ [amount]).sum u64Max := by
  rw [List.sum_append, List.sum_singleton, saturatingAdd]
  omega

/-- A successful operation keeps the books of a return. -/
theorem consistent_attempt (kept : Consistent snapshot) {operation : ReturnOperation}
    (done : attempt snapshot operation = .ok after) : Consistent after := by
  obtain ⟨total, refunded, within, stated⟩ := kept
  rcases attempt_cases done with ⟨line, maxAllowed, -, takes, -, rfl⟩ | ⟨refund, -, takes, fits, rfl⟩ | ⟨state, ends, rfl⟩
  · have none : snapshot.refunds = [] := by
      rw [Stated] at stated
      rcases takes with is | is <;> rwa [is] at stated
    have more : snapshot.row.totalCents ≤ (snapshot.row.withLine line).totalCents := by
      show _ ≤ saturatingAdd _ _
      rw [saturatingAdd, total]
      omega
    refine ⟨?_, refunded, within.trans more, none⟩
    rw [List.map_append, List.map_singleton, ← saturating_append, ← total]
    rfl
  · refine ⟨total, ?_, fits, ?_⟩
    · rw [List.map_append, List.map_singleton, ← saturating_append, ← refunded]
    · unfold Stated
      by_cases paid : snapshot.row.totalCents ≤ saturatingAdd snapshot.row.refundedCents refund.amountCents
      · rw [if_pos paid]
        exact ⟨List.append_ne_nil_of_right_ne_nil _ (List.cons_ne_nil _ _), Nat.le_antisymm fits paid⟩
      · rw [if_neg paid]
        exact Nat.not_le.mp paid
  · refine ⟨total, refunded, within, ?_⟩
    rcases ends with rfl | rfl <;> trivial

theorem consistent_perform (kept : Consistent snapshot) (operation : ReturnOperation) :
    Consistent (perform snapshot operation) := by
  unfold perform
  cases done : attempt snapshot operation with
  | error _ => exact kept
  | ok after => exact consistent_attempt kept done

theorem consistent_run (fresh : Fresh snapshot) (operations : List ReturnOperation) :
    Consistent (run perform snapshot operations) := by
  have start : Consistent snapshot := by
    obtain ⟨state, total, refunded, lines, refunds⟩ := fresh
    refine ⟨by rw [total, lines]; rfl, by rw [refunded, refunds]; rfl, by omega, ?_⟩
    rw [Stated, state]
    exact refunds
  exact @keeps _ _ perform (fun _ _ => True) snapshot Consistent
    (fun _ operation kept _ => consistent_perform kept operation) operations start
    (meets_of_forall fun _ _ => trivial)

/-- A paid return is one that refunds have met and that has not been closed. -/
theorem Consistent.paid_iff (consistent : Consistent snapshot) : snapshot.row.state = .paid ↔
    snapshot.refunds ≠ [] ∧ snapshot.row.refundedCents = snapshot.row.totalCents ∧
      snapshot.row.state ≠ .finalized ∧ snapshot.row.state ≠ .voided := by
  have stated := consistent.stated
  unfold Stated at stated
  cases state : snapshot.row.state with
  | paid =>
    rw [state] at stated
    exact iff_of_true rfl ⟨stated.1, stated.2, nofun, nofun⟩
  | «open» | items =>
    rw [state] at stated
    exact iff_of_false nofun fun all => all.1 stated
  | tendered =>
    rw [state] at stated
    exact iff_of_false nofun fun all => absurd all.2.1 (by dsimp only at stated; omega)
  | finalized => exact iff_of_false nofun fun all => all.2.2.1 rfl
  | voided => exact iff_of_false nofun fun all => all.2.2.2 rfl

/-! ### Quantities -/

/-- A line of the receipt is taken back under its own maximum, and the sum that is checked
fits 32 bits. -/
def Limited (original : Option Uuid) (max : Nat) (snapshot : ReturnSnapshot) (operation : ReturnOperation) : Prop :=
  match operation with
  | .addLine line maxAllowed => line.originalLineId = original →
    maxAllowed = some max ∧ returnedUnits snapshot original + line.quantity < 2 ^ 32
  | _ => True

theorem units_attempt {max : Nat} (kept : returnedUnits snapshot original ≤ max) {operation : ReturnOperation}
    (limited : Limited original max snapshot operation) (done : attempt snapshot operation = .ok after) :
    returnedUnits after original ≤ max := by
  rcases attempt_cases done with ⟨line, maxAllowed, rfl, -, allowed, rfl⟩ | ⟨refund, -, -, -, rfl⟩ | ⟨state, -, rfl⟩
  · have added : returnedUnits { snapshot with row := snapshot.row.withLine line, lines := snapshot.lines ++ [line] } original =
        returnedUnits snapshot original + if line.originalLineId = original then line.quantity else 0 := by
      simp only [returnedUnits, List.filter_append, List.map_append, List.sum_append]
      by_cases own : line.originalLineId = original <;> simp [own]
    rw [added]
    by_cases own : line.originalLineId = original
    · obtain ⟨limit, small⟩ := limited own
      have checked := allowed max limit
      have exact : snapshot.already line.originalLineId = returnedUnits snapshot original := by
        rw [own]
        show returnedUnits snapshot original % 2 ^ 32 = _
        exact Nat.mod_eq_of_lt (by omega)
      rw [exact, wrap32, Nat.mod_eq_of_lt small] at checked
      rwa [if_pos own]
    · rwa [if_neg own]
  · exact kept
  · exact kept

theorem units_perform {max : Nat} (kept : returnedUnits snapshot original ≤ max) {operation : ReturnOperation}
    (limited : Limited original max snapshot operation) : returnedUnits (perform snapshot operation) original ≤ max := by
  unfold perform
  cases done : attempt snapshot operation with
  | error _ => exact kept
  | ok after => exact units_attempt kept limited done

theorem units_run (fresh : Fresh snapshot) {max : Nat} (operations : List ReturnOperation)
    (limited : Meets perform (Limited original max) snapshot operations) :
    returnedUnits (run perform snapshot operations) original ≤ max := by
  have start : returnedUnits snapshot original ≤ max := by
    rw [returnedUnits, fresh.lines]
    exact Nat.zero_le max
  exact @keeps _ _ perform (Limited original max) snapshot (fun current => returnedUnits current original ≤ max)
    (fun _ _ kept meets => units_perform kept meets) operations start limited

end Steps

/-- After any operations on a new return: its total is what its lines are worth and what has
been refunded is what its refunds are worth, up to the largest amount; no more is refunded
than the total; it is paid when refunds have met the total until it is closed; and a line
of the receipt is not taken back beyond the maximum under which it is taken back. -/
theorem return_stays_consistent {snapshot : ReturnSnapshot} (fresh : Fresh snapshot) (operations : List ReturnOperation) :
    let after := run perform snapshot operations
    after.row.totalCents = min (after.lines.map ReturnLineRow.grossCents).sum u64Max ∧
      after.row.refundedCents = min (after.refunds.map RefundRow.amountCents).sum u64Max ∧
      after.row.refundedCents ≤ after.row.totalCents ∧
      (after.row.state = .paid ↔ after.refunds ≠ [] ∧ after.row.refundedCents = after.row.totalCents ∧
        after.row.state ≠ .finalized ∧ after.row.state ≠ .voided) ∧
      ∀ original max, Meets perform (Limited original max) snapshot operations → returnedUnits after original ≤ max := by
  have consistent := consistent_run fresh operations
  exact ⟨consistent.total, consistent.refunded, consistent.within, consistent.paid_iff,
    fun original max limited => units_run fresh operations limited⟩

def newReturn : ReturnSnapshot :=
  ⟨⟨.random 1, .random 2, .random 3, none, some (.random 4), none, .open, 0, 0, 0, none⟩, [], []⟩

def widgets (quantity cents : Nat) : ReturnLineRow :=
  ⟨.random 5, .random 1, some (.random 6), "SKU-1", "Widget", quantity, cents, cents, 0, false⟩

def refundOf (cents : Nat) : RefundRow := ⟨.random 7, .random 1, "cash", cents, none⟩

/-- Two widgets taken back, of three that may be, and refunded in two parts. -/
theorem widgets_refunded :
    let operations := [.addLine (widgets 2 2000) (some 3), .applyRefund (refundOf 500), .applyRefund (refundOf 1500)]
    (run perform newReturn operations).row.refundedCents = 2000 ∧
      returnedUnits (run perform newReturn operations) (some (.random 6)) ≤ 3 := by
  intro operations
  have fresh : Fresh newReturn := ⟨rfl, rfl, rfl, rfl, rfl⟩
  obtain ⟨-, refunded, -, -, units⟩ := return_stays_consistent fresh operations
  have limited : Meets perform (Limited (some (.random 6)) 3) newReturn operations :=
    ⟨fun _ => ⟨rfl, by decide +kernel⟩, trivial, trivial, trivial⟩
  exact ⟨refunded.trans (by decide +kernel), units _ 3 limited⟩

def closedReturn : ReturnSnapshot :=
  run perform newReturn [.addLine (widgets 1 500) (some 3), .applyRefund (refundOf 500), .finalize]

/-- A return that nothing has been refunded of, a closed one, and a quantity that wraps. -/
theorem paid_and_refunded_differ :
    (newReturn.row.refundedCents = newReturn.row.totalCents ∧ newReturn.row.state = .open) ∧
      (closedReturn.row.refundedCents = closedReturn.row.totalCents ∧ closedReturn.row.state = .finalized) ∧
      returnedUnits (run perform newReturn [.addLine (widgets 2 500) (some 3),
        .addLine (widgets (2 ^ 32 - 1) 500) (some 3)]) (some (.random 6)) = 2 ^ 32 + 1 := by
  decide +kernel

end ApexEdge.Proofs.ReturnSnapshots
