import ApexEdge.Proofs.CartStates

/-! Two commands on the carts at a time. They are serial as long as each of them saves
over the cart it has loaded; otherwise the later save takes back the earlier one. -/

namespace ApexEdge.Proofs.LostUpdates
open Library Payment Domain Storage Contracts Pos
open Transaction

/-- What a cart sells, and what has been paid for it. -/
def saleOf (id : Uuid) (carts : List CartRow) :
    Option (List CartLineItem × List PaymentRecord × List AppliedCouponRecord × List ManualDiscountInfo) :=
  (Carts.load id carts).map fun cart => (cart.lines, cart.payments, cart.appliedCoupons, cart.manualDiscounts)

def SameSales (carts other : List CartRow) : Prop := ∀ id, saleOf id carts = saleOf id other

abbrev CartSessions := Sessions (List CartRow) CartWrite (Option Cart) (Except (List PosError) Cart)

/-- Two commands side by side; the schedule says whose storage step comes next. -/
def sideBySide (carts : List CartRow) (first second : CartWrite) (schedule : List Nat) : CartSessions :=
  Sequence.run (Sessions.step CartWrite.transaction) (Sessions.waiting carts [first, second]) schedule

/-- Both commands have been answered. -/
def Finished (all : CartSessions) : Prop := all.done.length = 2

instance (all : CartSessions) : Decidable (Finished all) := inferInstanceAs (Decidable (_ = _))

/-- One after the other, the commands get the same answers and leave the same sales. -/
def SerialInOrder (carts : List CartRow) (order : List CartWrite) (all : CartSessions) : Prop :=
  ∃ done, done.map Prod.fst = order ∧ done.Perm all.done ∧ Answers CartWrite.transaction carts done ∧
    SameSales all.state (serial CartWrite.transaction carts order)

/-- Every command that saves finds the cart that it has loaded. -/
def SavesOverLoaded (carts : List CartRow) (first second : CartWrite) (schedule : List Nat) : Prop :=
  Sequence.Meets (Sessions.step CartWrite.transaction) (Sessions.Current CartWrite.transaction)
    (Sessions.waiting carts [first, second]) schedule

instance (carts : List CartRow) (first second : CartWrite) (schedule : List Nat) :
    Decidable (SavesOverLoaded carts first second schedule) := inferInstanceAs (Decidable (Sequence.Meets ..))

theorem perm_pair {α : Type} {first second : α} {order : List α} (perm : order.Perm [first, second]) :
    order = [first, second] ∨ order = [second, first] := by
  obtain ⟨one, two, rfl⟩ := List.length_eq_two.mp perm.length_eq
  rcases List.mem_pair.mp (perm.mem_iff.mp List.mem_cons_self) with rfl | rfl
  · have rest := perm.cons_inv
    exact .inl (by rw [List.singleton_perm_singleton.mp rest])
  · have rest := (perm.trans (.swap _ _ _)).cons_inv
    exact .inr (by rw [List.singleton_perm_singleton.mp rest])

/-- Two commands that save over the carts they have loaded are serial. -/
theorem two_commands_serialize (carts : List CartRow) (first second : CartWrite) (schedule : List Nat)
    (current : SavesOverLoaded carts first second schedule)
    (finished : Finished (sideBySide carts first second schedule)) :
    SerialInOrder carts [first, second] (sideBySide carts first second schedule) ∨
      SerialInOrder carts [second, first] (sideBySide carts first second schedule) := by
  obtain ⟨done, serialized⟩ := run_serializable current
  have tasks : (done.map Prod.fst).Perm [first, second] := by
    have all : (sideBySide carts first second schedule).sessions.map Session.task = [first, second] :=
      tasks_run (Sessions.waiting carts [first, second]) schedule
    have two := congrArg List.length all
    rw [List.length_map] at two
    rw [← all, ← tasks_done (finished.trans two.symm)]
    exact serialized.done.map Prod.fst
  have serial (order : List CartWrite) (own : done.map Prod.fst = order) :
      SerialInOrder carts order (sideBySide carts first second schedule) := by
    refine ⟨done, own, serialized.done, serialized.answers, ?_⟩
    intro id
    rw [← own, serialized.state]
    rfl
  rcases perm_pair tasks with own | own
  · exact .inl (serial _ own)
  · exact .inr (serial _ own)

/-- A cart of ten dollars that is being paid for. -/
def paying : Cart :=
  { Cart.new (.random 1) .nil .nil 0 with
    state := .tendering
    lines := [{ lineId := .random 7, itemId := .random 107, sku := "SKU", name := "Item", quantity := 1
                modifierOptionIds := [], notes := none, unitPriceCents := 1000, lineTotalCents := 1000
                discountCents := 0, taxCents := 0, taxInclusive := false }] }

def stored : List CartRow := Carts.save paying []

def cash (tenderId cents : Nat) : CartWrite :=
  .change (.random 1) (.addPayment ⟨.random tenderId, cents, 0, some "cash", none, none, none⟩ 0)

/-- The second register loads the cart when the first has paid and saved. -/
theorem payments_in_turn :
    Finished (sideBySide stored (cash 90 300) (cash 91 400) [0, 0, 1, 1]) ∧
      (SerialInOrder stored [cash 90 300, cash 91 400] (sideBySide stored (cash 90 300) (cash 91 400) [0, 0, 1, 1]) ∨
        SerialInOrder stored [cash 91 400, cash 90 300]
          (sideBySide stored (cash 90 300) (cash 91 400) [0, 0, 1, 1])) :=
  ⟨by decide, two_commands_serialize stored (cash 90 300) (cash 91 400) [0, 0, 1, 1] (by decide) (by decide)⟩

/-- Both registers load the cart before either saves it: both payments are accepted,
and the cart keeps one. -/
theorem payment_is_lost :
    ¬∀ (carts : List CartRow) (first second : CartWrite) (schedule : List Nat),
      Finished (sideBySide carts first second schedule) →
        SerialInOrder carts [first, second] (sideBySide carts first second schedule) ∨
          SerialInOrder carts [second, first] (sideBySide carts first second schedule) := by
  intro all
  have lost (order : List CartWrite) (other : saleOf (.random 1) (serial CartWrite.transaction stored order) ≠
      saleOf (.random 1) (sideBySide stored (cash 90 300) (cash 91 400) [0, 1, 0, 1]).state) :
      ¬SerialInOrder stored order (sideBySide stored (cash 90 300) (cash 91 400) [0, 1, 0, 1]) := by
    rintro ⟨_, _, _, _, same⟩
    exact other (same (.random 1)).symm
  rcases all stored (cash 90 300) (cash 91 400) [0, 1, 0, 1] (by decide) with order | order
  · exact lost _ (by decide) order
  · exact lost _ (by decide) order

end ApexEdge.Proofs.LostUpdates
