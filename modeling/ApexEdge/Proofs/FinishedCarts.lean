import ApexEdge.Proofs.CartStates

/-! Finalized and voided carts. Every change of a cart looks at its state, but a cart
is created, and a parked one recalled, over whatever is stored under its id. -/

namespace ApexEdge.Proofs.FinishedCarts
open Library Payment Domain Storage Contracts Pos
open CartPricing CartStore

def Finished (cart : Cart) : Prop := cart.state = .finalized ∨ cart.state = .voided

structure SameSale (cart later : Cart) : Prop where
  state : later.state = cart.state
  lines : later.lines = cart.lines
  payments : later.payments = cart.payments

instance (cart : Cart) : Decidable (Finished cart) := inferInstanceAs (Decidable (_ ∨ _))

/-- No finished cart changes its state, its lines or its payments. -/
def Frozen (before after : CartTables) : Prop :=
  ∀ id cart, Carts.load id before.carts = some cart → Finished cart →
    ∃ later, Carts.load id after.carts = some later ∧ SameSale cart later

/-- From whatever point of the run, to whatever later one. -/
def FinishedStay (commands : List CartCommand) : Prop :=
  ∀ first second third, commands = first ++ second ++ third →
    Frozen (runCommands first) (runCommands (first ++ second))

/-- No cart is created under the id of a finished one, and none is recalled over a
finished one that it differs from. -/
def SparesFinished (db : CartTables) (command : CartCommand) : Prop :=
  match command with
  | .createCart cartId .. => ∀ cart ∈ Carts.load cartId db.carts, ¬Finished cart
  | .recallCart parkedCartId registerId now =>
    match (ParkedCarts.claim parkedCartId registerId now db.parked).1 with
    | .claimed snapshot _ => ∀ cart ∈ Carts.load snapshot.id db.carts, Finished cart → SameSale cart snapshot
    | _ => True
  | _ => True

theorem SameSale.refl (cart : Cart) : SameSale cart cart := ⟨rfl, rfl, rfl⟩

theorem Frozen.refl (db : CartTables) : Frozen db db := fun _ cart loaded _ => ⟨cart, loaded, .refl cart⟩

theorem Frozen.trans {first second third : CartTables} (early : Frozen first second) (late : Frozen second third) :
    Frozen first third := by
  intro id cart loaded finished
  obtain ⟨middle, stored, same⟩ := early id cart loaded finished
  have still : Finished middle := by simpa only [Finished, same.state] using finished
  obtain ⟨last, kept, again⟩ := late id middle stored still
  exact ⟨last, kept, again.state.trans same.state, again.lines.trans same.lines, again.payments.trans same.payments⟩

section Change
variable {cart changed : Cart} {wanted : CartChange}

/-- No change moves a cart to another id. -/
theorem change_id (did : wanted.apply cart = .ok changed) : changed.id = cart.id := by
  cases wanted with
  | setCustomer customerId now =>
    cases did
    rfl
  | edit wanted tables =>
    obtain ⟨_, _, _, _, _, rfl⟩ := editCart_frame did
    rfl
  | applyManualDiscount p tables =>
    obtain ⟨noted, added, rfl⟩ := discountCart_ok did
    obtain ⟨_, _, _, _, rfl⟩ := addManualDiscount_ok added
    rw [applyManual_frame]
    rfl
  | setTendering now =>
    simp only [CartChange.apply, startTendering] at did
    split at did <;> cases did
    rfl
  | addPayment input now =>
    simp only [CartChange.apply] at did
    split at did <;> cases did
    next added => exact (Cart.addPayment_ok added).1
  | voidCart now =>
    simp only [CartChange.apply] at did
    split at did <;> cases did
    rfl
  | finalizeOrder orderId now =>
    simp only [CartChange.apply] at did
    split at did <;> cases did
    rfl

/-- Of the changes, only setting the customer is possible on a finished cart. -/
theorem change_finished (finished : Finished cart) (did : wanted.apply cart = .ok changed) : SameSale cart changed := by
  have locked : ensureEditable cart ≠ .ok () := by
    intro allowed
    rcases ensureEditable_ok allowed with state | state | state <;> rcases finished with last | last <;>
      cases state.symm.trans last
  cases wanted with
  | setCustomer customerId now =>
    cases did
    exact ⟨rfl, rfl, rfl⟩
  | edit wanted tables =>
    obtain ⟨_, allowed, _⟩ := editCart_ok did
    exact absurd allowed locked
  | applyManualDiscount p tables =>
    obtain ⟨_, added, _⟩ := discountCart_ok did
    obtain ⟨_, allowed, _⟩ := addManualDiscount_ok added
    exact absurd allowed locked
  | setTendering now =>
    simp only [CartChange.apply, startTendering, Cart.ensureCanTender] at did
    rcases finished with state | state <;> simp [state] at did
  | addPayment input now =>
    simp only [CartChange.apply, Cart.addPayment] at did
    rcases finished with state | state <;> simp [state] at did
  | voidCart now =>
    simp only [CartChange.apply] at did
    split at did
    · cases did
    next active => exact absurd finished active
  | finalizeOrder orderId now =>
    simp only [CartChange.apply] at did
    split at did
    next built =>
      have paid := (Cart.toOrder_paid built).1
      rcases finished with state | state <;> cases paid.symm.trans state
    next => cases did

end Change

section Step
variable {db : CartTables} {command : CartCommand}

/-- A command that spares the finished carts leaves them as they are. -/
theorem frozen_of_spares (every : EveryCart (fun _ => True) db) (spares : SparesFinished db command) :
    Frozen db (applyCommand db command) := by
  intro id cart loaded finished
  have own := (every.stored id cart loaded).1
  rcases command_writes db command with same | ⟨written, after, wrote⟩
  · exact ⟨cart, same ▸ loaded, .refl cart⟩
  rw [after, Carts.load_save]
  split
  next mine =>
    refine ⟨written, rfl, ?_⟩
    subst mine
    cases wrote with
    | created cartId storeId registerId now asked fresh =>
      subst asked fresh
      exact absurd finished (spares cart loaded)
    | changed cartId wanted before asked found did =>
      have before_id := (every.stored cartId before found).1
      have same : cartId = written.id := by rw [change_id did, before_id]
      rw [same] at found
      cases found.symm.trans loaded
      exact change_finished finished did
    | recalled parkedCartId registerId now row asked found claimed snapshot =>
      subst asked
      simp only [SparesFinished, claimed] at spares
      exact spares cart loaded finished
  next => exact ⟨cart, loaded, .refl cart⟩

/-- A command that does not spare them changes one. -/
theorem spares_of_frozen (frozen : Frozen db (applyCommand db command)) : SparesFinished db command := by
  unfold SparesFinished
  split
  next cartId storeId registerId now =>
    intro cart loaded finished
    obtain ⟨later, stored, same⟩ := frozen cartId cart loaded finished
    simp only [applyCommand, CartCommand.execute, CartTables.save, Carts.load_save] at stored
    rw [if_pos (by rfl)] at stored
    cases stored
    rcases finished with state | state <;> cases same.state.trans state
  next parkedCartId registerId now =>
    split
    next snapshot parkedBy claimed =>
      intro cart loaded finished
      obtain ⟨later, stored, same⟩ := frozen snapshot.id cart loaded finished
      have saved : (applyCommand db (.recallCart parkedCartId registerId now)).carts =
          Carts.save snapshot db.carts := by
        simp only [applyCommand, CartCommand.execute, recallCart]
        split <;> simp_all [CartTables.save]
      rw [saved, Carts.load_save, if_pos rfl] at stored
      cases stored
      exact same
    next => trivial
  next => trivial

end Step

theorem own_ids (commands : List CartCommand) : EveryCart (fun _ => True) (runCommands commands) :=
  everyCart_run (fun _ _ _ _ => trivial) (fun _ _ _ _ _ _ => trivial)
    (Sequence.meets_of_forall (onChanges_of_forall fun _ _ => trivial))

/-- Finished carts stay as they are along a run exactly when no cart is created over
one and none is recalled over one that it differs from. -/
theorem finished_carts_stay_iff (commands : List CartCommand) :
    FinishedStay commands ↔ Sequence.Meets applyCommand SparesFinished CartTables.empty commands := by
  constructor
  · intro stay
    apply Sequence.meets_of_splits
    intro before command after split
    have frozen := stay before [command] after (by simp [split])
    rw [runCommands_append] at frozen
    exact spares_of_frozen frozen
  · intro spares first second third split
    rw [split] at spares
    have later := (Sequence.meets_append (Sequence.meets_append spares).1).2
    rw [runCommands_append]
    have kept (db : CartTables) (command : CartCommand)
        (held : EveryCart (fun _ => True) db ∧ Frozen (runCommands first) db) (spares : SparesFinished db command) :
        EveryCart (fun _ => True) (applyCommand db command) ∧
          Frozen (runCommands first) (applyCommand db command) := by
      refine ⟨?_, held.2.trans (frozen_of_spares held.1 spares)⟩
      exact everyCart_apply (fun _ _ _ _ => trivial) (fun _ _ _ _ _ _ => trivial) db command held.1
        (onChanges_of_forall (fun _ _ => trivial) db command)
    exact (Sequence.keeps kept ⟨own_ids first, .refl _⟩ later).2

section Runs
open CartStates

def payTen : CartCommand :=
  .changeCart (.random 1) (.addPayment ⟨.random 90, 1000, 0, some "cash", none, none, none⟩ 0)

def sellTen : List CartCommand :=
  [openCart, edit (offering []) (.addLineItem (line 7 1000 1)), tender, payTen,
    .changeCart (.random 1) (.finalizeOrder (.random 9) 0)]

def park : CartCommand := .parkCart (.random 1) (.random 60) .nil .nil none 0

def unpark : CartCommand := .recallCart (.random 60) .nil 0

def void : CartCommand := .changeCart (.random 1) (.voidCart 0)

/-- A cart is created over a finalized one; a parked cart is recalled over its voided self. -/
theorem finished_carts_reopen :
    ¬FinishedStay (sellTen ++ [openCart]) ∧
      ¬FinishedStay ([openCart, edit (offering []) (.addLineItem (line 7 1000 1)), park, void] ++ [unpark]) := by
  constructor <;> intro stay
  · have frozen := stay sellTen [openCart] [] rfl
    have sold : ∃ cart ∈ Carts.load (.random 1) (runCommands sellTen).carts, Finished cart ∧
        ∀ later ∈ Carts.load (.random 1) (runCommands (sellTen ++ [openCart])).carts, later.state ≠ cart.state := by
      decide +kernel
    obtain ⟨cart, loaded, finished, reopened⟩ := sold
    obtain ⟨later, stored, same⟩ := frozen _ cart loaded finished
    exact reopened later stored same.state
  · have frozen := stay [openCart, edit (offering []) (.addLineItem (line 7 1000 1)), park, void] [unpark] [] rfl
    have voided : ∃ cart ∈ Carts.load (.random 1)
        (runCommands [openCart, edit (offering []) (.addLineItem (line 7 1000 1)), park, void]).carts, Finished cart ∧
        ∀ later ∈ Carts.load (.random 1) (runCommands
          ([openCart, edit (offering []) (.addLineItem (line 7 1000 1)), park, void] ++ [unpark])).carts,
            later.state ≠ cart.state := by
      decide +kernel
    obtain ⟨cart, loaded, finished, reopened⟩ := voided
    obtain ⟨later, stored, same⟩ := frozen _ cart loaded finished
    exact reopened later stored same.state

end Runs
end ApexEdge.Proofs.FinishedCarts
