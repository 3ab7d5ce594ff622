import ApexEdge.Pos.CartCommands
import ApexEdge.Proofs.CartPricing

/-! What a cart command can do to the store, told once: it writes at most one cart,
which is new, changed from the one it loaded, or a parked snapshot. Facts about
every cart of a run follow from the changes alone. -/

namespace ApexEdge.Proofs.CartStore
open Library Payment Domain Storage Contracts Pos

/-- The cart that a command writes, and where it takes it from. -/
inductive Writes (db : CartTables) (command : CartCommand) (cart : Cart) : Prop where
  | created (cartId storeId registerId : Uuid) (now : Timestamp)
      (asked : command = .createCart cartId storeId registerId now)
      (fresh : cart = Cart.new cartId storeId registerId now)
  | changed (cartId : Uuid) (wanted : CartChange) (before : Cart) (asked : command = .changeCart cartId wanted)
      (loaded : Carts.load cartId db.carts = some before) (did : wanted.apply before = .ok cart)
  | recalled (parkedCartId registerId : Uuid) (now : Timestamp) (row : ParkedCartRow)
      (asked : command = .recallCart parkedCartId registerId now) (found : row ∈ db.parked)
      (claimed : (ParkedCarts.claim parkedCartId registerId now db.parked).1 = .claimed cart row.registerId)
      (snapshot : cart = row.cartData)

section Step
variable {db : CartTables} {command : CartCommand}

theorem claim_cases (id registerId : Uuid) (now : Timestamp) (rows : List ParkedCartRow) :
    (∃ row ∈ rows, (ParkedCarts.claim id registerId now rows).1 = .claimed row.cartData row.registerId) ∨
      (ParkedCarts.claim id registerId now rows).1 = .alreadyClaimed ∨
      (ParkedCarts.claim id registerId now rows).1 = .notFound := by
  unfold ParkedCarts.claim
  dsimp only
  cases found : rows.find? (·.id = id) with
  | none => split <;> exact .inr (.inr rfl)
  | some row =>
    split
    · exact .inl ⟨row, List.mem_of_find?_eq_some found, rfl⟩
    · exact .inr (.inl rfl)

theorem claim_rows {id registerId : Uuid} {now : Timestamp} {rows : List ParkedCartRow} {row : ParkedCartRow}
    (member : row ∈ (ParkedCarts.claim id registerId now rows).2) :
    ∃ old ∈ rows, row.cartData = old.cartData := by
  unfold ParkedCarts.claim at member
  dsimp only at member
  split at member
  · obtain ⟨old, present, rfl⟩ := List.mem_map.mp member
    exact ⟨old, present, Table.Update.row_column _ ParkedCartRow.cartData (fun _ => rfl) old⟩
  · exact ⟨row, member, rfl⟩

/-- A command leaves the carts alone or writes one of them. -/
theorem command_writes (db : CartTables) (command : CartCommand) :
    (applyCommand db command).carts = db.carts ∨
      ∃ cart, (applyCommand db command).carts = Carts.save cart db.carts ∧ Writes db command cart := by
  cases command with
  | createCart cartId storeId registerId now => exact .inr ⟨_, rfl, .created _ _ _ _ rfl rfl⟩
  | changeCart cartId wanted =>
    simp only [applyCommand, CartCommand.execute, changeCart]
    cases loaded : Carts.load cartId db.carts with
    | none => exact .inl rfl
    | some cart =>
      cases did : wanted.apply cart with
      | error errors => exact .inl (by simp [did])
      | ok changed => exact .inr ⟨changed, by simp [did, CartTables.save], .changed _ _ _ rfl loaded did⟩
  | parkCart cartId parkedCartId storeId registerId note now =>
    simp only [applyCommand, CartCommand.execute, parkCart]
    left
    split
    · rfl
    · split <;> rfl
  | recallCart parkedCartId registerId now =>
    simp only [applyCommand, CartCommand.execute, recallCart]
    rcases claim_cases parkedCartId registerId now db.parked with ⟨row, found, answer⟩ | answer | answer
    · right
      refine ⟨row.cartData, ?_, .recalled _ _ _ row rfl found answer rfl⟩
      split <;> simp_all [CartTables.save]
    · left
      split <;> simp_all
    · left
      split <;> simp_all

/-- A parked snapshot is an old one or a copy of a cart. -/
theorem command_parks {row : ParkedCartRow} (member : row ∈ (applyCommand db command).parked) :
    (∃ old ∈ db.parked, row.cartData = old.cartData) ∨ ∃ id, Carts.load id db.carts = some row.cartData := by
  cases command with
  | createCart cartId storeId registerId now => exact .inl ⟨row, member, rfl⟩
  | changeCart cartId wanted =>
    left
    refine ⟨row, ?_, rfl⟩
    simp only [applyCommand, CartCommand.execute, changeCart] at member
    split at member
    · exact member
    · split at member <;> exact member
  | parkCart cartId parkedCartId storeId registerId note now =>
    simp only [applyCommand, CartCommand.execute, parkCart, ParkedCarts.park] at member
    cases loaded : Carts.load cartId db.carts with
    | none => exact .inl ⟨row, by simpa [loaded] using member, rfl⟩
    | some cart =>
      simp only [loaded] at member
      split at member
      next clash =>
        split at clash
        · exact .inl ⟨row, member, rfl⟩
        · cases clash
      next rows parked =>
        split at parked
        · cases parked
        · cases parked
          rcases List.mem_append.mp member with old | new
          · exact .inl ⟨row, old, rfl⟩
          · cases List.mem_singleton.mp new
            exact .inr ⟨cartId, loaded⟩
  | recallCart parkedCartId registerId now =>
    left
    simp only [applyCommand, CartCommand.execute, recallCart] at member
    split at member
    all_goals
      next claimed =>
        apply claim_rows
        rw [claimed]
        exact member

end Step

/-- Every cart of the store, parked ones among them. -/
structure EveryCart (Holds : Cart → Prop) (db : CartTables) : Prop where
  stored : ∀ id cart, Carts.load id db.carts = some cart → cart.id = id ∧ Holds cart
  parked : ∀ row ∈ db.parked, Holds row.cartData

/-- A condition on changes, as one on the commands that make them. -/
def OnChanges (allowed : Cart → CartChange → Prop) (db : CartTables) (command : CartCommand) : Prop :=
  match command with
  | .changeCart cartId wanted => ∀ cart ∈ Carts.load cartId db.carts, allowed cart wanted
  | _ => True

instance (allowed : Cart → CartChange → Prop) [∀ cart wanted, Decidable (allowed cart wanted)] (db : CartTables)
    (command : CartCommand) : Decidable (OnChanges allowed db command) := by
  unfold OnChanges
  split <;> infer_instance

theorem onChanges_of_forall {allowed : Cart → CartChange → Prop} (always : ∀ cart wanted, allowed cart wanted)
    (db : CartTables) (command : CartCommand) : OnChanges allowed db command := by
  unfold OnChanges
  split
  · exact fun cart _ => always cart _
  · trivial

theorem runCommands_append (first second : List CartCommand) :
    runCommands (first ++ second) = Sequence.run applyCommand (runCommands first) second :=
  Sequence.run_append first second

section Run
variable {Holds : Cart → Prop} {allowed : Cart → CartChange → Prop}

theorem everyCart_apply (fresh : ∀ cartId storeId registerId now, Holds (Cart.new cartId storeId registerId now))
    (kept : ∀ cart wanted changed, Holds cart → allowed cart wanted → wanted.apply cart = .ok changed → Holds changed)
    (db : CartTables) (command : CartCommand) (every : EveryCart Holds db) (meets : OnChanges allowed db command) :
    EveryCart Holds (applyCommand db command) := by
  have writes {cart : Cart} (wrote : Writes db command cart) : Holds cart := by
    cases wrote with
    | created cartId storeId registerId now asked same => exact same ▸ fresh cartId storeId registerId now
    | changed cartId wanted before asked loaded did =>
      subst asked
      exact kept before wanted cart (every.stored cartId before loaded).2 (meets before loaded) did
    | recalled parkedCartId registerId now row asked found claimed snapshot =>
      exact snapshot ▸ every.parked row found
  constructor
  · intro id cart loaded
    rcases command_writes db command with same | ⟨written, after, wrote⟩
    · exact every.stored id cart (same ▸ loaded)
    · rw [after, Carts.load_save] at loaded
      split at loaded
      next own =>
        cases loaded
        exact ⟨own.symm, writes wrote⟩
      next => exact every.stored id cart loaded
  · intro row member
    rcases command_parks member with ⟨old, present, same⟩ | ⟨id, loaded⟩
    · exact same ▸ every.parked old present
    · exact (every.stored id row.cartData loaded).2

/-- A fact about new carts that every allowed change keeps holds of every cart of a run. -/
theorem everyCart_run (fresh : ∀ cartId storeId registerId now, Holds (Cart.new cartId storeId registerId now))
    (kept : ∀ cart wanted changed, Holds cart → allowed cart wanted → wanted.apply cart = .ok changed → Holds changed)
    {commands : List CartCommand}
    (meets : Sequence.Meets applyCommand (OnChanges allowed) CartTables.empty commands) :
    EveryCart Holds (runCommands commands) := by
  apply Sequence.keeps (everyCart_apply fresh kept) _ meets
  exact { stored := fun _ _ loaded => (nomatch loaded), parked := fun _ member => (nomatch member) }

end Run
end ApexEdge.Proofs.CartStore

/-! The state of a cart and its lines. Line edits and pricing agree on the state,
but pricing an empty cart calls it discounted when a manual discount is left over. -/

namespace ApexEdge.Proofs.CartStates
open Library Payment Domain Storage Contracts Pos
open CartPricing CartStore

/-- An editable cart is open exactly when it is empty; past editing it is not empty. -/
def StateFits (cart : Cart) : Prop :=
  match cart.state with
  | .open => cart.lines = []
  | .itemized | .discounted | .tendering | .paid | .finalized => cart.lines ≠ []
  | .voided => True

instance (cart : Cart) : Decidable (StateFits cart) := by
  unfold StateFits
  split <;> infer_instance

/-- No coupon or promotion command on an empty cart with manual discounts left over. -/
def NothingLeftOver (cart : Cart) (wanted : CartChange) : Prop :=
  match wanted with
  | .edit wanted _ => keepsLines wanted → cart.lines = [] → cart.manualDiscounts = []
  | _ => True

instance (cart : Cart) (wanted : CartChange) : Decidable (NothingLeftOver cart wanted) := by
  unfold NothingLeftOver
  split <;> infer_instance

section Edits
variable {cart : Cart} {tables : PriceTables} {wanted : CartEdit} {edited : Cart}

theorem fits_stateOfLines {lines : List CartLineItem} (state : cart.state = Cart.stateOfLines lines)
    (same : cart.lines = lines) : StateFits cart := by
  subst same
  unfold Cart.stateOfLines at state
  cases empty : cart.lines with
  | nil => simp [StateFits, state, empty]
  | cons line lines => simp [StateFits, state, empty]

/-- Pricing fits the state to the lines unless a manual discount outlives them. -/
theorem fits_repriced (tidy : cart.lines = [] → cart.manualDiscounts = []) : StateFits (repriced tables cart) := by
  by_cases empty : cart.lines = []
  · have state := @repriced_state_of_empty tables cart empty (tidy empty)
    simpa only [StateFits, state] using repriced_lines_eq_nil.mpr empty
  · have some : (repriced tables cart).lines ≠ [] := fun none => empty (repriced_lines_eq_nil.mp none)
    rcases @repriced_state_of_lines tables cart empty with state | state <;> simpa only [StateFits, state]

theorem fits_of_some (lines : cart.lines ≠ []) : StateFits (repriced tables cart) :=
  fits_repriced fun empty => absurd empty lines

theorem fits_edit (tidy : NothingLeftOver cart (.edit wanted tables)) {changed : Cart}
    (done : editCart wanted tables cart = .ok changed) : StateFits changed := by
  obtain ⟨edited, _, did, rfl⟩ := editCart_ok done
  by_cases keeps : keepsLines wanted
  · obtain ⟨lines, discounts⟩ := keepsLines_frame keeps did
    have reprices : wanted.reprices edited := by cases wanted <;> first | rfl | cases keeps
    rw [if_pos reprices]
    exact fits_repriced fun empty => discounts ▸ tidy keeps (lines ▸ empty)
  · cases wanted with
    | addLineItem input =>
      cases did
      exact fits_of_some (by simp [Cart.addLineItem])
    | updateLineItem lineId quantity notes =>
      simp only [CartEdit.apply, updateLine] at did
      split at did
      · cases did
      · cases did
        next found =>
          obtain ⟨length, some⟩ := setQuantity_length found
          exact fits_of_some (List.length_pos_iff.mp (length ▸ List.length_pos_iff.mpr some))
    | removeLineItem lineId =>
      obtain ⟨position, rfl⟩ := removeLine_ok did
      split
      next some => exact fits_of_some (by simpa [CartEdit.reprices] using some)
      next => exact fits_stateOfLines rfl rfl
    | applyCoupon | removeCoupon | applyPromo | removePromo => exact absurd rfl keeps

end Edits

section Discounts
variable {cart changed : Cart} {p : ApplyManualDiscountPayload}

/-- Nothing can be taken off an empty cart. -/
theorem lines_of_discount {amountCents : Nat} (amount : manualDiscountAmount p cart = .ok amountCents)
    (positive : amountCents ≠ 0) : cart.lines ≠ [] := by
  intro empty
  have subtotal : cart.subtotalCents = 0 := by simp [Cart.subtotalCents, empty]
  have missing (kind : String) : ∃ errors, discountedLine kind p.lineId cart = .error errors := by
    unfold discountedLine
    split
    · exact ⟨_, rfl⟩
    · simp [empty]
  obtain ⟨_, percentMissing⟩ := missing "Percent"
  obtain ⟨_, fixedMissing⟩ := missing "Fixed"
  unfold manualDiscountAmount at amount
  cases kind : p.kind <;>
    simp [kind, subtotal, percentMissing, fixedMissing, bind, Except.bind] at amount
  all_goals exact positive amount.symm

theorem fits_discount {tables : PriceTables} (done : discountCart p tables cart = .ok changed) : StateFits changed := by
  obtain ⟨noted, added, rfl⟩ := discountCart_ok done
  obtain ⟨amountCents, _, amount, positive, rfl⟩ := addManualDiscount_ok added
  have some := lines_of_discount amount positive
  show (applyManualDiscountsToLines tables _).lines ≠ []
  rw [← List.length_pos_iff, applyManual_length]
  exact List.length_pos_iff.mpr some

end Discounts

theorem fits_change (cart : Cart) (wanted : CartChange) (changed : Cart) (fits : StateFits cart)
    (tidy : NothingLeftOver cart wanted) (did : wanted.apply cart = .ok changed) : StateFits changed := by
  cases wanted with
  | setCustomer customerId now =>
    cases did
    exact fits
  | edit wanted tables => exact fits_edit tidy did
  | applyManualDiscount p tables => exact fits_discount did
  | setTendering now =>
    simp only [CartChange.apply, startTendering, Cart.ensureCanTender] at did
    cases state : cart.state <;> simp only [state, reduceCtorEq, Except.ok.injEq] at did
    all_goals
      subst did
      have lines : cart.lines ≠ [] := by simpa only [StateFits, state] using fits
      exact lines
  | addPayment input now =>
    simp only [CartChange.apply] at did
    split at did <;> cases did
    next added =>
      unfold Cart.addPayment at added
      split at added
      · cases added
      next tendered =>
        simp only [ne_eq, not_and_or, not_not] at tendered
        have lines : cart.lines ≠ [] := by
          rcases tendered with state | state <;> simpa only [StateFits, state] using fits
        cases added
        split
        · exact lines
        · rcases tendered with state | state <;> simpa only [StateFits, state] using lines
  | voidCart now =>
    simp only [CartChange.apply] at did
    split at did <;> cases did
    trivial
  | finalizeOrder orderId now =>
    simp only [CartChange.apply] at did
    split at did <;> cases did
    next built =>
      have paid := (Cart.toOrder_paid built).1
      show cart.lines ≠ []
      simpa only [StateFits, paid] using fits

/-- An editable cart is open exactly when it is empty; a cart that is being paid for,
and any order made of it, has a line. -/
structure WellStated (cart : Cart) : Prop where
  editable : cart.state = .open ∨ cart.state = .itemized ∨ cart.state = .discounted →
    (cart.state = .open ↔ cart.lines = [])
  selling : cart.state = .tendering ∨ cart.state = .paid ∨ cart.state = .finalized → cart.lines ≠ []
  order : ∀ orderId order, cart.toOrder orderId = .ok order → order.lines ≠ []

theorem StateFits.wellStated {cart : Cart} (fits : StateFits cart) : WellStated cart := by
  have selling (state : cart.state = .tendering ∨ cart.state = .paid ∨ cart.state = .finalized) : cart.lines ≠ [] := by
    rcases state with state | state | state <;> simpa only [StateFits, state] using fits
  refine { editable := ?_, selling := selling, order := ?_ }
  · intro editable
    rcases editable with state | state | state <;> simp only [StateFits, state] at fits <;> simp [state, fits]
  · intro orderId order built
    obtain ⟨paid, lines⟩ := Cart.toOrder_paid built
    simpa [lines, Cart.toOrderLines] using selling (.inr (.inl paid))

/-- In every run without a coupon or promotion command on an empty cart with left-over
manual discounts, the states of all carts fit their lines. -/
theorem states_fit_lines {commands : List CartCommand}
    (tidy : Sequence.Meets applyCommand (OnChanges NothingLeftOver) CartTables.empty commands) :
    ∀ id cart, Carts.load id (runCommands commands).carts = some cart → WellStated cart := by
  intro id cart loaded
  have every := everyCart_run (fun _ _ _ _ => rfl) fits_change tidy
  exact (every.stored id cart loaded).2.wellStated

/-- Tables with these promotions and no taxes. -/
def offering (promos : List Promotion) : PriceTables :=
  { rules := [], promos := promos, itemToTaxCategory := [], now := 0 }

/-- Ten dollars off for whoever gives the code. -/
def tenOff : Promotion :=
  { id := .random 40, code := some "TEN", promoType := .fixedAmountOff 1000, priority := 1, validFrom := 0
    validUntil := none, conditions := [], actions := [] }

def openCart : CartCommand := .createCart (.random 1) .nil .nil 0

def edit (tables : PriceTables) (wanted : CartEdit) : CartCommand := .changeCart (.random 1) (.edit wanted tables)

def line (id cents quantity : Nat) : AddLineItemInput :=
  { lineId := .random id, itemId := .random (100 + id), sku := "SKU", name := "Item", quantity := quantity
    unitPriceCents := cents, modifierOptionIds := [], notes := none }

def takeOff (kind : ManualDiscountKind) (value : Nat) (lineId : Option Uuid) (tables : PriceTables) : CartCommand :=
  .changeCart (.random 1) (.applyManualDiscount ⟨.random 1, "damaged", kind, value, lineId⟩ tables)

def tender : CartCommand := .changeCart (.random 1) (.setTendering 0)

def payNothing : CartCommand :=
  .changeCart (.random 1) (.addPayment ⟨.random 90, 0, 0, some "cash", none, none, none⟩ 0)

/-- A discounted line is sold. -/
def discountedSale : List CartCommand :=
  [openCart, edit (offering [tenOff]) (.addLineItem (line 7 1000 1)),
    takeOff .fixedItem 1000 (some (.random 7)) (offering [tenOff]), tender, payNothing]

theorem discounted_line_is_sold :
    ∃ cart, Carts.load (.random 1) (runCommands discountedSale).carts = some cart ∧ WellStated cart := by
  obtain ⟨cart, loaded⟩ : ∃ cart, Carts.load (.random 1) (runCommands discountedSale).carts = some cart :=
    Option.isSome_iff_exists.mp (by decide)
  exact ⟨cart, loaded, states_fit_lines (by decide) _ cart loaded⟩

/-- The line goes, its discount stays, and a promotion is asked for. -/
def emptySale : List CartCommand :=
  [openCart, edit (offering [tenOff]) (.addLineItem (line 7 1000 1)),
    takeOff .fixedItem 100 (some (.random 7)) (offering [tenOff]),
    edit (offering [tenOff]) (.removeLineItem (.random 7)),
    edit (offering [tenOff]) (.applyPromo (.random 40) [tenOff]), tender, payNothing]

/-- An empty cart is discounted, tendered and paid, and makes an order without lines. -/
theorem empty_cart_is_sold :
    ¬∀ id cart, Carts.load id (runCommands emptySale).carts = some cart → WellStated cart := by
  intro all
  have sold : ∃ cart ∈ Carts.load (.random 1) (runCommands emptySale).carts,
      ∃ order ∈ (cart.toOrder (.random 9)).toOption, order.lines = [] := by
    decide
  obtain ⟨cart, loaded, order, built, empty⟩ := sold
  exact (all _ cart loaded).order _ order (ok_of_mem_toOption built) empty

end ApexEdge.Proofs.CartStates
