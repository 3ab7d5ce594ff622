import ApexEdge.Library.Transaction
import ApexEdge.Pos.CartEdits

/-! The cart commands over the tables they read and write. Each loads a whole cart
and writes a whole cart; one that fails leaves the carts as they were. Beside each other,
commands are held off only by others with the same key, and a cart is saved whatever has
become of it since it was loaded. -/

namespace ApexEdge.Pos
open Library Payment Domain Storage Contracts Hub

structure CartTables where
  carts : List CartRow
  parked : List ParkedCartRow
  deriving DecidableEq, Repr

def CartTables.empty : CartTables := ⟨[], []⟩

/-- A command with what it was told by the tables and the clock. -/
inductive CartCommand where
  | createCart (cartId storeId registerId : Uuid) (now : Timestamp)
  | changeCart (cartId : Uuid) (wanted : CartChange)
  | parkCart (cartId parkedCartId storeId registerId : Uuid) (note : Option String) (now : Timestamp)
  | recallCart (parkedCartId registerId : Uuid) (now : Timestamp)

inductive CartAnswer where
  | cart (cart : Cart)
  | parked (summary : ParkedCartRow)
  deriving DecidableEq, Repr

def CartTables.save (cart : Cart) (db : CartTables) : CartTables := { db with carts := Carts.save cart db.carts }

def changeCart (cartId : Uuid) (wanted : CartChange) (db : CartTables) :
    Except (List PosError) CartAnswer × CartTables :=
  match Carts.load cartId db.carts with
  | none => (.error cartNotFound, db)
  | some cart =>
    match wanted.apply cart with
    | .error errors => (.error errors, db)
    | .ok changed => (.ok (.cart changed), db.save changed)

/-- Parking copies the cart, whatever its state, and leaves it in place. -/
def parkCart (cartId parkedCartId storeId registerId : Uuid) (note : Option String) (now : Timestamp)
    (db : CartTables) : Except (List PosError) CartAnswer × CartTables :=
  match Carts.load cartId db.carts with
  | none => (.error cartNotFound, db)
  | some cart =>
    let row := ParkedCarts.newRow parkedCartId storeId registerId note cart now
    match ParkedCarts.park row db.parked with
    | .error error => (.error (posError "PARK_CART_FAILED" error.toString), db)
    | .ok rows => (.ok (.parked row), { db with parked := rows })

/-- Recalling writes the snapshot over the cart as it is now. -/
def recallCart (parkedCartId registerId : Uuid) (now : Timestamp) (db : CartTables) :
    Except (List PosError) CartAnswer × CartTables :=
  match ParkedCarts.claim parkedCartId registerId now db.parked with
  | (.claimed cart _, rows) => (.ok (.cart cart), ({ db with parked := rows }).save cart)
  | (.alreadyClaimed, rows) =>
    (.error (posError "CART_ALREADY_RECALLED" "Parked cart was already recalled by another register"),
      { db with parked := rows })
  | (.notFound, rows) =>
    (.error (posError "PARKED_CART_NOT_FOUND" "Parked cart not found"), { db with parked := rows })

def CartCommand.execute (command : CartCommand) (db : CartTables) : Except (List PosError) CartAnswer × CartTables :=
  match command with
  | .createCart cartId storeId registerId now =>
    let cart := Cart.new cartId storeId registerId now
    (.ok (.cart cart), db.save cart)
  | .changeCart cartId wanted => Pos.changeCart cartId wanted db
  | .parkCart cartId parkedCartId storeId registerId note now =>
    Pos.parkCart cartId parkedCartId storeId registerId note now db
  | .recallCart parkedCartId registerId now => Pos.recallCart parkedCartId registerId now db

def applyCommand (db : CartTables) (command : CartCommand) : CartTables := (command.execute db).2

abbrev runCommands (commands : List CartCommand) : CartTables :=
  Sequence.run applyCommand CartTables.empty commands

/-- What a command does to the carts. CreateCart puts a new cart, and RecallCart the
snapshot it has claimed, without loading anything. -/
inductive CartWrite where
  | put (cart : Cart)
  | change (cartId : Uuid) (wanted : CartChange)

namespace CartWrite

def load (write : CartWrite) (carts : List CartRow) : Option Cart :=
  match write with
  | .put _ => none
  | .change cartId _ => Carts.load cartId carts

def answer (write : CartWrite) (loaded : Option Cart) : Except (List PosError) Cart :=
  match write, loaded with
  | .put cart, _ => .ok cart
  | .change .., none => .error cartNotFound
  | .change _ wanted, some cart => wanted.apply cart

def transaction (write : CartWrite) : Transaction (List CartRow) (Option Cart) (Except (List PosError) Cart) :=
  { read := write.load, answer := write.answer
    write := fun loaded => (write.answer loaded).toOption.map Carts.save }

end CartWrite

/-- What the command is going to do to the carts; ParkCart leaves them alone, and so
does a RecallCart that claims nothing. -/
def CartCommand.write (command : CartCommand) (db : CartTables) : Option CartWrite :=
  match command with
  | .createCart cartId storeId registerId now => some (.put (Cart.new cartId storeId registerId now))
  | .changeCart cartId wanted => some (.change cartId wanted)
  | .parkCart .. => none
  | .recallCart parkedCartId registerId now =>
    match (ParkedCarts.claim parkedCartId registerId now db.parked).1 with
    | .claimed cart _ => some (.put cart)
    | _ => none

/-- A command that runs alone does to the carts what its write does. -/
theorem applyCommand_carts (db : CartTables) (command : CartCommand) :
    (applyCommand db command).carts =
      match command.write db with
      | none => db.carts
      | some write => (write.transaction.execute db.carts).2 := by
  cases command with
  | createCart cartId storeId registerId now => rfl
  | changeCart cartId wanted =>
    simp only [applyCommand, CartCommand.execute, changeCart, CartCommand.write, Transaction.execute,
      CartWrite.transaction, CartWrite.load, CartWrite.answer, Transaction.effect]
    cases Carts.load cartId db.carts with
    | none => rfl
    | some cart =>
      cases changed : wanted.apply cart with
      | error errors => simp only [changed, Except.toOption, Option.map_none]
      | ok after => simp only [changed, Except.toOption, Option.map_some, CartTables.save]
  | parkCart cartId parkedCartId storeId registerId note now =>
    simp only [applyCommand, CartCommand.execute, parkCart, CartCommand.write]
    split
    · rfl
    · split <;> rfl
  | recallCart parkedCartId registerId now =>
    simp only [applyCommand, CartCommand.execute, recallCart, CartCommand.write]
    split
    next claimed =>
      rw [claimed]
      rfl
    next claimed => rw [claimed]
    next claimed => rw [claimed]

end ApexEdge.Pos

/-! ApplyCoupon and the other cart commands. Beside the tables stands what no table keeps:
from which definition each coupon on a cart was put there, and what finalized orders have
redeemed. -/

namespace ApexEdge.Pos
open Library Payment Domain Storage Contracts Hub

def getCouponDefinitionByCode (code : String) (definitions : List CouponDefinition) : Option CouponDefinition :=
  definitions.find? (eqIgnoreAsciiCase ·.code code)

/-- ApplyCoupon on the cart that it has loaded. -/
def applyCoupon (definitions : List CouponDefinition) (toUppercase : String → String) (entered : String)
    (promos : List Promotion) (tables : PriceTables) (cart : Cart) : Except (List PosError) Cart := do
  ensureEditable cart
  let code := couponCode toUppercase entered
  if code = "" then throw (invalidCoupon "Coupon code is required")
  match getCouponDefinitionByCode code definitions with
  | none => throw couponNotFound
  | some coupon => editCart (.applyCoupon code coupon promos) tables cart

/-- The command is an ApplyCoupon whose coupon has been found already. -/
def CartCommand.appliesCoupon (command : CartCommand) : Bool :=
  match command with
  | .changeCart _ (.edit (.applyCoupon ..) _) => true
  | _ => false

inductive CouponCommand where
  | applyCoupon (cartId : Uuid) (entered : String) (promos : List Promotion) (tables : PriceTables)
  | other (command : { command : CartCommand // command.appliesCoupon = false })

structure CouponStore where
  db : CartTables
  /-- For each coupon on a cart, in their order, the definition it was put there from. -/
  sources : Uuid → List CouponDefinition
  /-- The same for parked carts. -/
  parkedSources : Uuid → List CouponDefinition
  /-- The orders that were finalized, with their coupons. -/
  redemptions : List (Uuid × List CouponDefinition)

namespace CouponStore

def empty : CouponStore := ⟨.empty, fun _ => [], fun _ => [], []⟩

def put (store : CouponStore) (cart : Cart) (sources : List CouponDefinition) : CouponStore :=
  { store with db := store.db.save cart, sources := Function.update store.sources cart.id sources }

/-- Which definitions a change leaves on the cart. -/
def left (wanted : CartChange) (cart : Cart) (sources : List CouponDefinition) : List CouponDefinition :=
  match wanted with
  | .edit (.removeCoupon couponId) _ =>
    ((cart.appliedCoupons.zip sources).filter (·.1.couponId ≠ couponId)).map Prod.snd
  | .voidCart _ => []
  | _ => sources

def redeems (wanted : CartChange) (sources : List CouponDefinition) : List (Uuid × List CouponDefinition) :=
  match wanted with
  | .finalizeOrder orderId _ => [(orderId, sources)]
  | _ => []

def applyOther (store : CouponStore) (command : CartCommand) : CouponStore :=
  match command with
  | .createCart cartId storeId registerId now => store.put (Cart.new cartId storeId registerId now) []
  | .changeCart cartId wanted =>
    match Carts.load cartId store.db.carts with
    | none => store
    | some cart =>
      match wanted.apply cart with
      | .error _ => store
      | .ok changed =>
        { store.put changed (left wanted cart (store.sources cartId)) with
          redemptions := store.redemptions ++ redeems wanted (store.sources cartId) }
  | .parkCart cartId parkedCartId .. =>
    match command.execute store.db with
    | (.error _, _) => store
    | (.ok _, db) =>
      { store with db := db, parkedSources := Function.update store.parkedSources parkedCartId (store.sources cartId) }
  | .recallCart parkedCartId registerId now =>
    match ParkedCarts.claim parkedCartId registerId now store.db.parked with
    | (.claimed cart _, rows) =>
      { store with db := { store.db with parked := rows } }.put cart (store.parkedSources parkedCartId)
    | (_, rows) => { store with db := { store.db with parked := rows } }

def apply (definitions : List CouponDefinition) (toUppercase : String → String) (store : CouponStore)
    (command : CouponCommand) : CouponStore :=
  match command with
  | .applyCoupon cartId entered promos tables =>
    match Carts.load cartId store.db.carts with
    | none => store
    | some cart =>
      match applyCoupon definitions toUppercase entered promos tables cart with
      | .error _ => store
      | .ok changed =>
        let found := (getCouponDefinitionByCode (couponCode toUppercase entered) definitions).toList
        store.put changed
          (if changed.appliedCoupons.length = cart.appliedCoupons.length then store.sources cartId
          else store.sources cartId ++ found)
  | .other command => store.applyOther command.val

/-- What is kept beside the tables does not change what the commands do to them. -/
theorem applyOther_db (store : CouponStore) (command : CartCommand) :
    (store.applyOther command).db = applyCommand store.db command := by
  cases command with
  | createCart cartId storeId registerId now => rfl
  | changeCart cartId wanted =>
    simp only [applyOther, applyCommand, CartCommand.execute, changeCart]
    cases Carts.load cartId store.db.carts with
    | none => rfl
    | some cart =>
      dsimp only
      cases wanted.apply cart <;> rfl
  | parkCart cartId parkedCartId storeId registerId note now =>
    simp only [applyOther, applyCommand, CartCommand.execute, parkCart]
    cases Carts.load cartId store.db.carts with
    | none => rfl
    | some cart =>
      dsimp only
      cases ParkedCarts.park (ParkedCarts.newRow parkedCartId storeId registerId note cart now) store.db.parked <;> rfl
  | recallCart parkedCartId registerId now =>
    simp only [applyOther, applyCommand, CartCommand.execute, recallCart]
    obtain ⟨outcome, rows⟩ := ParkedCarts.claim parkedCartId registerId now store.db.parked
    cases outcome <;> rfl

end CouponStore
end ApexEdge.Pos
