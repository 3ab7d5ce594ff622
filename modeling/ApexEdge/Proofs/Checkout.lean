import ApexEdge.Hub.System

/-! How a finalization conducts itself: the order it writes has the lines of the
cart it loaded, and so has the cart that it saves. -/

namespace ApexEdge.Proofs.Checkout
open Library Payment Domain Storage Contracts Hub Protocol

/-- The lines of a cart as the ledger keeps them. -/
def ledgerLines (cart : Cart) : List NewOrderLineEntry := cart.toOrderLines.map ledgerLine

/-- Two states of one cart, with the same lines. -/
def SameLines (cart other : Cart) : Prop := cart.id = other.id ∧ cart.lines = other.lines

/-- The call agrees with the cart in the frame. -/
def Proper (request : Request) : Prop :=
  match request.call with
  | .saveCart cart => request.frame.cart = some cart
  | .insertOrderLedgerEntryWithOutbox entry _ =>
    ∃ cart, request.frame.cart = some cart ∧ entry.cartId = cart.id ∧ entry.lines = ledgerLines cart
  | .service (.releaseCartReservations ..) => False
  | _ => True

def Bears (known : Option Cart) (frame : Frame) : Prop :=
  ∀ cart, frame.cart = some cart → ∃ held, known = some held ∧ SameLines cart held

/-- The cart that is known after a reply: the one just loaded, or the one of before. -/
def knownAfter (frame : Frame) (call : Call) : call.Reply → Option Cart :=
  match call with
  | .loadCart _ => fun
    | .ok found => found
    | .error _ => none
  | _ => fun _ => frame.cart

def checkoutConduct : Protocol Request Request.Reply :=
  { follows := fun request reply next => Proper next ∧ Bears (knownAfter request.frame request.call reply) next.frame
    rests := fun _ => True }

def Opens (request : Request) : Prop := Proper request ∧ Bears none request.frame

/-- What the program may go on with when it knows a cart. -/
def Lets (may : Request → Prop) (known : Option Cart) : Prop :=
  ∀ request, Proper request → Bears known request.frame → may request

theorem Lets.forgets {may : Request → Prop} {known : Option Cart} (lets : Lets may known) : Lets may none := by
  intro request proper bears
  refine lets request proper ?_
  intro cart held
  obtain ⟨_, impossible, _⟩ := bears cart held
  cases impossible

theorem bears_idle (known : Option Cart) (key : Option Uuid) : Bears known (Frame.ofKey key) := by
  intro cart impossible
  cases impossible

theorem bears_cart {frame : Frame} {cart held : Cart} (same : SameLines cart held) :
    Bears (some held) (frame.withCart cart) := by
  intro other found
  cases found
  exact ⟨held, rfl, same⟩

theorem SameLines.rfl {cart : Cart} : SameLines cart cart := ⟨Eq.refl _, Eq.refl _⟩

section Parts
variable {may : Request → Prop} {known : Option Cart} {key : Option Uuid} {ε : Type}

/-- Where every part ends: it may go on with what is known. -/
def Knows {α : Type} (known : Option Cart) (may : Request → Prop) (_ : α) : Prop := Lets may known

private theorem keeps_reply {frame : Frame} {call : Call} {post : (Request → Prop) → Except ε call.Reply → Prop}
    (lets : Lets may known) (bears : Bears known frame) (proper : Proper ⟨frame, call⟩)
    (rest : ∀ may reply, Lets may (knownAfter frame call reply) → post may (.ok reply)) :
    checkoutConduct.Keeps may post (reply frame call : Action ε call.Reply) :=
  ⟨lets _ proper bears, fun reply => rest _ reply fun _ proper bears => ⟨proper, bears⟩⟩

/-- Ask for something with a cart in hand. -/
private theorem keeps_cart {cart : Cart} {call : Call} {post : (Request → Prop) → Except ε call.Reply → Prop}
    (lets : Lets may (some cart)) (proper : Proper ⟨(Frame.ofKey key).withCart cart, call⟩)
    (quiet : ∀ reply, knownAfter ((Frame.ofKey key).withCart cart) call reply = some cart)
    (rest : ∀ may reply, Lets may (some cart) → post may (.ok reply)) :
    checkoutConduct.Keeps may post (reply ((Frame.ofKey key).withCart cart) call : Action ε call.Reply) := by
  refine keeps_reply lets (bears_cart .rfl) proper ?_
  intro may reply lets
  rw [quiet] at lets
  exact rest may reply lets

/-- Ask for something without one. -/
private theorem keeps_idle {call : Call} {post : (Request → Prop) → Except ε call.Reply → Prop}
    (lets : Lets may known) (proper : Proper ⟨Frame.ofKey key, call⟩)
    (rest : ∀ may reply, Lets may none → post may (.ok reply)) :
    checkoutConduct.Keeps may post (reply (Frame.ofKey key) call : Action ε call.Reply) :=
  keeps_reply lets (bears_idle known key) proper fun may reply lets => rest may reply lets.forgets

private theorem lookupCustomer_keeps {storeId : Uuid} {cart : Cart} (lets : Lets may (some cart)) :
    checkoutConduct.Keeps may (Knows (some cart))
      (lookupCustomer ((Frame.ofKey key).withCart cart) storeId cart) := by
  unfold lookupCustomer
  cases cart.customerId with
  | none => exact lets
  | some customerId =>
    apply keeps_andThen
    refine keeps_cart lets trivial (fun _ => rfl) ?_
    intro may found lets
    cases found with
    | error error => exact lets
    | ok customer => exact lets

private theorem generateReceipt_keeps {app : AppState} {cart : Cart} {order : Order}
    (lets : Lets may (some cart)) :
    checkoutConduct.Keeps may (Knows (some cart))
      (generateReceipt app ((Frame.ofKey key).withCart cart) cart order) := by
  apply keeps_andThen
  refine keeps_cart lets trivial (fun _ => rfl) ?_
  intro may docId lets
  apply keeps_andThen
  apply (lookupCustomer_keeps lets).mono
  intro may customer lets
  rcases customer with errors | customer
  · exact lets
  · apply keeps_andThen
    refine keeps_cart lets trivial (fun _ => rfl) ?_
    intro may template lets
    apply keeps_andThen
    apply keeps_orThrow
    refine keeps_cart lets trivial (fun _ => rfl) ?_
    intro may generated lets
    rcases generated with error | _
    · exact lets
    · exact lets

private theorem earnPoints_keeps {cart : Cart} {order : Order} (lets : Lets may (some cart)) :
    checkoutConduct.Keeps may (Knows (some cart)) (earnPoints ((Frame.ofKey key).withCart cart) cart order) := by
  unfold earnPoints
  cases cart.customerId with
  | none => exact lets
  | some customerId =>
    dsimp only
    split
    · exact lets
    · apply keeps_andThen
      refine keeps_cart lets trivial (fun _ => rfl) ?_
      exact fun may earned lets => lets

private theorem completeOrder_keeps {app : AppState} {envelope : PosRequestEnvelope} {cart : Cart} {order : Order}
    {tookCash : Bool} (lets : Lets may (some cart)) :
    checkoutConduct.Keeps may (Knows none) (completeOrder app envelope cart order tookCash) := by
  apply keeps_andThen
  refine keeps_cart lets trivial (fun _ => rfl) ?_
  intro may settled lets
  apply keeps_andThen
  apply (earnPoints_keeps lets).mono
  intro may earned lets
  rcases earned with errors | _
  · exact lets.forgets
  · apply keeps_andThen
    refine keeps_cart lets trivial (fun _ => rfl) ?_
    intro may committed lets
    apply keeps_andThen
    apply (generateReceipt_keeps lets).mono
    intro may receipt lets
    rcases receipt with errors | docId
    · exact lets.forgets
    · apply keeps_andThen
      refine keeps_cart lets trivial (fun _ => rfl) ?_
      intro may now lets
      apply keeps_andThen
      apply keeps_orThrow
      -- The finalized cart has the lines of the loaded one.
      refine keeps_reply lets (bears_cart ⟨rfl, rfl⟩) rfl ?_
      intro may saved lets
      rcases saved with error | _
      · exact lets.forgets
      · apply keeps_andThen
        refine keeps_idle lets trivial ?_
        exact fun may printed lets => lets

private theorem finalizeOrder_keeps {app : AppState} {envelope : PosRequestEnvelope} {p : FinalizeOrderPayload}
    (lets : Lets may none) : checkoutConduct.Keeps may (Knows none) (finalizeOrder app envelope p) := by
  apply keeps_andThen
  apply keeps_andThen
  refine keeps_reply lets (bears_idle none _) trivial ?_
  intro may found lets
  rcases found with error | none | cart
  · exact lets
  · exact lets
  · apply keeps_andThen
    refine keeps_cart lets trivial (fun _ => rfl) ?_
    intro may orderId lets
    dsimp only
    cases built : cart.toOrder orderId with
    | error error => exact lets.forgets
    | ok order =>
      apply keeps_andThen
      refine keeps_cart lets trivial (fun _ => rfl) ?_
      intro may shift lets
      apply keeps_andThen
      refine keeps_cart lets trivial (fun _ => rfl) ?_
      intro may signed lets
      rcases signed with error | fiscal
      · apply keeps_andThen
        refine keeps_idle lets trivial ?_
        exact fun may flagged lets => lets
      · apply keeps_andThen
        refine keeps_cart lets trivial (fun _ => rfl) ?_
        intro may submissionId lets
        apply keeps_andThen
        have sold : order.lines = cart.toOrderLines := (Cart.toOrder_paid built).2
        have own : order.cartId = cart.id := (Cart.toOrder_ok built).2.1
        refine keeps_cart lets ⟨cart, rfl, own, by simp only [ledgerEntry, sold, ledgerLines]⟩ (fun _ => rfl) ?_
        intro may written lets
        rcases written with error | _
        · apply keeps_andThen
          refine keeps_idle lets trivial ?_
          exact fun may flagged lets => lets
        · exact completeOrder_keeps lets

/-- Every finalization keeps to the conduct. -/
theorem checkout_keeps (app : AppState) (request : FinalizeRequest) :
    checkoutConduct.Keeps Opens (fun _ _ => True) (request.task.program app) := by
  have lets : Lets Opens none := fun _ proper bears => ⟨proper, bears⟩
  apply Keeps.bind
  unfold handlePosCommand
  dsimp only
  split
  · trivial
  · split
    · trivial
    · split
      · trivial
      · refine ⟨lets _ trivial (bears_idle none _), ?_⟩
        intro stored
        have executes (may : Request → Prop) (lets : Lets may none) :
            checkoutConduct.Keeps may (fun may outcome => checkoutConduct.Keeps may (fun _ _ => True)
                (Pure.pure (Outcome.answered outcome) : Command Outcome))
              (executePosCommand app { request.envelope with payload := .finalizeOrder request.order } >>=
                storeResponse (Frame.ofKey (some request.envelope.idempotencyKey))) := by
          apply Keeps.bind
          unfold executePosCommand
          split
          · trivial
          · apply Keeps.bind
            apply (finalizeOrder_keeps lets).mono
            intro may result lets
            cases result with
            | error errors => trivial
            | ok payload => exact ⟨lets _ trivial (bears_idle none _), fun _ => trivial⟩
        rcases stored with error | none | replayed
        · exact executes _ fun _ proper bears => ⟨proper, bears⟩
        · exact executes _ fun _ proper bears => ⟨proper, bears⟩
        · trivial

end Parts
end ApexEdge.Proofs.Checkout
