import Mathlib.Algebra.GroupWithZero.Nat
import Mathlib.Algebra.Ring.Int.Defs

/-! The payment provider interface: what a hub asks of a terminal or tender, and
how a failure is classified. Card data never reaches this layer; a provider
returns an opaque payment id and receipt metadata. -/

namespace ApexEdge.Payment

/-- Identifiers are compared and printed, never computed with. A version 5 one is
its seed, so that two seeds never meet in one identifier. -/
inductive Uuid where
  | random (bits : Nat)
  | named (envelopeKey tenderId : Uuid) (operation : String)
  deriving DecidableEq, Repr

namespace Uuid

def nil : Uuid := .random 0

def toString (id : Uuid) : String :=
  match id with
  | .random bits => s!"{bits}"
  | .named envelopeKey tenderId operation =>
    envelopeKey.toString ++ ":" ++ tenderId.toString ++ ":" ++ operation

instance (bits : Nat) : OfNat Uuid bits := ⟨.random bits⟩

end Uuid

inductive PaymentEntryMethod where
  | cash | contactless | dip | swipe
  deriving DecidableEq, Repr

structure PaymentProviderReceipt where
  provider : String
  providerPaymentId : String
  entryMethod : Option PaymentEntryMethod
  last4 : Option String
  aid : Option String
  authorizationCode : Option String
  deriving DecidableEq, Repr

structure AuthorizeRequest where
  idempotencyKey : Uuid
  cartId : Uuid
  storeId : Uuid
  registerId : Uuid
  /-- Full amount to charge, tip included. -/
  amountCents : Nat
  tipAmountCents : Nat
  currency : String
  deriving DecidableEq, Repr

/-- What the provider decided. A decline is a normal outcome, not an error. -/
inductive AuthorizationOutcome where
  | approved
  | partiallyApproved (requestedCents : Nat)
  | declined (code message : String)
  deriving DecidableEq, Repr

structure PaymentAuthorization where
  provider : String
  providerPaymentId : String
  approvedCents : Nat
  tipAmountCents : Nat
  outcome : AuthorizationOutcome
  receipt : Option PaymentProviderReceipt
  deriving DecidableEq, Repr

namespace PaymentAuthorization

def isApproved (authorization : PaymentAuthorization) : Bool :=
  match authorization.outcome with
  | .approved | .partiallyApproved _ => true
  | .declined .. => false

def declinedReason (authorization : PaymentAuthorization) : Option (String × String) :=
  match authorization.outcome with
  | .declined code message => some (code, message)
  | _ => none

end PaymentAuthorization

structure CaptureRequest where
  idempotencyKey : Uuid
  providerPaymentId : String
  amountCents : Nat
  deriving DecidableEq, Repr

structure PaymentCapture where
  provider : String
  providerPaymentId : String
  capturedCents : Nat
  receipt : PaymentProviderReceipt
  deriving DecidableEq, Repr

structure VoidRequest where
  idempotencyKey : Uuid
  providerPaymentId : String
  reason : Option String
  deriving DecidableEq, Repr

structure RefundRequest where
  idempotencyKey : Uuid
  providerPaymentId : String
  amountCents : Nat
  reason : Option String
  deriving DecidableEq, Repr

structure PaymentRefund where
  provider : String
  providerRefundId : String
  refundedCents : Nat
  receipt : PaymentProviderReceipt
  deriving DecidableEq, Repr

inductive PaymentProviderError where
  | invalidAmount
  | notConfigured (provider : String)
  | paymentNotFound (providerPaymentId : String)
  | timeout (provider : String)
  | transport (provider message : String)
  /-- The provider may or may not have moved money. -/
  | indeterminate (provider : String) (providerPaymentId : Option String) (message : String)
  deriving DecidableEq, Repr

namespace PaymentProviderError

/-- True when money may have moved despite the error, so a reversal check is owed. -/
def requiresReversalCheck (error : PaymentProviderError) : Bool :=
  match error with
  | .indeterminate .. | .transport .. => true
  | .invalidAmount | .notConfigured _ | .paymentNotFound _ | .timeout _ => false

/-- The id that the payment path reads out of an error, when it has one. -/
def indeterminatePaymentId (error : PaymentProviderError) : Option String :=
  match error with
  | .indeterminate _ providerPaymentId _ => providerPaymentId
  | _ => none

def toString (error : PaymentProviderError) : String :=
  match error with
  | .invalidAmount => "payment amount must be greater than zero"
  | .notConfigured provider => "payment provider " ++ provider ++ " is not configured"
  | .paymentNotFound providerPaymentId => "payment " ++ providerPaymentId ++ " was not found"
  | .timeout provider => "payment provider " ++ provider ++ " did not respond in time"
  | .transport provider message => "payment provider " ++ provider ++ " transport failure: " ++ message
  | .indeterminate provider _ message =>
    "payment provider " ++ provider ++ " returned an indeterminate result: " ++ message

/-- An error that names a payment always asks for a reversal check. -/
theorem requiresReversalCheck_of_named {error : PaymentProviderError} {id : String}
    (named : error.indeterminatePaymentId = some id) : error.requiresReversalCheck = true := by
  cases error <;> simp_all [indeterminatePaymentId, requiresReversalCheck]

end PaymentProviderError

def validateAmount (amountCents : Nat) : Except PaymentProviderError Unit :=
  if amountCents = 0 then .error .invalidAmount else .ok ()

end ApexEdge.Payment
