import ApexEdge.Hub.System
import ApexEdge.Payment.StripeTerminal

/-! The hub with the Stripe adapter as its payment provider, and what the adapter has
posted so far. -/

namespace ApexEdge.Hub
open Library Payment Domain Storage Contracts

/-- A POST request, with the Idempotency-Key that it is sent under. -/
structure Post where
  path : String
  key : Uuid
  form : List (String × String)
  deriving DecidableEq

def posted (request : StripeTerminal.HttpRequest) : List Post :=
  match request with
  | .post path key form => [⟨path, key, form⟩]
  | .get _ => []

/-- How a call of the adapter is answered, and how long the reader is polled. -/
structure StripeAnswer where
  http : Nat → StripeTerminal.HttpRequest → StripeTerminal.HttpAnswer
  patience : Nat

/-- The requests of the call so far are counted, and its POST requests kept. -/
def exchange (http : Nat → StripeTerminal.HttpRequest → StripeTerminal.HttpAnswer) (sent : Nat × List Post)
    (request : StripeTerminal.HttpRequest) : StripeTerminal.HttpAnswer × Nat × List Post :=
  (http sent.1 request, sent.1 + 1, sent.2 ++ posted request)

/-- Run one call of the adapter. A crash within the call sends no more than answers that
end it there. -/
def callStripe {α : Type} (answer : StripeAnswer) (posts : List Post) (call : StripeTerminal.Call α) :
    Except PaymentProviderError α × List Post :=
  let ended := call.run (exchange answer.http) (0, posts)
  (ended.1, ended.2.2)

def stripe (config : StripeTerminal.Config) : Providers (List Post) StripeAnswer :=
  { authorize := fun answer posts _ request =>
      callStripe answer posts (StripeTerminal.authorize config answer.patience request)
    capture := fun answer posts _ request => callStripe answer posts (StripeTerminal.capture request)
    void := fun answer posts _ request => callStripe answer posts (StripeTerminal.void request)
    refund := fun answer posts _ request => callStripe answer posts (StripeTerminal.refund request) }

/-- A hub whose one provider is the Stripe adapter. -/
def stripeShop (storeId : Uuid) (currency : String) : AppState :=
  { storeId := storeId, providers := [StripeTerminal.providerCode], currency := currency }

/-- An AddPayment request as a device sends it; any device, any key. -/
structure PayCommand where
  boundRegister : Option Uuid
  envelope : PosRequestEnvelope
  payment : AddPaymentPayload

def PayCommand.posEnvelope (command : PayCommand) : PosRequestEnvelope :=
  { command.envelope with payload := .addPayment command.payment }

/-- What moves money through the adapter. -/
inductive PaymentTask where
  | pay (command : PayCommand)
  | refund (command : RefundCommand)
  | sweep (policy : ReversalSweepPolicy)

def PaymentTask.task (task : PaymentTask) : Task :=
  match task with
  | .pay command => .command command.boundRegister command.posEnvelope
  | .refund command => .command command.boundRegister command.posEnvelope
  | .sweep policy => .sweep policy

abbrev PaymentRequest := Tagged PaymentTask Request

def performPayment (config : StripeTerminal.Config) (choice : Choice StripeAnswer) (world : World (List Post))
    (request : PaymentRequest) : Tagged.Reply Request.Reply request × World (List Post) :=
  perform (stripe config) choice world request.op

def payments (app : AppState) (config : StripeTerminal.Config) :
    Machine PaymentRequest (Tagged.Reply Request.Reply) Outcome (World (List Post)) (Choice StripeAnswer) PaymentTask :=
  { perform := performPayment config
    program := fun task => (task.task.program app).tagged task
    admits := fun others task => claims (others.map Tagged.op) task.task }

end ApexEdge.Hub
