import Mathlib.Logic.Basic

/-! A freer program: a pure value, or one operation and a continuation for every
reply of the operation's own type. A suspended program is exactly its pending
operation, so a crash between two operations is the program being thrown away. -/

namespace ApexEdge.Library

inductive Program (Op : Type) (Reply : Op → Type) (α : Type) : Type where
  | pure (value : α)
  | request (op : Op) (next : Reply op → Program Op Reply α)

namespace Program

variable {Op : Type} {Reply : Op → Type} {α β γ : Type}

def bind (program : Program Op Reply α) (next : α → Program Op Reply β) : Program Op Reply β :=
  match program with
  | .pure value => next value
  | .request op rest => .request op fun reply => (rest reply).bind next

instance : Monad (Program Op Reply) where
  pure := .pure
  bind := bind

/-- Issue one operation and return its reply. -/
def ask (op : Op) : Program Op Reply (Reply op) :=
  .request op .pure

@[simp] theorem pure_bind (value : α) (next : α → Program Op Reply β) :
    (Program.pure value >>= next) = next value := rfl

@[simp] theorem return_bind (value : α) (next : α → Program Op Reply β) :
    ((Pure.pure value : Program Op Reply α) >>= next) = next value := rfl

@[simp] theorem request_bind (op : Op) (rest : Reply op → Program Op Reply α)
    (next : α → Program Op Reply β) :
    (Program.request op rest >>= next) = .request op fun reply => rest reply >>= next := rfl

@[simp] theorem ask_bind (op : Op) (next : Reply op → Program Op Reply β) :
    (ask op >>= next) = .request op next := rfl

theorem bind_assoc (program : Program Op Reply α) (first : α → Program Op Reply β)
    (second : β → Program Op Reply γ) :
    (program >>= first) >>= second = program >>= fun value => first value >>= second := by
  induction program with
  | pure value => rfl
  | request op rest ih =>
    simp only [request_bind]
    congr 1
    funext reply
    exact ih reply

/-- Run against a world that answers every operation at once. -/
def run {World : Type} (answer : World → (op : Op) → Reply op × World)
    (program : Program Op Reply α) (world : World) : α × World :=
  match program with
  | .pure value => (value, world)
  | .request op next =>
    let step := answer world op
    (next step.1).run answer step.2

section Run
variable {World : Type} (answer : World → (op : Op) → Reply op × World)

@[simp] theorem run_pure (value : α) (world : World) :
    (Program.pure value : Program Op Reply α).run answer world = (value, world) := rfl

@[simp] theorem run_return (value : α) (world : World) :
    (Pure.pure value : Program Op Reply α).run answer world = (value, world) := rfl

@[simp] theorem run_request (op : Op) (next : Reply op → Program Op Reply α) (world : World) :
    (Program.request op next).run answer world =
      (next (answer world op).1).run answer (answer world op).2 := rfl

/-- What a program that waits for a reply does once it has it. -/
theorem run_step {program : Program Op Reply α} {op : Op} {next : Reply op → Program Op Reply α} {reply : Reply op}
    {world after : World} (waits : program = .request op next) (answered : answer world op = (reply, after)) :
    program.run answer world = (next reply).run answer after := by
  rw [waits, run_request, answered]

theorem run_bind (program : Program Op Reply α) (next : α → Program Op Reply β) (world : World) :
    (program >>= next).run answer world =
      (next (program.run answer world).1).run answer (program.run answer world).2 := by
  induction program generalizing world with
  | pure value => rfl
  | request op rest ih => exact ih _ _

end Run
end Program

/-- A program that may leave early with an error. -/
def Fallible (Op : Type) (Reply : Op → Type) (ε α : Type) : Type := Program Op Reply (Except ε α)

namespace Fallible

variable {Op : Type} {Reply : Op → Type} {ε α β : Type}

def ofExcept (result : Except ε α) : Fallible Op Reply ε α := Program.pure result

def andThen (first : Fallible Op Reply ε α) (next : α → Fallible Op Reply ε β) :
    Fallible Op Reply ε β :=
  Program.bind first fun
    | .ok value => next value
    | .error error => ofExcept (.error error)

instance : Monad (Fallible Op Reply ε) where
  pure value := ofExcept (.ok value)
  bind := andThen

instance : MonadExcept ε (Fallible Op Reply ε) where
  throw error := ofExcept (.error error)
  tryCatch first handler := Program.bind first fun
    | .ok value => ofExcept (.ok value)
    | .error error => handler error

/-- Issue one operation; its reply, of whatever kind, is the value. -/
def ask (op : Op) : Fallible Op Reply ε (Reply op) :=
  Program.request op fun reply => ofExcept (.ok reply)

/-- Take the value out of a reply that may be an error. -/
def orThrow {δ : Type} (first : Fallible Op Reply ε (Except δ α)) (wrap : δ → ε) :
    Fallible Op Reply ε α :=
  first >>= fun
    | .ok value => pure value
    | .error error => throw (wrap error)

/-- Turn the error of a part into the error of the whole. -/
def mapError {δ : Type} (first : Fallible Op Reply δ α) (wrap : δ → ε) : Fallible Op Reply ε α :=
  Program.bind first fun
    | .ok value => ofExcept (.ok value)
    | .error error => ofExcept (.error (wrap error))

section Run
variable {World : Type} (answer : World → (op : Op) → Reply op × World)

def run (program : Fallible Op Reply ε α) (world : World) : Except ε α × World :=
  Program.run answer program world

@[simp] theorem run_ofExcept (result : Except ε α) (world : World) :
    (ofExcept result : Fallible Op Reply ε α).run answer world = (result, world) := rfl

@[simp] theorem run_pure (value : α) (world : World) :
    (pure value : Fallible Op Reply ε α).run answer world = (.ok value, world) := rfl

@[simp] theorem run_throw (error : ε) (world : World) :
    (throw error : Fallible Op Reply ε α).run answer world = (.error error, world) := rfl

@[simp] theorem run_ask (op : Op) (world : World) :
    (ask op : Fallible Op Reply ε (Reply op)).run answer world =
      (.ok (answer world op).1, (answer world op).2) := rfl

theorem run_bind (first : Fallible Op Reply ε α) (next : α → Fallible Op Reply ε β) (world : World) :
    (first >>= next).run answer world =
      match first.run answer world with
      | (.ok value, after) => (next value).run answer after
      | (.error error, after) => (.error error, after) := by
  have split := Program.run_bind answer (show Program Op Reply (Except ε α) from first)
    (fun | .ok value => next value | .error error => ofExcept (.error error)) world
  refine Eq.trans split ?_
  unfold run
  rcases Program.run answer first world with ⟨result | result, after⟩ <;> rfl

theorem run_bind_ok {first : Fallible Op Reply ε α} {next : α → Fallible Op Reply ε β}
    {world : World} (value : α) (after : World) (done : first.run answer world = (.ok value, after)) :
    (first >>= next).run answer world = (next value).run answer after := by
  rw [run_bind, done]

theorem run_bind_error {first : Fallible Op Reply ε α} {next : α → Fallible Op Reply ε β}
    {world : World} (error : ε) (after : World)
    (failed : first.run answer world = (.error error, after)) :
    (first >>= next).run answer world = (.error error, after) := by
  rw [run_bind, failed]

theorem run_tryCatch (first : Fallible Op Reply ε α) (handler : ε → Fallible Op Reply ε α) (world : World) :
    (tryCatch first handler).run answer world =
      match first.run answer world with
      | (.ok value, after) => (.ok value, after)
      | (.error error, after) => (handler error).run answer after := by
  have split := Program.run_bind answer (show Program Op Reply (Except ε α) from first)
    (fun | .ok value => ofExcept (.ok value) | .error error => handler error) world
  refine Eq.trans split ?_
  unfold run
  rcases Program.run answer first world with ⟨result | result, after⟩ <;> rfl

end Run
end Fallible

/-- A computation that succeeds has succeeded in its parts. -/
theorem bind_eq_ok {ε α β : Type} {first : Except ε α} {next : α → Except ε β} {result : β}
    (done : first >>= next = .ok result) : ∃ value, first = .ok value ∧ next value = .ok result := by
  cases first with
  | error error => cases done
  | ok value => exact ⟨value, rfl, done⟩

/-- A computation that fails fails in one of its parts. -/
theorem bind_eq_error {ε α β : Type} {first : Except ε α} {next : α → Except ε β} {error : ε}
    (failed : first >>= next = .error error) :
    first = .error error ∨ ∃ value, first = .ok value ∧ next value = .error error := by
  cases first with
  | error other =>
    cases failed
    exact .inl rfl
  | ok value => exact .inr ⟨value, rfl, failed⟩

theorem bind_ok {ε α β : Type} {first : Except ε α} {next : α → Except ε β} {value : α}
    (done : first = .ok value) : (first >>= next) = next value := by
  rw [done]
  rfl
end ApexEdge.Library
