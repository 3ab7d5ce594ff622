import ApexEdge.Library.Interference
import Mathlib.Data.Multiset.Filter

/-! Programs that carry what they have learnt from the replies so far. The memory is for
the record: a program goes on with the reply alone. A discipline says what a reply
teaches, and what may be asked with what has been learnt. -/

namespace ApexEdge.Library

/-- The same program, its requests showing the memory they are made with. -/
def Program.remembering {Op : Type} {Reply : Op → Type} {Memory α : Type}
    (learn : Memory → (op : Op) → Reply op → Memory) (memory : Memory) (program : Program Op Reply α) :
    Program (Memory × Op) (fun request => Reply request.2) α :=
  match program with
  | .pure value => .pure value
  | .request op next => .request (memory, op) fun reply => (next reply).remembering learn (learn memory op reply)

structure Discipline (Op : Type) (Reply : Op → Type) (Memory : Type) where
  learn : Memory → (op : Op) → Reply op → Memory
  allows : Memory → Op → Prop
  /-- What a program may end with. -/
  ends : Memory → Prop

namespace Discipline

variable {Op : Type} {Reply : Op → Type} {Memory α β ε : Type} {discipline : Discipline Op Reply Memory}
  {memory : Memory}

/-- With this memory the program asks for what is allowed, all the way; `post` is about
what it has learnt when it ends. -/
def Follows (discipline : Discipline Op Reply Memory) (post : Memory → α → Prop) (memory : Memory)
    (program : Program Op Reply α) : Prop :=
  match program with
  | .pure value => post memory value
  | .request op next =>
    discipline.allows memory op ∧ ∀ reply, discipline.Follows post (discipline.learn memory op reply) (next reply)

theorem Follows.bind {post : Memory → β → Prop} {program : Program Op Reply α} {next : α → Program Op Reply β}
    (follows : discipline.Follows (fun memory value => discipline.Follows post memory (next value)) memory program) :
    discipline.Follows post memory (program >>= next) := by
  induction program generalizing memory with
  | pure value => exact follows
  | request op rest ih => exact ⟨follows.1, fun reply => ih reply (follows.2 reply)⟩

theorem Follows.mono {post other : Memory → α → Prop} {program : Program Op Reply α}
    (follows : discipline.Follows post memory program)
    (implies : ∀ memory value, post memory value → other memory value) :
    discipline.Follows other memory program := by
  induction program generalizing memory with
  | pure value => exact implies _ _ follows
  | request op rest ih => exact ⟨follows.1, fun reply => ih reply (follows.2 reply)⟩

/-- Requests that are always allowed, and teach nothing. -/
structure Free (discipline : Discipline Op Reply Memory) (op : Op) : Prop where
  allowed : ∀ memory, discipline.allows memory op
  kept : ∀ memory reply, discipline.learn memory op reply = memory

theorem Follows.of_asks {post : Memory → α → Prop} {program : Program Op Reply α}
    (asks : program.Asks discipline.Free) (rest : ∀ value, post memory value) :
    discipline.Follows post memory program := by
  induction program with
  | pure value => exact rest value
  | request op next ih =>
    refine ⟨asks.1.allowed memory, fun reply => ?_⟩
    rw [asks.1.kept]
    exact ih reply (asks.2 reply)

/-- A program that asks through other operations, under the discipline of those. -/
theorem Follows.embed {Op' : Type} {Reply' : Op' → Type} {other : Discipline Op' Reply' Memory} {through : Op → Op'}
    {back : ∀ op, Reply' (through op) → Reply op} {post : Memory → α → Prop} {program : Program Op Reply α}
    (allows : ∀ memory op, discipline.allows memory op → other.allows memory (through op))
    (learns : ∀ memory op reply, other.learn memory (through op) reply = discipline.learn memory op (back op reply))
    (follows : discipline.Follows post memory program) :
    other.Follows post memory (program.embed through back) := by
  induction program generalizing memory with
  | pure value => exact follows
  | request op next ih =>
    refine ⟨allows memory op follows.1, fun reply => ?_⟩
    rw [learns]
    exact ih _ (follows.2 _)

section Fallible

theorem follows_ask {op : Op} {post : Memory → Except ε (Reply op) → Prop} (allowed : discipline.allows memory op)
    (learnt : ∀ reply, post (discipline.learn memory op reply) (.ok reply)) :
    discipline.Follows post memory (Fallible.ask op : Fallible Op Reply ε (Reply op)) := ⟨allowed, learnt⟩

theorem follows_free {op : Op} {post : Memory → Except ε (Reply op) → Prop} (free : discipline.Free op)
    (rest : ∀ reply, post memory (.ok reply)) :
    discipline.Follows post memory (Fallible.ask op : Fallible Op Reply ε (Reply op)) := by
  refine follows_ask (free.allowed memory) fun reply => ?_
  rw [free.kept]
  exact rest reply

theorem follows_andThen {post : Memory → Except ε β → Prop} {first : Fallible Op Reply ε α}
    {next : α → Fallible Op Reply ε β}
    (follows : discipline.Follows (fun memory result =>
      match result with
      | .ok value => discipline.Follows post memory (next value)
      | .error error => post memory (.error error)) memory first) :
    discipline.Follows post memory (first >>= next : Fallible Op Reply ε β) := by
  apply Follows.bind
  apply follows.mono
  intro memory result kept
  cases result with
  | ok value => exact kept
  | error error => exact kept

theorem follows_mapError {δ : Type} {post : Memory → Except ε α → Prop} {wrap : δ → ε}
    {first : Fallible Op Reply δ α}
    (follows : discipline.Follows (fun memory result =>
      match result with
      | .ok value => post memory (.ok value)
      | .error error => post memory (.error (wrap error))) memory first) :
    discipline.Follows post memory (first.mapError wrap) := by
  apply Follows.bind
  apply follows.mono
  rintro memory (error | value) kept
  all_goals exact kept

theorem follows_orThrow {δ : Type} {post : Memory → Except ε α → Prop} {wrap : δ → ε}
    {first : Fallible Op Reply ε (Except δ α)}
    (follows : discipline.Follows (fun memory result =>
      match result with
      | .ok (.ok value) => post memory (.ok value)
      | .ok (.error error) => post memory (.error (wrap error))
      | .error error => post memory (.error error)) memory first) :
    discipline.Follows post memory (first.orThrow wrap) := by
  apply follows_andThen
  apply follows.mono
  rintro memory (error | error | value) kept
  all_goals exact kept

end Fallible

/-- Each request is allowed by its own memory, and the next one has learnt the reply. -/
def protocol (discipline : Discipline Op Reply Memory) : Protocol (Memory × Op) fun request => Reply request.2 where
  follows request reply later :=
    later.1 = discipline.learn request.1 request.2 reply ∧ discipline.allows later.1 later.2
  rests may := ∃ later, may later ∧ discipline.ends later.1

theorem ends_of_rests {request : Memory × Op} {reply : Reply request.2}
    (rests : discipline.protocol.rests (discipline.protocol.follows request reply)) :
    discipline.ends (discipline.learn request.1 request.2 reply) := by
  obtain ⟨later, ⟨learnt, _⟩, ends⟩ := rests
  exact learnt ▸ ends

/-- There has to be something that is always allowed, so that memories can be told apart by
what they allow. -/
theorem Follows.keeps {program : Program Op Reply α} (idle : ∀ memory, ∃ op, discipline.allows memory op)
    (follows : discipline.Follows (fun memory _ => discipline.ends memory) memory program) :
    discipline.protocol.Keeps (fun request => request.1 = memory ∧ discipline.allows request.1 request.2)
      (fun may _ => discipline.protocol.rests may) (program.remembering discipline.learn memory) := by
  induction program generalizing memory with
  | pure value =>
    obtain ⟨op, allowed⟩ := idle memory
    exact ⟨(memory, op), ⟨rfl, allowed⟩, follows⟩
  | request op next ih => exact ⟨⟨rfl, follows.1⟩, fun reply => ih reply (follows.2 reply)⟩

end Discipline

/-- What one pending operation holds besides the others. -/
theorem filterMap_pending {Op Held : Type} (slot : Op → Option Held) (op : Op) (others : Multiset Op) :
    (op ::ₘ others).filterMap slot = ((slot op).toList : Multiset Held) + others.filterMap slot := by
  cases held : slot op with
  | none =>
    rw [Multiset.filterMap_cons_none _ _ held]
    exact (Multiset.zero_add _).symm
  | some value =>
    rw [Multiset.filterMap_cons_some _ _ _ held]
    rfl

end ApexEdge.Library
