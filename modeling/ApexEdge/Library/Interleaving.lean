import ApexEdge.Library.Program
import Mathlib.Data.Multiset.AddSub

/-! Any number of programs over one shared world. A step answers the pending
operation of one program; a program may be dropped between any two operations,
and a crash drops all of them. An invariant speaks about the world and about
what is pending, and holds along a run when every kind of step keeps it. -/

namespace ApexEdge.Library

/-- A program waiting for the reply to its pending operation. -/
structure Thread (Op : Type) (Reply : Op → Type) (α : Type) where
  op : Op
  next : Reply op → Program Op Reply α

structure Machine (Op : Type) (Reply : Op → Type) (α World Choice Task : Type) where
  /-- How the world answers one operation; `Choice` is what the program cannot foresee. -/
  perform : Choice → World → (op : Op) → Reply op × World
  program : Task → Program Op Reply α
  admits : List Op → Task → Bool

structure Pool (Op : Type) (Reply : Op → Type) (α World : Type) where
  world : World
  threads : List (Thread Op Reply α)
  results : List α

inductive Event (Choice Task : Type) where
  | start (task : Task)
  | step (thread : Nat) (choice : Choice)
  | drop (thread : Nat)

variable {Op : Type} {Reply : Op → Type} {α World Choice Task : Type}

namespace Pool

/-- Nothing is in flight. -/
def quiet (world : World) : Pool Op Reply α World := { world := world, threads := [], results := [] }

def pending (pool : Pool Op Reply α World) : List Op := pool.threads.map Thread.op

/-- Put a program that has just been given control back among the others. -/
def resume (pool : Pool Op Reply α World) (program : Program Op Reply α) : Pool Op Reply α World :=
  match program with
  | .pure result => { pool with results := pool.results ++ [result] }
  | .request op next => { pool with threads := ⟨op, next⟩ :: pool.threads }

def without (pool : Pool Op Reply α World) (thread : Nat) : Pool Op Reply α World :=
  { pool with threads := pool.threads.eraseIdx thread }

end Pool

namespace Machine

def apply (machine : Machine Op Reply α World Choice Task) (pool : Pool Op Reply α World)
    (event : Event Choice Task) : Pool Op Reply α World :=
  match event with
  | .start task =>
    if machine.admits pool.pending task then pool.resume (machine.program task) else pool
  | .step thread choice =>
    match pool.threads[thread]? with
    | none => pool
    | some waiting =>
      let answered := machine.perform choice pool.world waiting.op
      ({ pool.without thread with world := answered.2 }).resume (waiting.next answered.1)
  | .drop thread => pool.without thread

/-- The same machine for some of its tasks. -/
def only (machine : Machine Op Reply α World Choice Task) (allowed : Task → Prop) :
    Machine Op Reply α World Choice { task // allowed task } :=
  { perform := machine.perform
    program := fun task => machine.program task.val
    admits := fun others task => machine.admits others task.val }

def run (machine : Machine Op Reply α World Choice Task) (pool : Pool Op Reply α World)
    (events : List (Event Choice Task)) : Pool Op Reply α World :=
  events.foldl machine.apply pool

@[simp] theorem run_nil (machine : Machine Op Reply α World Choice Task) (pool : Pool Op Reply α World) :
    machine.run pool [] = pool := rfl

@[simp] theorem run_cons (machine : Machine Op Reply α World Choice Task) (pool : Pool Op Reply α World)
    (event : Event Choice Task) (events : List (Event Choice Task)) :
    machine.run pool (event :: events) = machine.run (machine.apply pool event) events := rfl

theorem run_append (machine : Machine Op Reply α World Choice Task) (pool : Pool Op Reply α World)
    (first second : List (Event Choice Task)) :
    machine.run pool (first ++ second) = machine.run (machine.run pool first) second :=
  List.foldl_append

end Machine

/-- A condition on single steps: on answering `op` beside the other pending
operations, and on dropping it. -/
structure Condition (Op World Choice : Type) where
  step : World → List Op → Op → Choice → Prop
  drop : World → List Op → Op → Prop

namespace Condition

/-- No condition at all. -/
def always : Condition Op World Choice := ⟨fun _ _ _ _ => True, fun _ _ _ => True⟩

def Meets (condition : Condition Op World Choice) (pool : Pool Op Reply α World)
    (event : Event Choice Task) : Prop :=
  match event with
  | .start _ => True
  | .step thread choice =>
    match pool.threads[thread]? with
    | none => True
    | some waiting => condition.step pool.world (pool.without thread).pending waiting.op choice
  | .drop thread =>
    match pool.threads[thread]? with
    | none => True
    | some waiting => condition.drop pool.world (pool.without thread).pending waiting.op

/-- Every step of the run meets the condition. -/
def RunMeets (condition : Condition Op World Choice) (machine : Machine Op Reply α World Choice Task)
    (pool : Pool Op Reply α World) (events : List (Event Choice Task)) : Prop :=
  match events with
  | [] => True
  | event :: events => condition.Meets pool event ∧ condition.RunMeets machine (machine.apply pool event) events

instance (condition : Condition Op World Choice)
    [∀ world others op choice, Decidable (condition.step world others op choice)]
    [∀ world others op, Decidable (condition.drop world others op)]
    (pool : Pool Op Reply α World) (event : Event Choice Task) : Decidable (condition.Meets pool event) :=
  match event with
  | .start _ => isTrue trivial
  | .step thread choice => by
    unfold Meets
    dsimp only
    split <;> infer_instance
  | .drop thread => by
    unfold Meets
    dsimp only
    split <;> infer_instance

def decideRunMeets (condition : Condition Op World Choice)
    [∀ world others op choice, Decidable (condition.step world others op choice)]
    [∀ world others op, Decidable (condition.drop world others op)]
    (machine : Machine Op Reply α World Choice Task) (pool : Pool Op Reply α World) :
    (events : List (Event Choice Task)) → Decidable (condition.RunMeets machine pool events)
  | [] => isTrue trivial
  | event :: events =>
    have := decideRunMeets condition machine (machine.apply pool event) events
    inferInstanceAs (Decidable (_ ∧ _))

instance (condition : Condition Op World Choice)
    [∀ world others op choice, Decidable (condition.step world others op choice)]
    [∀ world others op, Decidable (condition.drop world others op)]
    (machine : Machine Op Reply α World Choice Task) (pool : Pool Op Reply α World)
    (events : List (Event Choice Task)) : Decidable (condition.RunMeets machine pool events) :=
  condition.decideRunMeets machine pool events

theorem runMeets_append {condition : Condition Op World Choice}
    {machine : Machine Op Reply α World Choice Task} {pool : Pool Op Reply α World}
    {first second : List (Event Choice Task)} (meets : condition.RunMeets machine pool (first ++ second)) :
    condition.RunMeets machine pool first ∧ condition.RunMeets machine (machine.run pool first) second := by
  induction first generalizing pool with
  | nil => exact ⟨trivial, meets⟩
  | cons event events ih =>
    obtain ⟨now, later⟩ := meets
    obtain ⟨kept, rest⟩ := ih later
    exact ⟨⟨now, kept⟩, rest⟩

theorem runMeets_always {machine : Machine Op Reply α World Choice Task} {pool : Pool Op Reply α World}
    (events : List (Event Choice Task)) : always.RunMeets machine pool events := by
  induction events generalizing pool with
  | nil => trivial
  | cons event events ih =>
    refine ⟨?_, ih⟩
    cases event <;> simp only [Meets] <;> first | trivial | (split <;> trivial)

end Condition

/-- Which operation may follow which reply, and where a program may end, told by
what it might have gone on with. -/
structure Protocol (Op : Type) (Reply : Op → Type) where
  follows : (op : Op) → Reply op → Op → Prop
  rests : (Op → Prop) → Prop

namespace Protocol

/-- The program keeps to the protocol, its first operation being one that `may` come. -/
def Keeps (protocol : Protocol Op Reply) (may : Op → Prop) (post : (Op → Prop) → α → Prop)
    (program : Program Op Reply α) : Prop :=
  match program with
  | .pure value => post may value
  | .request op next =>
    may op ∧ ∀ reply, protocol.Keeps (protocol.follows op reply) post (next reply)

variable {protocol : Protocol Op Reply}

theorem Keeps.bind {β : Type} {may : Op → Prop} {post : (Op → Prop) → β → Prop}
    {program : Program Op Reply α} {next : α → Program Op Reply β}
    (keeps : protocol.Keeps may (fun may value => protocol.Keeps may post (next value)) program) :
    protocol.Keeps may post (program >>= next) := by
  induction program generalizing may with
  | pure value => exact keeps
  | request op rest ih => exact ⟨keeps.1, fun reply => ih reply (keeps.2 reply)⟩

theorem Keeps.mono {may : Op → Prop} {post other : (Op → Prop) → α → Prop} {program : Program Op Reply α}
    (keeps : protocol.Keeps may post program) (implies : ∀ may value, post may value → other may value) :
    protocol.Keeps may other program := by
  induction program generalizing may with
  | pure value => exact implies _ _ keeps
  | request op rest ih => exact ⟨keeps.1, fun reply => ih reply (keeps.2 reply)⟩

section Fallible
variable {ε : Type} {may : Op → Prop}

theorem keeps_ask {post : (Op → Prop) → Except ε α → Prop} {op : Op}
    {next : Reply op → Fallible Op Reply ε α} (first : may op)
    (rest : ∀ reply, protocol.Keeps (protocol.follows op reply) post (next reply)) :
    protocol.Keeps may post (Fallible.ask op >>= next : Fallible Op Reply ε α) := ⟨first, rest⟩

theorem keeps_andThen {β : Type} {post : (Op → Prop) → Except ε β → Prop}
    {first : Fallible Op Reply ε α} {next : α → Fallible Op Reply ε β}
    (keeps : protocol.Keeps may (fun may result =>
      match result with
      | .ok value => protocol.Keeps may post (next value)
      | .error error => post may (.error error)) first) :
    protocol.Keeps may post (first >>= next : Fallible Op Reply ε β) := by
  apply Keeps.bind
  apply keeps.mono
  intro may result kept
  cases result with
  | ok value => exact kept
  | error error => exact kept

theorem keeps_orThrow {δ : Type} {post : (Op → Prop) → Except ε α → Prop} {wrap : δ → ε}
    {first : Fallible Op Reply ε (Except δ α)}
    (keeps : protocol.Keeps may (fun may result =>
      match result with
      | .ok (.ok value) => post may (.ok value)
      | .ok (.error error) => post may (.error (wrap error))
      | .error error => post may (.error error)) first) :
    protocol.Keeps may post (first.orThrow wrap) := by
  apply keeps_andThen
  apply keeps.mono
  rintro may (error | error | value) kept
  all_goals exact kept

theorem keeps_mapError {δ : Type} {post : (Op → Prop) → Except ε α → Prop} {wrap : δ → ε}
    {first : Fallible Op Reply δ α}
    (keeps : protocol.Keeps may (fun may result =>
      match result with
      | .ok value => post may (.ok value)
      | .error error => post may (.error (wrap error))) first) :
    protocol.Keeps may post (first.mapError wrap) := by
  apply Keeps.bind
  apply keeps.mono
  intro may result kept
  cases result with
  | ok value => exact kept
  | error error => exact kept

end Fallible

/-- Nothing is asked of a program. -/
def free : Protocol Op Reply := ⟨fun _ _ _ => True, fun _ => True⟩

theorem free_keeps (program : Program Op Reply α) :
    (free : Protocol Op Reply).Keeps (fun _ => True) (fun may _ => (free : Protocol Op Reply).rests may) program := by
  induction program with
  | pure value => trivial
  | request op next ih => exact ⟨trivial, ih⟩

def ThreadKeeps (protocol : Protocol Op Reply) (thread : Thread Op Reply α) : Prop :=
  ∀ reply, protocol.Keeps (protocol.follows thread.op reply) (fun may _ => protocol.rests may) (thread.next reply)

end Protocol

/-- What one invariant needs to survive every step of programs that keep to the
protocol. The pending operations are taken without their order. -/
structure Invariant (machine : Machine Op Reply α World Choice Task) (protocol : Protocol Op Reply)
    (condition : Condition Op World Choice) (opens : Task → Op → Prop)
    (holds : World → Multiset Op → Prop) : Prop where
  keeps : ∀ task, protocol.Keeps (opens task) (fun may _ => protocol.rests may) (machine.program task)
  started : ∀ world (others : List Op) task op, machine.admits others task → opens task op →
    holds world others → holds world (op ::ₘ others)
  continued : ∀ choice world (others : List Op) op op', condition.step world others op choice →
    holds world (op ::ₘ others) → protocol.follows op (machine.perform choice world op).1 op' →
    holds (machine.perform choice world op).2 (op' ::ₘ others)
  finished : ∀ choice world (others : List Op) op, condition.step world others op choice →
    holds world (op ::ₘ others) → protocol.rests (protocol.follows op (machine.perform choice world op).1) →
    holds (machine.perform choice world op).2 others
  dropped : ∀ world (others : List Op) op, condition.drop world others op →
    holds world (op ::ₘ others) → holds world others

namespace Invariant

variable {machine : Machine Op Reply α World Choice Task} {protocol : Protocol Op Reply}
  {condition : Condition Op World Choice} {opens : Task → Op → Prop}
  {holds : World → Multiset Op → Prop}

/-- The invariant together with the standing of every waiting program. -/
def Sound (protocol : Protocol Op Reply) (holds : World → Multiset Op → Prop)
    (pool : Pool Op Reply α World) : Prop :=
  holds pool.world pool.pending ∧ ∀ thread ∈ pool.threads, protocol.ThreadKeeps thread

theorem pending_cons_without {pool : Pool Op Reply α World} {thread : Nat}
    {waiting : Thread Op Reply α} (found : pool.threads[thread]? = some waiting) :
    (pool.pending : Multiset Op) = waiting.op ::ₘ ((pool.without thread).pending : Multiset Op) := by
  obtain ⟨inside, rfl⟩ := List.getElem?_eq_some_iff.mp found
  exact Multiset.coe_eq_coe.mpr ((List.getElem_cons_eraseIdx_perm inside).map Thread.op).symm

theorem sound_resume {pool : Pool Op Reply α World} {may : Op → Prop} {program : Program Op Reply α}
    (keeps : protocol.Keeps may (fun may _ => protocol.rests may) program)
    (others : ∀ thread ∈ pool.threads, protocol.ThreadKeeps thread)
    (done : protocol.rests may → holds pool.world pool.pending)
    (waits : ∀ op next, program = .request op next → may op → holds pool.world (op ::ₘ (pool.pending : Multiset Op))) :
    Sound protocol holds (pool.resume program) := by
  cases program with
  | pure result => exact ⟨done keeps, others⟩
  | request op next =>
    obtain ⟨first, rest⟩ := keeps
    refine ⟨waits op next rfl first, ?_⟩
    intro thread member
    rcases List.mem_cons.mp member with rfl | kept
    · exact rest
    · exact others thread kept

theorem sound_apply (invariant : Invariant machine protocol condition opens holds)
    {pool : Pool Op Reply α World} {event : Event Choice Task} (sound : Sound protocol holds pool)
    (meets : condition.Meets pool event) : Sound protocol holds (machine.apply pool event) := by
  obtain ⟨held, threads⟩ := sound
  have remaining (thread : Nat) : ∀ other ∈ (pool.without thread).threads, protocol.ThreadKeeps other :=
    fun other member => threads other (List.mem_of_mem_eraseIdx member)
  cases event with
  | start task =>
    unfold Machine.apply
    dsimp only
    split
    next admitted =>
      exact sound_resume (invariant.keeps task) threads (fun _ => held)
        (fun op _ _ first => invariant.started _ _ task op admitted first held)
    next => exact ⟨held, threads⟩
  | step thread choice =>
    cases found : pool.threads[thread]? with
    | none => simpa only [Machine.apply, found] using ⟨held, threads⟩
    | some waiting =>
      simp only [Condition.Meets, found] at meets
      simp only [Machine.apply, found]
      rw [pending_cons_without found] at held
      have standing := threads waiting (List.mem_of_getElem? found)
      exact sound_resume (standing _) (remaining thread)
        (invariant.finished choice _ _ _ meets held)
        (fun op _ _ next => invariant.continued choice _ _ _ op meets held next)
  | drop thread =>
    cases found : pool.threads[thread]? with
    | none =>
      have same : pool.without thread = pool := by
        simp only [Pool.without, List.eraseIdx_of_length_le (List.getElem?_eq_none_iff.mp found)]
      simpa only [Machine.apply, same] using ⟨held, threads⟩
    | some waiting =>
      simp only [Condition.Meets, found] at meets
      rw [pending_cons_without found] at held
      exact ⟨invariant.dropped _ _ _ meets held, remaining thread⟩

theorem sound_run (invariant : Invariant machine protocol condition opens holds)
    {pool : Pool Op Reply α World} {events : List (Event Choice Task)} (sound : Sound protocol holds pool)
    (meets : condition.RunMeets machine pool events) : Sound protocol holds (machine.run pool events) := by
  induction events generalizing pool with
  | nil => exact sound
  | cons event events ih => exact ih (invariant.sound_apply sound meets.1) meets.2

/-- A stronger condition keeps the invariant too. -/
theorem under (invariant : Invariant machine protocol condition opens holds)
    {stronger : Condition Op World Choice}
    (step : ∀ world others op choice, stronger.step world others op choice → condition.step world others op choice)
    (drop : ∀ world others op, stronger.drop world others op → condition.drop world others op) :
    Invariant machine protocol stronger opens holds where
  keeps := invariant.keeps
  started := invariant.started
  continued choice world others op op' meets := invariant.continued choice world others op op' (step _ _ _ _ meets)
  finished choice world others op meets := invariant.finished choice world others op (step _ _ _ _ meets)
  dropped world others op meets := invariant.dropped world others op (drop _ _ _ meets)

/-- Facts about the world alone, and about each pending operation in it, that
may rest on an invariant which is known already. -/
structure Local (machine : Machine Op Reply α World Choice Task) (protocol : Protocol Op Reply)
    (condition : Condition Op World Choice) (opens : Task → Op → Prop)
    (base : World → Multiset Op → Prop) (tables : World → Prop) (standing : World → Op → Prop) : Prop where
  started : ∀ world (others : List Op) task op, opens task op → base world (op ::ₘ (others : Multiset Op)) →
    tables world → standing world op
  kept : ∀ choice world (others : List Op) op, condition.step world others op choice →
    base world (op ::ₘ (others : Multiset Op)) → tables world →
    (∀ other ∈ op ::ₘ (others : Multiset Op), standing world other) →
    tables (machine.perform choice world op).2 ∧
      ∀ other ∈ others, standing (machine.perform choice world op).2 other
  continued : ∀ choice world (others : List Op) op op', condition.step world others op choice →
    base world (op ::ₘ (others : Multiset Op)) → tables world →
    (∀ other ∈ op ::ₘ (others : Multiset Op), standing world other) →
    protocol.follows op (machine.perform choice world op).1 op' →
    base (machine.perform choice world op).2 (op' ::ₘ (others : Multiset Op)) →
    tables (machine.perform choice world op).2 → standing (machine.perform choice world op).2 op'

theorem extend {tables : World → Prop} {standing : World → Op → Prop}
    (invariant : Invariant machine protocol condition opens holds)
    (more : Local machine protocol condition opens holds tables standing) :
    Invariant machine protocol condition opens
      (fun world pending => holds world pending ∧ tables world ∧ ∀ op ∈ pending, standing world op) where
  keeps := invariant.keeps
  started world others task op admitted first sound := by
    obtain ⟨held, stored, all⟩ := sound
    have after := invariant.started world others task op admitted first held
    refine ⟨after, stored, ?_⟩
    intro other member
    rcases Multiset.mem_cons.mp member with rfl | old
    · exact more.started world others task other first after stored
    · exact all other old
  continued choice world others op op' meets sound next := by
    obtain ⟨held, stored, all⟩ := sound
    obtain ⟨stored', others'⟩ := more.kept choice world others op meets held stored all
    have after := invariant.continued choice world others op op' meets held next
    refine ⟨after, stored', ?_⟩
    intro other member
    rcases Multiset.mem_cons.mp member with rfl | old
    · exact more.continued choice world others op other meets held stored all next after stored'
    · exact others' other (Multiset.mem_coe.mp old)
  finished choice world others op meets sound rests := by
    obtain ⟨held, stored, all⟩ := sound
    obtain ⟨stored', others'⟩ := more.kept choice world others op meets held stored all
    exact ⟨invariant.finished choice world others op meets held rests, stored',
      fun other member => others' other (Multiset.mem_coe.mp member)⟩
  dropped world others op meets sound := by
    obtain ⟨held, stored, all⟩ := sound
    exact ⟨invariant.dropped world others op meets held, stored,
      fun other member => all other (Multiset.mem_cons_of_mem member)⟩

/-- Every state that a run reaches from a quiet one, every step of it meeting the condition. -/
theorem reached (invariant : Invariant machine protocol condition opens holds) {world : World}
    {events : List (Event Choice Task)} (begins : holds world 0)
    (meets : condition.RunMeets machine (Pool.quiet world) events) :
    holds (machine.run (Pool.quiet world) events).world (machine.run (Pool.quiet world) events).pending :=
  (invariant.sound_run ⟨begins, fun _ impossible => by cases impossible⟩ meets).1

/-- What every operation keeps, whoever asks for it. -/
theorem of_world {holds : World → Prop}
    (steps : ∀ choice world (others : List Op) op, condition.step world others op choice → holds world →
      holds (machine.perform choice world op).2) :
    Invariant machine .free condition (fun _ _ => True) fun world _ => holds world where
  keeps _ := Protocol.free_keeps _
  started _ _ _ _ _ _ held := held
  continued choice world others op _ meets held _ := steps choice world others op meets held
  finished choice world others op meets held _ := steps choice world others op meets held
  dropped _ _ _ _ held := held

theorem apply_world (pool : Pool Op Reply α World) (program : Program Op Reply α) :
    (pool.resume program).world = pool.world := by
  cases program <;> rfl

/-- What one step can do to the world, where the invariant holds before it. -/
theorem every_step (invariant : Invariant machine protocol condition opens holds) {changes : World → World → Prop}
    (refl : ∀ world, changes world world)
    (steps : ∀ choice world (others : List Op) op, condition.step world others op choice →
      holds world (op ::ₘ (others : Multiset Op)) → changes world (machine.perform choice world op).2)
    {world : World} {events : List (Event Choice Task)} {event : Event Choice Task} (begins : holds world 0)
    (meets : condition.RunMeets machine (Pool.quiet world) (events ++ [event])) :
    changes (machine.run (Pool.quiet world) events).world
      (machine.run (Pool.quiet world) (events ++ [event])).world := by
  obtain ⟨first, last, _⟩ := Condition.runMeets_append meets
  have held := invariant.reached begins first
  rw [Machine.run_append]
  generalize machine.run (Pool.quiet world) events = pool at held last ⊢
  show changes pool.world (machine.apply pool event).world
  cases event with
  | start task =>
    unfold Machine.apply
    dsimp only
    split
    · rw [apply_world]
      exact refl _
    · exact refl _
  | step thread choice =>
    cases found : pool.threads[thread]? with
    | none => simpa only [Machine.apply, found] using refl _
    | some waiting =>
      simp only [Condition.Meets, found] at last
      rw [pending_cons_without found] at held
      simp only [Machine.apply, found, apply_world]
      exact steps choice _ _ _ last held
  | drop thread => exact refl _

/-- What the steps of a run do to the world one after another. -/
theorem every_run (invariant : Invariant machine protocol condition opens holds) {changes : World → World → Prop}
    (refl : ∀ world, changes world world)
    (trans : ∀ first second third, changes first second → changes second third → changes first third)
    (steps : ∀ choice world (others : List Op) op, condition.step world others op choice →
      holds world (op ::ₘ (others : Multiset Op)) → changes world (machine.perform choice world op).2)
    {world : World} {past : List (Event Choice Task)} (later : List (Event Choice Task)) (begins : holds world 0)
    (meets : condition.RunMeets machine (Pool.quiet world) (past ++ later)) :
    changes (machine.run (Pool.quiet world) past).world (machine.run (Pool.quiet world) (past ++ later)).world := by
  induction later generalizing past with
  | nil =>
    rw [List.append_nil]
    exact refl _
  | cons event later ih =>
    rw [List.append_cons] at meets ⊢
    exact trans _ _ _ (invariant.every_step refl steps begins (Condition.runMeets_append meets).1) (ih meets)

end Invariant
end ApexEdge.Library
