import ApexEdge.Library.Interleaving

/-! Programs that count on the world. What a program has read stays known as far as
the others keep it, and what it asks for has to be granted whatever they have done in
the meantime. -/

namespace ApexEdge.Library

/-- What always holds of the world, what anyone may do to it, and what an operation may
count on. -/
structure Rules (Op : Type) (Reply : Op → Type) (World Choice : Type) where
  perform : Choice → World → (op : Op) → Reply op × World
  condition : Condition Op World Choice
  invariant : World → Prop
  interference : World → World → Prop
  grants : World → Op → Prop

namespace Rules
variable {Op : Type} {Reply : Op → Type} {α β World Choice : Type}

/-- Every operation of the program is granted, whatever happens before it. -/
def Safe (rules : Rules Op Reply World Choice) (post : World → α → Prop) (world : World)
    (program : Program Op Reply α) : Prop :=
  match program with
  | .pure value => post world value
  | .request op next =>
    ∀ later, rules.invariant later → rules.interference world later → rules.grants later op ∧
      ∀ others choice, rules.condition.step later others op choice →
        rules.Safe post (rules.perform choice later op).2 (next (rules.perform choice later op).1)

variable {rules : Rules Op Reply World Choice} {world : World}

theorem Safe.bind {post : World → β → Prop} {program : Program Op Reply α} {next : α → Program Op Reply β}
    (safe : rules.Safe (fun world value => rules.Safe post world (next value)) world program) :
    rules.Safe post world (program >>= next) := by
  induction program generalizing world with
  | pure value => exact safe
  | request op rest ih =>
    intro later holds moved
    obtain ⟨granted, continues⟩ := safe later holds moved
    exact ⟨granted, fun others choice meets => ih _ (continues others choice meets)⟩

theorem Safe.mono {post other : World → α → Prop} {program : Program Op Reply α} (safe : rules.Safe post world program)
    (implies : ∀ world value, post world value → other world value) : rules.Safe other world program := by
  induction program generalizing world with
  | pure value => exact implies _ _ safe
  | request op rest ih =>
    intro later holds moved
    obtain ⟨granted, continues⟩ := safe later holds moved
    exact ⟨granted, fun others choice meets => ih _ (continues others choice meets)⟩

section Fallible
variable {ε : Type}

theorem safe_andThen {post : World → Except ε β → Prop} {first : Fallible Op Reply ε α}
    {next : α → Fallible Op Reply ε β}
    (safe : rules.Safe (fun world result =>
      match result with
      | .ok value => rules.Safe post world (next value)
      | .error error => post world (.error error)) world first) :
    rules.Safe post world (first >>= next : Fallible Op Reply ε β) := by
  apply Safe.bind
  apply safe.mono
  intro world result kept
  cases result with
  | ok value => exact kept
  | error error => exact kept

theorem safe_orThrow {δ : Type} {post : World → Except ε α → Prop} {wrap : δ → ε}
    {first : Fallible Op Reply ε (Except δ α)}
    (safe : rules.Safe (fun world result =>
      match result with
      | .ok (.ok value) => post world (.ok value)
      | .ok (.error error) => post world (.error (wrap error))
      | .error error => post world (.error error)) world first) :
    rules.Safe post world (first.orThrow wrap) := by
  apply safe_andThen
  apply safe.mono
  rintro world (error | error | value) kept
  all_goals exact kept

theorem safe_mapError {δ : Type} {post : World → Except ε α → Prop} {wrap : δ → ε}
    {first : Fallible Op Reply δ α}
    (safe : rules.Safe (fun world result =>
      match result with
      | .ok value => post world (.ok value)
      | .error error => post world (.error (wrap error))) world first) :
    rules.Safe post world (first.mapError wrap) := by
  apply Safe.bind
  apply safe.mono
  intro world result kept
  cases result with
  | ok value => exact kept
  | error error => exact kept

end Fallible

/-- The next operation of a waiting program is granted, and the program goes on so. -/
def ThreadSafe (rules : Rules Op Reply World Choice) (world : World) (thread : Thread Op Reply α) : Prop :=
  rules.Safe (fun _ _ => True) world (.request thread.op thread.next)

/-- Granted operations keep the invariant, and do no more than anyone may. -/
structure Assured (rules : Rules Op Reply World Choice) : Prop where
  refl : ∀ world, rules.interference world world
  trans : ∀ {first second third}, rules.interference first second → rules.interference second third →
    rules.interference first third
  step : ∀ choice world (others : List Op) op, rules.invariant world → rules.grants world op →
    rules.condition.step world others op choice →
      rules.invariant (rules.perform choice world op).2 ∧ rules.interference world (rules.perform choice world op).2

section Run
variable {Task : Type} {machine : Machine Op Reply α World Choice Task}

private theorem threadSafe_later (assured : rules.Assured) {later : World} {thread : Thread Op Reply α}
    (moved : rules.interference world later) (safe : rules.ThreadSafe world thread) : rules.ThreadSafe later thread :=
  fun last holds after => safe last holds (assured.trans moved after)

/-- The invariant, with the safety of every waiting program. -/
def Sound (rules : Rules Op Reply World Choice) (pool : Pool Op Reply α World) : Prop :=
  rules.invariant pool.world ∧ ∀ thread ∈ pool.threads, rules.ThreadSafe pool.world thread

private theorem sound_resume {pool : Pool Op Reply α World} {program : Program Op Reply α}
    (sound : rules.Sound pool) (safe : rules.Safe (fun _ _ => True) pool.world program) :
    rules.Sound (pool.resume program) := by
  cases program with
  | pure result => exact sound
  | request op next =>
    refine ⟨sound.1, ?_⟩
    intro thread member
    rcases List.mem_cons.mp member with rfl | old
    · exact safe
    · exact sound.2 thread old

theorem sound_apply (assured : rules.Assured) (performs : machine.perform = rules.perform)
    {pool : Pool Op Reply α World} {event : Event Choice Task} (sound : rules.Sound pool)
    (programs : ∀ task, event = .start task → rules.Safe (fun _ _ => True) pool.world (machine.program task))
    (meets : rules.condition.Meets pool event) : rules.Sound (machine.apply pool event) := by
  obtain ⟨kept, threads⟩ := sound
  cases event with
  | start task =>
    simp only [Machine.apply]
    split
    · exact sound_resume ⟨kept, threads⟩ (programs task rfl)
    · exact ⟨kept, threads⟩
  | step thread choice =>
    cases found : pool.threads[thread]? with
    | none => simpa only [Machine.apply, found] using ⟨kept, threads⟩
    | some waiting =>
      simp only [Condition.Meets, found] at meets
      simp only [Machine.apply, found, performs]
      obtain ⟨granted, continues⟩ := threads waiting (List.mem_of_getElem? found) pool.world kept (assured.refl _)
      obtain ⟨after, moved⟩ := assured.step choice pool.world _ waiting.op kept granted meets
      refine sound_resume ⟨after, ?_⟩ (continues _ choice meets)
      intro other member
      exact threadSafe_later assured moved (threads other (List.mem_of_mem_eraseIdx member))
  | drop thread => exact ⟨kept, fun other member => threads other (List.mem_of_mem_eraseIdx member)⟩

theorem sound_run (assured : rules.Assured) (performs : machine.perform = rules.perform)
    {pool : Pool Op Reply α World} {events : List (Event Choice Task)} (sound : rules.Sound pool)
    (programs : ∀ task, .start task ∈ events → ∀ world, rules.Safe (fun _ _ => True) world (machine.program task))
    (meets : rules.condition.RunMeets machine pool events) : rules.Sound (machine.run pool events) := by
  induction events generalizing pool with
  | nil => exact sound
  | cons event events ih =>
    have first := sound_apply assured performs sound
      (fun task starts => programs task (starts ▸ List.mem_cons_self) _) meets.1
    exact ih first (fun task member => programs task (List.mem_cons_of_mem _ member)) meets.2

/-- The invariant holds in every state that a run of safe programs reaches. -/
theorem reached (assured : rules.Assured) (performs : machine.perform = rules.perform) {world : World}
    {events : List (Event Choice Task)} (begins : rules.invariant world)
    (programs : ∀ task, .start task ∈ events → ∀ world, rules.Safe (fun _ _ => True) world (machine.program task))
    (meets : rules.condition.RunMeets machine (Pool.quiet world) events) :
    rules.invariant (machine.run (Pool.quiet world) events).world :=
  (sound_run assured performs ⟨begins, fun _ impossible => by cases impossible⟩ programs meets).1

end Run

section Pending
variable {Task : Type} {machine : Machine Op Reply α World Choice Task} {protocol : Protocol Op Reply}
  {opens : Task → Op → Prop} {holds : World → Multiset Op → Prop}

/-- What an invariant over the pending operations needs to survive every step, where each
operation may count on what it is granted. -/
structure Pending (rules : Rules Op Reply World Choice) (machine : Machine Op Reply α World Choice Task)
    (protocol : Protocol Op Reply) (opens : Task → Op → Prop) (holds : World → Multiset Op → Prop) : Prop where
  keeps : ∀ task, protocol.Keeps (opens task) (fun may _ => protocol.rests may) (machine.program task)
  started : ∀ world (others : List Op) task op, machine.admits others task → opens task op → rules.invariant world →
    rules.grants world op → holds world others → holds world (op ::ₘ others)
  continued : ∀ choice world (others : List Op) op op', rules.condition.step world others op choice →
    rules.invariant world → rules.grants world op → holds world (op ::ₘ others) →
    protocol.follows op (rules.perform choice world op).1 op' → rules.grants (rules.perform choice world op).2 op' →
    holds (rules.perform choice world op).2 (op' ::ₘ others)
  finished : ∀ choice world (others : List Op) op, rules.condition.step world others op choice →
    rules.invariant world → rules.grants world op → holds world (op ::ₘ others) →
    protocol.rests (protocol.follows op (rules.perform choice world op).1) → holds (rules.perform choice world op).2 others
  dropped : ∀ world (others : List Op) op, rules.condition.drop world others op → rules.invariant world →
    holds world (op ::ₘ others) → holds world others

theorem Pending.sound_apply (pending : rules.Pending machine protocol opens holds) (assured : rules.Assured)
    (performs : machine.perform = rules.perform) {pool : Pool Op Reply α World} {event : Event Choice Task}
    (ruled : rules.Sound pool) (sound : Invariant.Sound protocol holds pool)
    (programs : ∀ task, event = .start task → rules.Safe (fun _ _ => True) pool.world (machine.program task))
    (meets : rules.condition.Meets pool event) : Invariant.Sound protocol holds (machine.apply pool event) := by
  obtain ⟨held, threads⟩ := sound
  have remaining (thread : Nat) : ∀ other ∈ (pool.without thread).threads, protocol.ThreadKeeps other :=
    fun other member => threads other (List.mem_of_mem_eraseIdx member)
  -- the first operation of a program that is safe where it goes on
  have granted {world : World} {program : Program Op Reply α} {op : Op} {next : Reply op → Program Op Reply α}
      (kept : rules.invariant world) (safe : rules.Safe (fun _ _ => True) world program)
      (waits : program = .request op next) : rules.grants world op := by
    subst waits
    exact (safe world kept (assured.refl world)).1
  cases event with
  | start task =>
    unfold Machine.apply
    dsimp only
    split
    next admitted =>
      exact Invariant.sound_resume (pending.keeps task) threads (fun _ => held) fun op next waits first =>
        pending.started _ _ task op admitted first ruled.1 (granted ruled.1 (programs task rfl) waits) held
    next => exact ⟨held, threads⟩
  | step thread choice =>
    cases found : pool.threads[thread]? with
    | none => simpa only [Machine.apply, found] using ⟨held, threads⟩
    | some waiting =>
      simp only [Condition.Meets, found] at meets
      simp only [Machine.apply, found, performs]
      rw [Invariant.pending_cons_without found] at held
      have member := List.mem_of_getElem? found
      obtain ⟨own, continues⟩ := ruled.2 waiting member pool.world ruled.1 (assured.refl _)
      obtain ⟨kept, _⟩ := assured.step choice pool.world _ waiting.op ruled.1 own meets
      exact Invariant.sound_resume (threads waiting member _) (remaining thread)
        (pending.finished choice _ _ _ meets ruled.1 own held)
        fun op next waits follows =>
          pending.continued choice _ _ _ op meets ruled.1 own held follows (granted kept (continues _ choice meets) waits)
  | drop thread =>
    cases found : pool.threads[thread]? with
    | none =>
      have same : pool.without thread = pool := by
        simp only [Pool.without, List.eraseIdx_of_length_le (List.getElem?_eq_none_iff.mp found)]
      simpa only [Machine.apply, same] using ⟨held, threads⟩
    | some waiting =>
      simp only [Condition.Meets, found] at meets
      rw [Invariant.pending_cons_without found] at held
      exact ⟨pending.dropped _ _ _ meets ruled.1 held, remaining thread⟩

/-- What is known of the world and of what is pending in every state that a run reaches. -/
theorem Pending.reached (pending : rules.Pending machine protocol opens holds) (assured : rules.Assured)
    (performs : machine.perform = rules.perform) {world : World} {events : List (Event Choice Task)}
    (begins : rules.invariant world ∧ holds world 0)
    (programs : ∀ task world, rules.Safe (fun _ _ => True) world (machine.program task))
    (meets : rules.condition.RunMeets machine (Pool.quiet world) events) :
    let after := machine.run (Pool.quiet world) events
    rules.invariant after.world ∧ holds after.world after.pending := by
  have sound : ∀ {pool : Pool Op Reply α World}, rules.Sound pool → Invariant.Sound protocol holds pool →
      rules.condition.RunMeets machine pool events →
        rules.Sound (machine.run pool events) ∧ Invariant.Sound protocol holds (machine.run pool events) := by
    clear meets begins
    induction events with
    | nil => exact fun ruled sound _ => ⟨ruled, sound⟩
    | cons event events ih =>
      intro pool ruled sound meets
      exact ih (Rules.sound_apply assured performs ruled (fun task _ => programs task _) meets.1)
        (pending.sound_apply assured performs ruled sound (fun task _ => programs task _) meets.1) meets.2
  obtain ⟨ruled, held⟩ := sound ⟨begins.1, fun _ impossible => by cases impossible⟩
    ⟨begins.2, fun _ impossible => by cases impossible⟩ meets
  exact ⟨ruled.1, held.1⟩

end Pending
end Rules

/-- An operation, and who asks for it. -/
structure Tagged (Tag Op : Type) where
  tag : Tag
  op : Op
  deriving DecidableEq

@[reducible] def Tagged.Reply {Tag Op : Type} (Reply : Op → Type) (tagged : Tagged Tag Op) : Type := Reply tagged.op

section Tags
variable {Tag Op : Type} {Reply : Op → Type} {α World Choice : Type}

def Program.tagged (tag : Tag) (program : Program Op Reply α) :
    Program (Tagged Tag Op) (Tagged.Reply Reply) α :=
  match program with
  | .pure value => .pure value
  | .request op next => .request ⟨tag, op⟩ fun reply => (next reply).tagged tag

/-- The rules for one of the programs. -/
def Rules.at (rules : Rules (Tagged Tag Op) (Tagged.Reply Reply) World Choice) (tag : Tag) :
    Rules Op Reply World Choice :=
  { perform := fun choice world op => rules.perform choice world ⟨tag, op⟩
    condition :=
      { step := fun world _ op choice => ∃ others, rules.condition.step world others ⟨tag, op⟩ choice
        drop := fun world _ op => ∃ others, rules.condition.drop world others ⟨tag, op⟩ }
    invariant := rules.invariant
    interference := rules.interference
    grants := fun world op => rules.grants world ⟨tag, op⟩ }

theorem Rules.safe_tagged {rules : Rules (Tagged Tag Op) (Tagged.Reply Reply) World Choice} {tag : Tag}
    {post : World → α → Prop} {world : World} {program : Program Op Reply α}
    (safe : (rules.at tag).Safe post world program) : rules.Safe post world (program.tagged tag) := by
  induction program generalizing world with
  | pure value => exact safe
  | request op next ih =>
    intro later holds moved
    obtain ⟨granted, continues⟩ := safe later holds moved
    exact ⟨granted, fun others choice meets => ih _ (continues [] choice ⟨others, meets⟩)⟩

theorem Program.run_tagged (answer : World → (op : Tagged Tag Op) → Tagged.Reply Reply op × World) (tag : Tag)
    (program : Program Op Reply α) (world : World) :
    (program.tagged tag).run answer world = program.run (fun world op => answer world ⟨tag, op⟩) world := by
  induction program generalizing world with
  | pure value => rfl
  | request op next ih => exact ih _ _

end Tags

section Alone
variable {Op : Type} {Reply : Op → Type} {α World : Type} {answer : World → (op : Op) → Reply op × World} {world : World}

/-- The rules of a program that has the world to itself. -/
def Rules.alone (answer : World → (op : Op) → Reply op × World) : Rules Op Reply World Unit :=
  { perform := fun _ => answer
    condition := .always
    invariant := fun _ => True
    interference := fun before after => after = before
    grants := fun _ _ => True }

/-- What is safe for it is how it ends. -/
theorem Rules.alone_run {post : World → α → Prop} {program : Program Op Reply α}
    (safe : (Rules.alone answer).Safe post world program) :
    post (program.run answer world).2 (program.run answer world).1 := by
  induction program generalizing world with
  | pure value => exact safe
  | request op next ih => exact ih _ ((safe world trivial rfl).2 [] () trivial)

theorem Rules.alone_ask {ε : Type} {op : Op} {post : World → Except ε (Reply op) → Prop}
    (answered : post (answer world op).2 (.ok (answer world op).1)) :
    (Rules.alone answer).Safe post world (Fallible.ask op : Fallible Op Reply ε (Reply op)) := by
  rintro later - rfl
  exact ⟨trivial, fun _ _ _ => answered⟩

end Alone

section Embeddings
variable {Op Op' : Type} {Reply : Op → Type} {Reply' : Op' → Type} {α World Choice : Type}
  (through : Op → Op') (back : ∀ op, Reply' (through op) → Reply op)

/-- The program, asking through other operations. -/
def Program.embed (program : Program Op Reply α) : Program Op' Reply' α :=
  match program with
  | .pure value => .pure value
  | .request op next => .request (through op) fun reply => (next (back op reply)).embed

/-- The rules as they are for the embedded operations. -/
def Rules.along (rules : Rules Op' Reply' World Choice) : Rules Op Reply World Choice :=
  { perform := fun choice world op =>
      (back op (rules.perform choice world (through op)).1, (rules.perform choice world (through op)).2)
    condition :=
      { step := fun world _ op choice => ∃ others, rules.condition.step world others (through op) choice
        drop := fun world _ op => ∃ others, rules.condition.drop world others (through op) }
    invariant := rules.invariant
    interference := rules.interference
    grants := fun world op => rules.grants world (through op) }

theorem Rules.safe_embed {rules : Rules Op' Reply' World Choice} {post : World → α → Prop} {world : World}
    {program : Program Op Reply α} (safe : (rules.along through back).Safe post world program) :
    rules.Safe post world (program.embed through back) := by
  induction program generalizing world with
  | pure value => exact safe
  | request op next ih =>
    intro later holds moved
    obtain ⟨granted, continues⟩ := safe later holds moved
    exact ⟨granted, fun others choice meets => ih _ (continues [] choice ⟨others, meets⟩)⟩

end Embeddings

section Asking
variable {Op Op' : Type} {Reply : Op → Type} {Reply' : Op' → Type} {α β World Choice : Type} {allowed : Op → Prop}

/-- Whatever the program asks for is allowed. -/
def Program.Asks (allowed : Op → Prop) (program : Program Op Reply α) : Prop :=
  match program with
  | .pure _ => True
  | .request op next => allowed op ∧ ∀ reply, (next reply).Asks allowed

theorem Program.Asks.mono {other : Op → Prop} {program : Program Op Reply α} (asks : program.Asks allowed)
    (implies : ∀ op, allowed op → other op) : program.Asks other := by
  induction program with
  | pure value => trivial
  | request op next ih => exact ⟨implies op asks.1, fun reply => ih reply (asks.2 reply)⟩

theorem Program.Asks.bind {program : Program Op Reply α} {next : α → Program Op Reply β}
    (asks : program.Asks allowed) (rest : ∀ value, (next value).Asks allowed) : (program >>= next).Asks allowed := by
  induction program with
  | pure value => exact rest value
  | request op next ih => exact ⟨asks.1, fun reply => ih reply (asks.2 reply)⟩

theorem Program.Asks.first {program : Program Op Reply α} {next : α → Program Op Reply β}
    (asks : (program >>= next).Asks allowed) : program.Asks allowed := by
  induction program with
  | pure value => trivial
  | request op next ih => exact ⟨asks.1, fun reply => ih reply (asks.2 reply)⟩

theorem Program.Asks.embed {through : Op → Op'} {back : ∀ op, Reply' (through op) → Reply op} {allowed : Op' → Prop}
    {program : Program Op Reply α} (asks : program.Asks fun op => allowed (through op)) :
    (program.embed through back).Asks allowed := by
  induction program with
  | pure value => trivial
  | request op next ih => exact ⟨asks.1, fun reply => ih _ (asks.2 _)⟩

/-- A program that keeps to a protocol asks for what the protocol lets it. -/
theorem Protocol.Keeps.asks {protocol : Protocol Op Reply} {may : Op → Prop} {post : (Op → Prop) → α → Prop}
    {program : Program Op Reply α} (keeps : protocol.Keeps may post program) (first : ∀ op, may op → allowed op)
    (later : ∀ op reply next, protocol.follows op reply next → allowed next) : program.Asks allowed := by
  induction program generalizing may with
  | pure value => trivial
  | request op next ih => exact ⟨first op keeps.1, fun reply => ih reply (keeps.2 reply) (later op reply)⟩

theorem Rules.safe_of_asks {rules : Rules Op Reply World Choice} (grants : ∀ world op, allowed op → rules.grants world op)
    {program : Program Op Reply α} (asks : program.Asks allowed) (world : World) :
    rules.Safe (fun _ _ => True) world program := by
  induction program generalizing world with
  | pure value => trivial
  | request op next ih =>
    exact fun later _ _ => ⟨grants later op asks.1, fun _ _ _ => ih _ (asks.2 _) _⟩

section Fallible
variable {ε : Type} {α β : Type}

theorem Fallible.asks_ask {op : Op} (granted : allowed op) :
    Program.Asks allowed (Fallible.ask op : Fallible Op Reply ε (Reply op)) := ⟨granted, fun _ => trivial⟩

theorem Fallible.asks_andThen {first : Fallible Op Reply ε α} {next : α → Fallible Op Reply ε β}
    (asks : Program.Asks allowed first) (rest : ∀ value, Program.Asks allowed (next value)) :
    Program.Asks allowed (first >>= next : Fallible Op Reply ε β) := by
  refine Program.Asks.bind asks fun result => ?_
  cases result with
  | ok value => exact rest value
  | error error => trivial

theorem Fallible.asks_orThrow {δ : Type} {wrap : δ → ε} {first : Fallible Op Reply ε (Except δ α)}
    (asks : Program.Asks allowed first) : Program.Asks allowed (first.orThrow wrap) := by
  refine Fallible.asks_andThen asks fun result => ?_
  cases result <;> trivial

theorem Fallible.asks_mapError {δ : Type} {wrap : δ → ε} {first : Fallible Op Reply δ α}
    (asks : Program.Asks allowed first) : Program.Asks allowed (first.mapError wrap) := by
  refine Program.Asks.bind asks fun result => ?_
  cases result <;> trivial

end Fallible
end Asking
end ApexEdge.Library
