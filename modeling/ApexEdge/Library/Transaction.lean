import Mathlib.Data.List.Perm.Basic
import ApexEdge.Library.Sequence

/-! Transactions that read once and write once, with nothing to hold others off in
between. A run in which every write still finds what its transaction has read is a
serial run: those that write take effect at their writes, the others at their reads. -/

namespace ApexEdge.Library

/-- What is read, what is answered to it, and what is written, if anything. -/
structure Transaction (State View Answer : Type) where
  read : State → View
  answer : View → Answer
  write : View → Option (State → State)

namespace Transaction
variable {State View Answer Task : Type}

def effect (transaction : Transaction State View Answer) (view : View) (state : State) : State :=
  match transaction.write view with
  | none => state
  | some change => change state

/-- Read and write at once. -/
def execute (transaction : Transaction State View Answer) (state : State) : Answer × State :=
  let view := transaction.read state
  (transaction.answer view, transaction.effect view state)

inductive Phase (View Answer : Type) where
  | waiting
  | holding (view : View)
  | answered (answer : Answer)
  deriving DecidableEq

structure Session (Task View Answer : Type) where
  task : Task
  phase : Phase View Answer

def Session.done (session : Session Task View Answer) : Option (Task × Answer) :=
  match session.phase with
  | .answered answer => some (session.task, answer)
  | _ => none

/-- Sessions over one state. -/
structure Sessions (State Task View Answer : Type) where
  state : State
  sessions : List (Session Task View Answer)

namespace Sessions

def waiting (state : State) (tasks : List Task) : Sessions State Task View Answer :=
  { state := state, sessions := tasks.map fun task => ⟨task, .waiting⟩ }

/-- The tasks that have been answered, with their answers. -/
def done (all : Sessions State Task View Answer) : List (Task × Answer) := all.sessions.filterMap Session.done

variable (transaction : Task → Transaction State View Answer)

/-- One session takes its next step. -/
def step (all : Sessions State Task View Answer) (session : Nat) : Sessions State Task View Answer :=
  match all.sessions[session]? with
  | none => all
  | some ⟨task, .waiting⟩ =>
    { all with sessions := all.sessions.set session ⟨task, .holding ((transaction task).read all.state)⟩ }
  | some ⟨task, .holding view⟩ =>
    { state := (transaction task).effect view all.state
      sessions := all.sessions.set session ⟨task, .answered ((transaction task).answer view)⟩ }
  | some ⟨_, .answered _⟩ => all

/-- A session that writes finds what it has read. -/
def Current (all : Sessions State Task View Answer) (session : Nat) : Prop :=
  match all.sessions[session]? with
  | some ⟨task, .holding view⟩ => ((transaction task).write view).isSome → (transaction task).read all.state = view
  | _ => True

instance [DecidableEq View] (all : Sessions State Task View Answer) (session : Nat) :
    Decidable (Current transaction all session) := by
  unfold Current
  split <;> infer_instance

end Sessions

section Serial
variable (transaction : Task → Transaction State View Answer)

/-- One task after another. -/
def serial (state : State) (tasks : List Task) : State :=
  tasks.foldl (fun state task => ((transaction task).execute state).2) state

/-- One after another, the tasks get these answers. -/
def Answers (state : State) (done : List (Task × Answer)) : Prop :=
  match done with
  | [] => True
  | (task, answer) :: done =>
    ((transaction task).execute state).1 = answer ∧ Answers ((transaction task).execute state).2 done

variable {transaction} {state : State}

theorem serial_append (first second : List Task) :
    serial transaction state (first ++ second) = serial transaction (serial transaction state first) second :=
  List.foldl_append

theorem answers_append {first second : List (Task × Answer)} :
    Answers transaction state (first ++ second) ↔ Answers transaction state first ∧
      Answers transaction (serial transaction state (first.map Prod.fst)) second := by
  induction first generalizing state with
  | nil => simp [Answers, serial]
  | cons task first ih => simp only [List.cons_append, Answers, ih, List.map_cons, serial, List.foldl_cons, and_assoc]

/-- A task without a write fits in wherever its read does. -/
theorem serial_insert {before after : List (Task × Answer)} {task : Task} {answer : Answer}
    (quiet : (transaction task).write
      ((transaction task).read (serial transaction state (before.map Prod.fst))) = none) :
    serial transaction state ((before ++ (task, answer) :: after).map Prod.fst) =
      serial transaction state ((before ++ after).map Prod.fst) := by
  rw [List.map_append, List.map_append, serial_append, serial_append, List.map_cons]
  show serial transaction ((transaction task).execute _).2 _ = _
  simp only [execute, effect, quiet]

end Serial

section Runs
variable {transaction : Task → Transaction State View Answer} {start : State}
  {all : Sessions State Task View Answer}

/-- Some serial order of the tasks that are done explains the state and the answers,
and a part of it what each reader has read. -/
structure Serialized (transaction : Task → Transaction State View Answer) (start : State)
    (all : Sessions State Task View Answer) (order : List (Task × Answer)) : Prop where
  done : order.Perm all.done
  state : serial transaction start (order.map Prod.fst) = all.state
  answers : Answers transaction start order
  readers : ∀ task view, ⟨task, .holding view⟩ ∈ all.sessions → ∃ before after, order = before ++ after ∧
    (transaction task).read (serial transaction start (before.map Prod.fst)) = view

theorem done_set {sessions : List (Session Task View Answer)} {session : Nat} {old : Session Task View Answer}
    (found : sessions[session]? = some old) (before : old.done = none) (task : Task) (answer : Answer) :
    ((sessions.set session ⟨task, .answered answer⟩).filterMap Session.done).Perm
      ((task, answer) :: sessions.filterMap Session.done) := by
  induction sessions generalizing session with
  | nil => cases found
  | cons first rest ih =>
    cases session with
    | zero =>
      cases found
      rw [List.set_cons_zero, List.filterMap_cons, List.filterMap_cons, before]
      exact .refl _
    | succ session =>
      rw [List.set_cons_succ, List.filterMap_cons, List.filterMap_cons]
      cases first.done with
      | none => exact ih found
      | some other => exact ((ih found).cons other).trans (.swap _ _ _)

theorem done_set_none {sessions : List (Session Task View Answer)} {session : Nat}
    {old new : Session Task View Answer} (found : sessions[session]? = some old) (before : old.done = none)
    (after : new.done = none) :
    (sessions.set session new).filterMap Session.done = sessions.filterMap Session.done := by
  induction sessions generalizing session with
  | nil => cases found
  | cons first rest ih =>
    cases session with
    | zero =>
      cases found
      simp [before, after]
    | succ session => rw [List.set_cons_succ, List.filterMap_cons, List.filterMap_cons, ih found]

/-- A session reads: the order stays, and all of it explains what is read. -/
theorem serialized_read {order : List (Task × Answer)} {session : Nat} {task : Task}
    (serialized : Serialized transaction start all order) (found : all.sessions[session]? = some ⟨task, .waiting⟩) :
    Serialized transaction start
      ⟨all.state, all.sessions.set session ⟨task, .holding ((transaction task).read all.state)⟩⟩ order where
  done := by
    rw [Sessions.done, done_set_none found rfl rfl]
    exact serialized.done
  state := serialized.state
  answers := serialized.answers
  readers other view member := by
    rcases List.mem_or_eq_of_mem_set member with old | new
    · exact serialized.readers other view old
    · cases new
      exact ⟨order, [], (List.append_nil order).symm, by rw [serialized.state]⟩

/-- A session writes what it has read just now: it comes last in the order. -/
theorem serialized_write {order : List (Task × Answer)} {session : Nat} {task : Task} {view : View}
    (serialized : Serialized transaction start all order)
    (found : all.sessions[session]? = some ⟨task, .holding view⟩) (current : (transaction task).read all.state = view) :
    Serialized transaction start
      ⟨(transaction task).effect view all.state,
        all.sessions.set session ⟨task, .answered ((transaction task).answer view)⟩⟩
      (order ++ [(task, (transaction task).answer view)]) where
  done := by
    have grown := done_set found rfl task ((transaction task).answer view)
    exact (List.perm_append_singleton _ _).trans ((serialized.done.cons _).trans grown.symm)
  state := by
    rw [List.map_append, serial_append, serialized.state]
    show ((transaction task).execute all.state).2 = _
    simp only [execute, current]
  answers := by
    rw [answers_append, serialized.state]
    exact ⟨serialized.answers, by simp only [execute, current], trivial⟩
  readers other seen member := by
    rcases List.mem_or_eq_of_mem_set member with old | new
    · obtain ⟨before, after, split, read⟩ := serialized.readers other seen old
      exact ⟨before, after ++ [(task, (transaction task).answer view)], by rw [split, List.append_assoc], read⟩
    · cases new

/-- A session that writes nothing comes where it has read. -/
theorem serialized_quiet {order : List (Task × Answer)} {session : Nat} {task : Task} {view : View}
    (serialized : Serialized transaction start all order)
    (found : all.sessions[session]? = some ⟨task, .holding view⟩) (quiet : (transaction task).write view = none) :
    ∃ order, Serialized transaction start
      ⟨all.state, all.sessions.set session ⟨task, .answered ((transaction task).answer view)⟩⟩ order := by
  obtain ⟨before, after, split, read⟩ := serialized.readers task view (List.mem_of_getElem? found)
  have silent : (transaction task).write
      ((transaction task).read (serial transaction start (before.map Prod.fst))) = none := by rw [read, quiet]
  have stays : ((transaction task).execute (serial transaction start (before.map Prod.fst))).2 =
      serial transaction start (before.map Prod.fst) := by simp only [execute, effect, silent]
  refine ⟨before ++ (task, (transaction task).answer view) :: after, ?_, ?_, ?_, ?_⟩
  · have grown := done_set found rfl task ((transaction task).answer view)
    have same := serialized.done.cons (task, (transaction task).answer view)
    rw [split] at same
    exact List.perm_middle.trans (same.trans grown.symm)
  · rw [serial_insert silent, ← split]
    exact serialized.state
  · have answers := serialized.answers
    rw [split, answers_append] at answers
    rw [answers_append]
    refine ⟨answers.1, ?_, ?_⟩
    · simp only [execute, read]
    · rw [stays]
      exact answers.2
  · intro other seen member
    rcases List.mem_or_eq_of_mem_set member with old | new
    · obtain ⟨first, second, cut, saw⟩ := serialized.readers other seen old
      -- The other reader has read before or after the place.
      rcases List.append_eq_append_iff.mp (split.symm.trans cut) with ⟨rest, front, back⟩ | ⟨rest, front, back⟩
      · refine ⟨before ++ (task, (transaction task).answer view) :: rest, second, ?_, ?_⟩
        · rw [back, List.append_assoc, List.cons_append]
        · rw [serial_insert silent, ← front]
          exact saw
      · refine ⟨first, rest ++ (task, (transaction task).answer view) :: after, ?_, saw⟩
        rw [front, List.append_assoc]
    · cases new

/-- What has been done is a serial run. -/
def Serializable (transaction : Task → Transaction State View Answer) (start : State)
    (all : Sessions State Task View Answer) : Prop := ∃ order, Serialized transaction start all order

theorem serializable_step {session : Nat} (serializable : Serializable transaction start all)
    (current : Sessions.Current transaction all session) :
    Serializable transaction start (all.step transaction session) := by
  obtain ⟨order, serialized⟩ := serializable
  unfold Sessions.step
  unfold Sessions.Current at current
  split
  next => exact ⟨order, serialized⟩
  next task found => exact ⟨order, serialized_read serialized found⟩
  next task view found =>
    rw [found] at current
    cases writes : (transaction task).write view with
    | none =>
      simp only [effect, writes]
      exact serialized_quiet serialized found writes
    | some change => exact ⟨_, serialized_write serialized found (current (by simp [writes]))⟩
  next => exact ⟨order, serialized⟩

theorem serialized_waiting (tasks : List Task) :
    Serialized transaction start (Sessions.waiting start tasks) [] where
  done := by
    have none : (Sessions.waiting start tasks : Sessions State Task View Answer).done = [] := by
      simp [Sessions.done, Sessions.waiting, Session.done]
    rw [none]
  state := rfl
  answers := trivial
  readers task view member := by
    obtain ⟨_, _, impossible⟩ := List.mem_map.mp member
    cases impossible

/-- However sessions interleave: if each that writes finds what it has read, what has
been done is a serial run, with the answers of that run. -/
theorem run_serializable {tasks : List Task} {steps : List Nat}
    (current : Sequence.Meets (Sessions.step transaction) (Sessions.Current transaction)
      (Sessions.waiting start tasks) steps) :
    Serializable transaction start
      (Sequence.run (Sessions.step transaction) (Sessions.waiting start tasks) steps) :=
  Sequence.keeps (fun _ _ => serializable_step) ⟨[], serialized_waiting tasks⟩ current

/-- No step changes what the sessions are about. -/
theorem tasks_step (all : Sessions State Task View Answer) (session : Nat) :
    (all.step transaction session).sessions.map Session.task = all.sessions.map Session.task := by
  have kept {task : Task} {old phase : Phase View Answer} (found : all.sessions[session]? = some ⟨task, old⟩) :
      (all.sessions.set session ⟨task, phase⟩).map Session.task = all.sessions.map Session.task := by
    obtain ⟨inside, same⟩ := List.getElem?_eq_some_iff.mp found
    have bound : session < (all.sessions.map Session.task).length := by simpa using inside
    have own : task = (all.sessions.map Session.task)[session] := by simp [same]
    rw [List.map_set, own, List.set_getElem_self]
  unfold Sessions.step
  split
  next => rfl
  next task found => exact kept found
  next task view found => exact kept found
  next => rfl

theorem tasks_run (all : Sessions State Task View Answer) (steps : List Nat) :
    (Sequence.run (Sessions.step transaction) all steps).sessions.map Session.task =
      all.sessions.map Session.task := by
  induction steps generalizing all with
  | nil => rfl
  | cons step steps ih => rw [Sequence.run_cons, ih, tasks_step]

/-- When as many are done as there are sessions, all of them are. -/
theorem tasks_done {all : Sessions State Task View Answer} (finished : all.done.length = all.sessions.length) :
    all.done.map Prod.fst = all.sessions.map Session.task := by
  unfold Sessions.done at finished ⊢
  generalize all.sessions = sessions at finished ⊢
  induction sessions with
  | nil => rfl
  | cons first rest ih =>
    have fewer : (rest.filterMap Session.done).length ≤ rest.length := List.length_filterMap_le ..
    obtain ⟨task, phase⟩ := first
    cases phase with
    | answered answer =>
      simp only [List.filterMap_cons, Session.done, List.length_cons, Nat.add_right_cancel_iff] at finished ⊢
      simp only [List.map_cons, ih finished]
    | waiting | holding =>
      simp only [List.filterMap_cons, Session.done, List.length_cons] at finished
      omega

end Runs
end Transaction
end ApexEdge.Library
