import ApexEdge.Proofs.ApprovalDecisions

/-! One supervisor decision, one action. A command looks an approval up and carries its
action out later, and nothing marks the approval as used in between or afterwards; nor is
its action compared. What the law rests on is therefore who looks up what. -/

namespace ApexEdge.Proofs.SupervisedUses
open Library Payment Domain Storage Contracts Hub
open ApprovalDesk ApprovalConduct ApprovalRows

/-- Each supervised action that was carried out used an approval that was granted, in the
command's own store. -/
def Approved {Remote : Type} (world : ApprovalWorld Remote) : Prop :=
  ∀ use ∈ world.uses, ∃ id ∈ world.granted, use.approval = some id ∧
    ∃ row ∈ world.approvals, row.id = id ∧ use.command.map storeOf = some row.storeId

/-- No two of them used the same one, and each used one that was requested for its action. -/
structure Single {Remote : Type} (names : SupervisedAction → String) (world : ApprovalWorld Remote) : Prop where
  once : (world.uses.filterMap Use.approval).Nodup
  fits : ∀ use ∈ world.uses, ∀ id ∈ use.approval, ∃ row ∈ world.approvals, row.id = id ∧ row.action = names use.action

section Steps
variable {Remote Answer : Type} (names : SupervisedAction → String)

/-- A command that is shown an approval as granted is there for the action that it was
requested for, and nothing has been carried out on it or still can be. -/
def sparing : Condition ApprovalDeskRequest (ApprovalWorld Remote) (ApprovalChoice Answer) where
  step world others request _ :=
    match request.2 with
    | .command asked => ∀ id ∈ sought asked, ∀ row ∈ Approvals.fetch id world.approvals, row.state = .granted →
      (∀ action ∈ request.1.command.bind supervisedBy, row.action = names action) ∧
        (∀ use ∈ world.uses, use.approval ≠ some id) ∧ ∀ other ∈ others, other.1.granted ≠ some id
    | .approval _ => True
  drop _ _ _ := True

instance (world : ApprovalWorld Remote) (others : List ApprovalDeskRequest) (request : ApprovalDeskRequest)
    (choice : ApprovalChoice Answer) : Decidable ((sparing names).step world others request choice) :=
  match request with
  | (memory, .command asked) => inferInstanceAs (Decidable (∀ id ∈ sought asked,
      ∀ row ∈ Approvals.fetch id world.approvals, row.state = .granted →
        (∀ action ∈ memory.command.bind supervisedBy, row.action = names action) ∧
          (∀ use ∈ world.uses, use.approval ≠ some id) ∧ ∀ other ∈ others, other.1.granted ≠ some id))
  | (_, .approval _) => isTrue trivial

instance (world : ApprovalWorld Remote) (others : List ApprovalDeskRequest) (request : ApprovalDeskRequest) :
    Decidable ((sparing names : Condition _ _ (ApprovalChoice Answer)).drop world others request) := isTrue trivial

/-- A command that is shown an approval as granted is there for an action that suits it. -/
def suiting (suits : SupervisedAction → String → Prop) : Condition ApprovalDeskRequest (ApprovalWorld Remote) (ApprovalChoice Answer) where
  step world _ request _ :=
    match request.2 with
    | .command asked => ∀ id ∈ sought asked, ∀ row ∈ Approvals.fetch id world.approvals, row.state = .granted →
      ∀ action ∈ request.1.command.bind supervisedBy, suits action row.action
    | .approval _ => True
  drop _ _ _ := True

/-- What a statement means for who may do what. -/
inductive Handled (world after : ApprovalWorld Remote) (memory later : Memory) (call : DeskCall) : Prop where
  | passed (granted : later.granted = memory.granted) (uses : after.uses = world.uses)
  | told (asked : ShiftRequest) (id : Uuid) (row : ApprovalRecord) (command : call = .command asked)
      (seeks : sought asked = some id) (found : Approvals.fetch id world.approvals = some row)
      (shown : row.state = .granted) (granted : later.granted = some id) (uses : after.uses = world.uses)
  | used (asked : ShiftRequest) (action : SupervisedAction) (command : call = .command asked)
      (supervises : supervised asked = some action) (granted : later.granted = none)
      (uses : after.uses = world.uses ++ [⟨memory.command, action, memory.granted⟩])

variable (rank : Uuid → Nat) (providers : Providers Remote Answer)

theorem shown_granted (choice : ApprovalChoice Answer) {world : ApprovalWorld Remote} {memory : Memory}
    {asked : ShiftRequest} {id : Uuid}
    (told : shown asked (performDesk rank providers choice world (memory, .command asked)).1 = some id) :
    carriedOut asked (performDesk rank providers choice world (memory, .command asked)).1 = none ∧
      ∃ row, Approvals.fetch id world.approvals = some row ∧ row.state = .granted := by
  rcases asked with ⟨frame, adding, restocks, call⟩ | _
  · cases call
    case fetchApproval wanted =>
      refine ⟨rfl, ?_⟩
      have told : (if isGranted (approvalState choice.desk world.approvals wanted) then some wanted else none) = some id :=
        told
      split at told
      next granted =>
        cases told
        unfold approvalState at granted
        split at granted
        · cases granted
        · cases found : Approvals.fetch id world.approvals with
          | none =>
            rw [found] at granted
            cases granted
          | some row =>
            refine ⟨row, rfl, ?_⟩
            rw [found] at granted
            cases state : row.state <;> simp_all [isGranted]
      next => cases told
    all_goals cases told
  · cases told

theorem handled (choice : ApprovalChoice Answer) (world : ApprovalWorld Remote) (memory : Memory) (call : DeskCall) :
    Handled world (performDesk rank providers choice world (memory, call)).2 memory
      (learn memory call (performDesk rank providers choice world (memory, call)).1) call := by
  cases call with
  | command asked =>
    have records : (performDesk rank providers choice world (memory, .command asked)).2.uses =
      world.uses ++ (carriedOut asked (performDesk rank providers choice world (memory, .command asked)).1).toList.map
        fun action => Use.mk memory.command action memory.granted := rfl
    cases told : shown asked (performDesk rank providers choice world (memory, .command asked)).1 with
    | some id =>
      obtain ⟨nothing, row, found, granted⟩ := shown_granted rank providers choice told
      refine .told asked id row rfl (sought_of_shown told) found granted ?_ ?_
      · simp only [learn, told]
      · rw [records, nothing]
        exact List.append_nil _
    | none =>
      cases done : carriedOut asked (performDesk rank providers choice world (memory, .command asked)).1 with
      | none =>
        refine .passed ?_ ?_
        · simp [learn, told, done]
        · rw [records, done]
          exact List.append_nil _
      | some action =>
        refine .used asked action rfl (supervised_of_carriedOut done) ?_ ?_
        · simp [learn, told, done]
        · rw [records, done]
          rfl
  | approval call =>
    refine .passed ?_ ?_
    · unfold learn
      split <;> first | rfl | contradiction
    · exact (performApproval_apart choice _ call).1

/-! ### Once -/

def grasp (request : ApprovalDeskRequest) : Option Uuid := request.1.granted

def held (pending : Multiset ApprovalDeskRequest) : Multiset Uuid := pending.filterMap grasp

def spent (world : ApprovalWorld Remote) : Multiset Uuid := (world.uses.filterMap Use.approval : List Uuid)

theorem held_cons (request : ApprovalDeskRequest) (others : Multiset ApprovalDeskRequest) :
    held (request ::ₘ others) = ((grasp request).toList : Multiset Uuid) + held others :=
  filterMap_pending grasp request others

/-- What has been carried out on an approval, or still can be. -/
def bound (world : ApprovalWorld Remote) (pending : Multiset ApprovalDeskRequest) : Multiset Uuid := spent world + held pending

theorem bound_cons (world : ApprovalWorld Remote) (request : ApprovalDeskRequest) (others : Multiset ApprovalDeskRequest) :
    bound world (request ::ₘ others) = bound world others + ((grasp request).toList : Multiset Uuid) := by
  unfold bound
  rw [held_cons, add_comm ((grasp request).toList : Multiset Uuid), add_assoc]

theorem not_bound {world : ApprovalWorld Remote} {others : List ApprovalDeskRequest} {id : Uuid}
    (unused : ∀ use ∈ world.uses, use.approval ≠ some id) (unheld : ∀ other ∈ others, other.1.granted ≠ some id) :
    id ∉ bound world (others : Multiset ApprovalDeskRequest) := by
  intro member
  rcases Multiset.mem_add.mp member with used | holds
  · obtain ⟨use, present, same⟩ := List.mem_filterMap.mp (Multiset.mem_coe.mp used)
    exact unused use present same
  · obtain ⟨other, present, same⟩ := (Multiset.mem_filterMap _ _).mp holds
    exact unheld other (Multiset.mem_coe.mp present) same

theorem spent_used {world after : ApprovalWorld Remote} {use : Use} (uses : after.uses = world.uses ++ [use]) :
    spent after = spent world + (use.approval.toList : Multiset Uuid) := by
  unfold spent
  rw [uses, List.filterMap_append, ← Multiset.coe_add]
  cases named : use.approval <;> simp [named]

theorem singly_continued {choice : ApprovalChoice Answer} {world : ApprovalWorld Remote} {others : List ApprovalDeskRequest}
    {request : ApprovalDeskRequest} {later : ApprovalDeskRequest} (spares : (sparing names).step world others request choice)
    (singly : (bound world (request ::ₘ (others : Multiset ApprovalDeskRequest))).Nodup)
    (learnt : later.1 = learn request.1 request.2 (performDesk rank providers choice world request).1) :
    (bound (performDesk rank providers choice world request).2 (later ::ₘ (others : Multiset ApprovalDeskRequest))).Nodup := by
  obtain ⟨memory, call⟩ := request
  have step := handled rank providers choice world memory call
  rw [bound_cons] at singly ⊢
  generalize performDesk rank providers choice world (memory, call) = answered at step learnt ⊢
  have same (uses : answered.2.uses = world.uses) : bound answered.2 (others : Multiset ApprovalDeskRequest) = bound world others := by
    simp only [bound, spent, uses]
  cases step with
  | passed granted uses =>
    rw [same uses, grasp, learnt, granted]
    exact singly
  | told asked id row command seeks found shown granted uses =>
    subst command
    obtain ⟨_, unused, unheld⟩ := spares id seeks row found shown
    rw [same uses, grasp, learnt, granted]
    have fresh := not_bound unused unheld
    have others : (bound world (others : Multiset ApprovalDeskRequest)).Nodup :=
      Multiset.nodup_of_le (Multiset.le_add_right _ _) singly
    simpa [add_comm] using Multiset.nodup_cons.mpr ⟨fresh, others⟩
  | used asked action command supervises granted uses =>
    have moves : bound answered.2 (others : Multiset ApprovalDeskRequest) =
        bound world (others : Multiset ApprovalDeskRequest) + ((grasp (memory, call)).toList : Multiset Uuid) := by
      unfold bound
      rw [spent_used uses, add_right_comm]
      rfl
    rw [grasp, learnt, granted, moves]
    simpa using singly

theorem singly {app : AppState} : Invariant (desk app rank providers) (deskDiscipline app).protocol (sparing names) (opens app)
    (fun world pending => (bound world pending).Nodup) where
  keeps := approvalTask_keeps app
  started world others task request _ opened singly := by
    have nothing : grasp request = none := by
      rw [grasp, opened.1]
      cases task <;> rfl
    rw [bound_cons, nothing]
    simpa using singly
  continued choice world others request later spares singly next :=
    singly_continued names rank providers spares singly next.1
  finished choice world others request spares singly _ := by
    let later : ApprovalDeskRequest := (learn request.1 request.2 (performDesk rank providers choice world request).1, request.2)
    have continued : (bound _ (later ::ₘ (others : Multiset ApprovalDeskRequest))).Nodup :=
      singly_continued names rank providers spares singly rfl
    rw [bound_cons] at continued
    exact Multiset.nodup_of_le (Multiset.le_add_right _ _) continued
  dropped world others request _ singly := by
    rw [bound_cons] at singly
    exact Multiset.nodup_of_le (Multiset.le_add_right _ _) singly

/-! ### On an approval that was granted -/

variable (suits : SupervisedAction → String → Prop)

/-- An approval that was granted, of the store, for the action. -/
structure Backs (world : ApprovalWorld Remote) (id : Uuid) (row : ApprovalRecord) : Prop where
  granted : id ∈ world.granted
  present : row ∈ world.approvals
  id : row.id = id

def Rests (world : ApprovalWorld Remote) (use : Use) : Prop :=
  ∃ id row, use.approval = some id ∧ Backs world id row ∧ suits use.action row.action ∧
    use.command.map storeOf = some row.storeId

/-- The approval that it holds suits what the command is there for. -/
def Entitled (world : ApprovalWorld Remote) (memory : Memory) : Prop :=
  ∀ id ∈ memory.granted, ∃ row, Backs world id row ∧ ∀ action ∈ memory.command.bind supervisedBy, suits action row.action

variable {suits}

theorem Backs.written {call : DeskCall} {world after : ApprovalWorld Remote} {id : Uuid} {row : ApprovalRecord}
    (backs : Backs world id row) (written : Written call world after) :
    ∃ later, Backs after id later ∧ row.SameRequest later := by
  obtain ⟨later, present, same⟩ := written.remains backs.present
  exact ⟨later, ⟨written.everGranted backs.granted, present, same.id.trans backs.id⟩, same⟩

theorem Rests.written {call : DeskCall} {world after : ApprovalWorld Remote} {use : Use} (rests : Rests suits world use)
    (written : Written call world after) : Rests suits after use := by
  obtain ⟨id, row, approval, backs, action, store⟩ := rests
  obtain ⟨later, still, same⟩ := backs.written written
  exact ⟨id, later, approval, still, same.action ▸ action, store.trans (congrArg some same.storeId.symm)⟩

theorem Entitled.written {call : DeskCall} {world after : ApprovalWorld Remote} {memory : Memory}
    (entitled : Entitled suits world memory) (written : Written call world after) : Entitled suits after memory := by
  intro id holds
  obtain ⟨row, backs, action⟩ := entitled id holds
  obtain ⟨later, still, same⟩ := backs.written written
  exact ⟨later, still, fun wanted there => same.action ▸ action wanted there⟩

variable {app : AppState}

/-- What is carried out rests on the approval that the command holds. -/
theorem uses_rest {choice : ApprovalChoice Answer} {world : ApprovalWorld Remote} {request : ApprovalDeskRequest}
    (allowed : Allowed app request.1 request.2) (kept : Kept app world) (entitled : Entitled suits world request.1)
    (rest : ∀ use ∈ world.uses, Rests suits world use) :
    ∀ use ∈ (performDesk rank providers choice world request).2.uses,
      Rests suits (performDesk rank providers choice world request).2 use := by
  obtain ⟨memory, call⟩ := request
  have step := handled rank providers choice world memory call
  have written := written rank providers choice world (memory, call)
  generalize performDesk rank providers choice world (memory, call) = answered at step written ⊢
  intro use member
  cases step with
  | passed _ uses => exact (rest use (uses ▸ member)).written written
  | told _ _ _ _ _ _ _ _ uses => exact (rest use (uses ▸ member)).written written
  | used asked action command supervises _ uses =>
    rw [uses] at member
    rcases List.mem_append.mp member with old | new
    · exact (rest use old).written written
    · cases List.mem_singleton.mp new
      subst command
      obtain ⟨some, task, runs, there, store⟩ := allowed action supervises
      obtain ⟨id, holds⟩ := Option.isSome_iff_exists.mp some
      obtain ⟨row, backs, fits⟩ := entitled id holds
      refine Rests.written ⟨id, row, holds, backs, fits action ?_, ?_⟩ written
      · rw [runs]
        exact there
      · rw [runs, kept.here row backs.present]
        exact congrArg _ store

theorem entitled_learn {choice : ApprovalChoice Answer} {world : ApprovalWorld Remote} {others : List ApprovalDeskRequest}
    {request : ApprovalDeskRequest} (spares : (suiting suits).step world others request choice) (kept : Kept app world)
    (entitled : Entitled suits world request.1) :
    Entitled suits (performDesk rank providers choice world request).2
      (learn request.1 request.2 (performDesk rank providers choice world request).1) := by
  obtain ⟨memory, call⟩ := request
  have step := handled rank providers choice world memory call
  have command := command_learn memory call (performDesk rank providers choice world (memory, call)).1
  have written := written rank providers choice world (memory, call)
  generalize learn memory call _ = later at step command ⊢
  generalize performDesk rank providers choice world (memory, call) = answered at step written ⊢
  intro id holds
  rw [command]
  cases step with
  | passed granted _ => exact entitled.written written id (granted ▸ holds)
  | told asked shown row asks seeks found state granted _ =>
    subst asks
    rw [granted] at holds
    cases Option.mem_some.mp holds
    have same : row.id = id := by simpa using List.find?_some found
    have present := List.mem_of_find?_eq_some found
    have backs : Backs world id row := ⟨same ▸ kept.granted row present state, present, same⟩
    obtain ⟨after, still, unchanged⟩ := backs.written written
    exact ⟨after, still, fun action there => unchanged.action ▸ spares id seeks row found state action there⟩
  | used _ _ _ _ granted _ =>
    rw [granted] at holds
    cases holds

theorem entitled : Invariant (desk app rank providers) (deskDiscipline app).protocol (suiting suits) (opens app)
    (fun world pending => Sound app world pending ∧ (∀ use ∈ world.uses, Rests suits world use) ∧
      ∀ request ∈ pending, Entitled suits world request.1) := by
  refine Invariant.extend ((rows rank providers).under (fun _ _ _ _ _ => trivial) fun _ _ _ _ => trivial) ⟨?_, ?_, ?_⟩
  · rintro world others task request ⟨begins, _⟩ _ _ id holds
    rw [begins] at holds
    cases task <;> cases holds
  · intro choice world others request spares ⟨allowed, kept, _⟩ rest all
    have first := Multiset.mem_cons_self request (others : Multiset ApprovalDeskRequest)
    refine ⟨uses_rest rank providers (allowed request first) kept (all request first) rest, fun other member => ?_⟩
    exact (all other (Multiset.mem_cons_of_mem (Multiset.mem_coe.mpr member))).written
      (written rank providers choice world request)
  · intro choice world others request later spares ⟨_, kept, _⟩ _ all next _ _
    rw [next.1]
    exact entitled_learn rank providers spares kept (all request (Multiset.mem_cons_self _ _))

theorem rests_reached {condition : Condition ApprovalDeskRequest (ApprovalWorld Remote) (ApprovalChoice Answer)}
    (stronger : ∀ world others request choice, condition.step world others request choice →
      (suiting suits).step world others request choice)
    {world : ApprovalWorld Remote} {events : List (Event (ApprovalChoice Answer) ApprovalTask)}
    (kept : Kept app world) (unused : world.uses = [])
    (meets : condition.RunMeets (desk app rank providers) (Pool.quiet world) events) :
    ∀ use ∈ ((desk app rank providers).run (Pool.quiet world) events).world.uses,
      Rests suits ((desk app rank providers).run (Pool.quiet world) events).world use := by
  have unspent : ∀ use ∈ world.uses, Rests suits world use := by
    rw [unused]
    exact fun _ impossible => nomatch impossible
  have invariant : Invariant (desk app rank providers) (deskDiscipline app).protocol condition (opens app) _ :=
    (entitled rank providers).under stronger fun _ _ _ _ => trivial
  exact (invariant.reached ⟨sound_quiet kept, unspent, quiet_all⟩ meets).2.1

/-- In every run a supervised command that succeeded used an approval of its store that was
granted. Where besides a granted approval is shown only to a command that it was requested for,
and to one at most, no approval authorized two commands or one of another action. -/
theorem one_decision_one_action (app : AppState) (rank : Uuid → Nat) (providers : Providers Remote Answer)
    (names : SupervisedAction → String) {world : ApprovalWorld Remote}
    (events : List (Event (ApprovalChoice Answer) ApprovalTask)) (kept : Kept app world) (unused : world.uses = []) :
    Approved ((desk app rank providers).run (Pool.quiet world) events).world ∧
      ((sparing names).RunMeets (desk app rank providers) (Pool.quiet world) events →
        Single names ((desk app rank providers).run (Pool.quiet world) events).world) := by
  constructor
  · intro use member
    have stronger : ∀ world others request choice, Condition.always.step world others request choice →
        (suiting fun _ _ => True : Condition ApprovalDeskRequest (ApprovalWorld Remote) (ApprovalChoice Answer)).step
          world others request choice := by
      rintro _ _ ⟨_, _ | _⟩ _ _
      · exact fun _ _ _ _ _ _ _ => trivial
      · trivial
    obtain ⟨id, row, approval, backs, _, store⟩ :=
      rests_reached rank providers stronger kept unused (Condition.runMeets_always events) use member
    exact ⟨id, backs.granted, approval, row, backs.present, backs.id, store⟩
  · intro meets
    constructor
    · have nothing : bound world 0 = 0 := by simp [bound, spent, held, unused]
      have once := (singly names rank providers).reached (by rw [nothing]; exact Multiset.nodup_zero) meets
      exact Multiset.coe_nodup.mp (Multiset.nodup_of_le (Multiset.le_add_right _ _) once)
    · intro use member id named
      have stronger : ∀ world others request choice, (sparing names).step world others request choice →
          (suiting fun action name => name = names action :
            Condition ApprovalDeskRequest (ApprovalWorld Remote) (ApprovalChoice Answer)).step world others request choice := by
        rintro _ _ ⟨_, _ | _⟩ _ spares
        · exact fun id seeks row found granted => (spares id seeks row found granted).1
        · trivial
      obtain ⟨other, row, approval, backs, action, _⟩ := rests_reached rank providers stronger kept unused meets use member
      cases approval.symm.trans named
      exact ⟨row, backs.present, backs.id, action⟩

end Steps

section Samples
open Attempts ReceiptedReturns DrawerCash ApprovalDecisions

def actionName (action : SupervisedAction) : String :=
  match action with
  | .blindReturn => "blind_return"
  | .paidIn => "paid_in"
  | .paidOut => "paid_out"
  | .closeTill => "till_close"

/-- 200.00 are paid out on that approval. -/
def paysOut (key : Uuid) (freshId : Nat) : List (Event (ApprovalChoice ProviderAnswer) ApprovalTask) :=
  .start (.command (tillCommand key (.paidOut ⟨502, 20000, "float", some 300⟩))) :: deskSteps 6 freshId

def paidOutOnce : List (Event (ApprovalChoice ProviderAnswer) ApprovalTask) :=
  approvedFor "paid_out" ++ paysOut 100 500

def paidOutTwice : List (Event (ApprovalChoice ProviderAnswer) ApprovalTask) :=
  approvedFor "blind_return" ++ paysOut 100 500 ++ paysOut 101 600

theorem approved_pay_out_authorized :
    let after := ((desk shop byBits contractual).run (Pool.quiet freshDesk) paidOutOnce).world
    after.uses.map Use.approval = [some 300] ∧ Approved after ∧ Single actionName after := by
  have law := one_decision_one_action shop byBits contractual actionName paidOutOnce freshDesk_kept rfl
  have used : ((desk shop byBits contractual).run (Pool.quiet freshDesk) paidOutOnce).world.uses.map Use.approval =
      [some 300] := by decide +kernel
  exact ⟨used, law.1, law.2 (by decide +kernel)⟩

/-- An approval that was granted for a blind return lets money be paid out, and twice. -/
theorem approval_is_never_spent :
    (¬∀ (world : ApprovalWorld RemotePayments) (events : List (Event (ApprovalChoice ProviderAnswer) ApprovalTask)),
      Kept shop world → world.uses = [] →
        (((desk shop byBits contractual).run (Pool.quiet world) events).world.uses.filterMap Use.approval).Nodup) ∧
    ¬∀ (world : ApprovalWorld RemotePayments) (events : List (Event (ApprovalChoice ProviderAnswer) ApprovalTask)),
      Kept shop world → world.uses = [] →
        let after := ((desk shop byBits contractual).run (Pool.quiet world) events).world
        ∀ use ∈ after.uses, ∀ row ∈ after.approvals, use.approval = some row.id → row.action = actionName use.action := by
  constructor
  · intro all
    have once := all freshDesk paidOutTwice freshDesk_kept rfl
    revert once
    decide +kernel
  · intro all
    have fits := all freshDesk paidOutTwice freshDesk_kept rfl
    revert fits
    decide +kernel

end Samples
end ApexEdge.Proofs.SupervisedUses
