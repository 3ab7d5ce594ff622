import ApexEdge.Proofs.ApprovalConduct
import ApexEdge.Proofs.DrawerCash

/-! What one statement does to the approvals, and what stays true of them and of those who
have read them, whatever is interleaved. What was asked for is never rewritten. -/

namespace ApexEdge.Proofs.ApprovalRows
open Library Payment Domain Storage Contracts Hub
open ApprovalDesk ApprovalConduct

/-- The UPDATE that a call is, if it is one. -/
def updateOf (call : ApprovalCall) : Option (Table.Update ApprovalRecord) :=
  match call with
  | .expireApproval id now => some (Approvals.expire id now)
  | .grantPending id approverId reason now => some (Approvals.grant id approverId reason now)
  | .denyPending id approverId reason now => some (Approvals.deny id approverId reason now)
  | .expirePending now => some (Approvals.expirePending now)
  | _ => none

theorem update_sameRequest {call : ApprovalCall} {update : Table.Update ApprovalRecord}
    (does : updateOf call = some update) (row : ApprovalRecord) : row.SameRequest (update.row row) := by
  have sets : ∀ row : ApprovalRecord, row.SameRequest (update.set row) := by
    intro row
    cases call <;> cases does <;> exact ⟨rfl, rfl, rfl, rfl, rfl⟩
  rcases update.row_cases row with ⟨_, same⟩ | ⟨_, same⟩
  · rw [same]
    exact sets row
  · rw [same]
    exact .refl row

/-- The rows that a call grants. -/
def grantedBy (call : ApprovalCall) (approvals : List ApprovalRecord) : List Uuid :=
  match call with
  | .grantPending id _ _ _ =>
    (approvals.filter fun row => row.id = id ∧ row.state = .pending).map ApprovalRecord.id
  | _ => []

section Steps
variable {Remote Answer : Type}

/-- What a statement does to the approvals. -/
inductive Written (call : DeskCall) (world after : ApprovalWorld Remote) : Prop where
  | kept (approvals : after.approvals = world.approvals) (granted : after.granted = world.granted)
  | inserted (id : Uuid) (new : NewApproval) (now : Timestamp) (asked : call = .approval (.insertApproval id new now))
      (unused : id ∉ world.approvals.map ApprovalRecord.id)
      (approvals : after.approvals = world.approvals ++ [new.record id now]) (granted : after.granted = world.granted)
  | updated (approval : ApprovalCall) (update : Table.Update ApprovalRecord) (asked : call = .approval approval)
      (does : updateOf approval = some update) (approvals : after.approvals = update.run world.approvals)
      (granted : after.granted = world.granted ++ grantedBy approval world.approvals)

variable (rank : Uuid → Nat) (providers : Providers Remote Answer)

theorem updates_cases (choice : ApprovalChoice Answer) (world : ApprovalWorld Remote)
    (update : Table.Update ApprovalRecord) :
    (writeApprovals choice world fun rows => .ok (update.run rows)).2 =
      match choice.desk.hub.storageFailure with
      | some _ => world
      | none => { world with approvals := update.run world.approvals } := by
  unfold writeApprovals
  cases choice.desk.hub.storageFailure <;> rfl

/-- What a handler of approvals leaves alone. -/
theorem performApproval_apart (choice : ApprovalChoice Answer) (world : ApprovalWorld Remote) (call : ApprovalCall) :
    (performApproval choice world call).2.uses = world.uses ∧ (performApproval choice world call).2.clock = world.clock := by
  have writes (world : ApprovalWorld Remote) (write : List ApprovalRecord → Except PoolError (List ApprovalRecord)) :
      (writeApprovals choice world write).2.uses = world.uses ∧
        (writeApprovals choice world write).2.clock = world.clock := by
    unfold writeApprovals
    split
    · exact ⟨rfl, rfl⟩
    · split <;> exact ⟨rfl, rfl⟩
  cases call
  case fetchApproval id =>
    unfold performApproval
    dsimp only
    split <;> exact ⟨rfl, rfl⟩
  all_goals first | exact ⟨rfl, rfl⟩ | exact writes _ _

theorem written (choice : ApprovalChoice Answer) (world : ApprovalWorld Remote) (request : ApprovalDeskRequest) :
    Written request.2 world (performDesk rank providers choice world request).2 := by
  obtain ⟨memory, request | call⟩ := request
  · exact .kept rfl rfl
  cases call
  case insertApproval id new now =>
    simp only [performDesk, performApproval, writeApprovals]
    cases choice.desk.hub.storageFailure with
    | some error => exact .kept rfl rfl
    | none =>
      by_cases taken : world.approvals.any (·.id = id) = true
      · simp only [Approvals.insert, taken, if_true]
        exact .kept rfl rfl
      · simp only [Approvals.insert, taken]
        refine .inserted id new now rfl ?_ rfl rfl
        intro member
        obtain ⟨row, present, same⟩ := List.mem_map.mp member
        exact taken (List.any_eq_true.mpr ⟨row, present, by simpa using same⟩)
  case fetchApproval id =>
    simp only [performDesk, performApproval]
    cases choice.desk.hub.storageFailure <;> exact .kept rfl rfl
  case expireApproval id now =>
    simp only [performDesk, performApproval, updates_cases]
    cases choice.desk.hub.storageFailure with
    | some error => exact .kept rfl rfl
    | none => exact .updated (.expireApproval id now) _ rfl rfl rfl (List.append_nil _).symm
  case grantPending id approverId reason now =>
    simp only [performDesk, performApproval, updates_cases, granting]
    cases choice.desk.hub.storageFailure with
    | some error => exact .kept rfl (List.append_nil _)
    | none => exact .updated (.grantPending id approverId reason now) _ rfl rfl rfl rfl
  case denyPending id approverId reason now =>
    simp only [performDesk, performApproval, updates_cases]
    cases choice.desk.hub.storageFailure with
    | some error => exact .kept rfl rfl
    | none => exact .updated (.denyPending id approverId reason now) _ rfl rfl rfl (List.append_nil _).symm
  case expirePending now =>
    simp only [performDesk, performApproval, updates_cases]
    cases choice.desk.hub.storageFailure with
    | some error => exact .kept rfl rfl
    | none => exact .updated (.expirePending now) _ rfl rfl rfl (List.append_nil _).symm
  all_goals exact .kept rfl rfl

/-- A row of an approval stays, with what was asked for. -/
theorem Written.remains {call : DeskCall} {world after : ApprovalWorld Remote} (written : Written call world after)
    {row : ApprovalRecord} (member : row ∈ world.approvals) : ∃ later ∈ after.approvals, row.SameRequest later := by
  cases written with
  | kept approvals _ => exact ⟨row, approvals ▸ member, .refl row⟩
  | inserted _ _ _ _ _ approvals _ => exact ⟨row, approvals ▸ List.mem_append_left _ member, .refl row⟩
  | updated _ update _ does approvals _ =>
    exact ⟨update.row row, approvals ▸ List.mem_map_of_mem member, update_sameRequest does row⟩

theorem Written.everGranted {call : DeskCall} {world after : ApprovalWorld Remote} (written : Written call world after)
    {id : Uuid} (member : id ∈ world.granted) : id ∈ after.granted := by
  cases written with
  | kept _ granted => exact granted ▸ member
  | inserted _ _ _ _ _ _ granted => exact granted ▸ member
  | updated _ _ _ _ _ granted => exact granted ▸ List.mem_append_left _ member

/-- Where a row of the approvals comes from. -/
theorem Written.from {call : DeskCall} {world after : ApprovalWorld Remote} (written : Written call world after)
    {row : ApprovalRecord} (member : row ∈ after.approvals) :
    (∃ old ∈ world.approvals, old.SameRequest row) ∨
      ∃ id new now, call = .approval (.insertApproval id new now) ∧ row = new.record id now := by
  cases written with
  | kept approvals _ => exact .inl ⟨row, approvals ▸ member, .refl row⟩
  | inserted id new now asked _ approvals _ =>
    rw [approvals] at member
    rcases List.mem_append.mp member with old | fresh
    · exact .inl ⟨row, old, .refl row⟩
    · exact .inr ⟨id, new, now, asked, List.mem_singleton.mp fresh⟩
  | updated _ update _ does approvals _ =>
    rw [approvals] at member
    obtain ⟨old, present, rfl⟩ := List.mem_map.mp member
    exact .inl ⟨old, present, update_sameRequest does old⟩

theorem Written.ids {call : DeskCall} {world after : ApprovalWorld Remote} (written : Written call world after)
    (once : (world.approvals.map ApprovalRecord.id).Nodup) : (after.approvals.map ApprovalRecord.id).Nodup := by
  cases written with
  | kept approvals _ => rwa [approvals]
  | inserted id new now _ unused approvals _ =>
    rw [approvals, List.map_append]
    refine List.nodup_append.mpr ⟨once, List.nodup_singleton _, ?_⟩
    rintro taken member other fresh rfl
    cases List.mem_singleton.mp fresh
    exact unused member
  | updated _ update _ does approvals _ =>
    have same : (update.run world.approvals).map ApprovalRecord.id = world.approvals.map ApprovalRecord.id := by
      simp only [Table.Update.run, List.map_map, Function.comp_def]
      exact List.map_congr_left fun row _ => (update_sameRequest does row).id
    rwa [approvals, same]

/-- A row that is granted was so before, or was pending and has just been granted. -/
theorem granted_row {call : ApprovalCall} {update : Table.Update ApprovalRecord} (does : updateOf call = some update)
    {old : ApprovalRecord} (granted : (update.row old).state = .granted) :
    old.state = .granted ∧ update.row old = old ∨ ∃ approverId reason now,
      call = .grantPending old.id approverId reason now ∧ old.state = .pending ∧ update.row old = { old with
        state := .granted, approverId := approverId, decisionReason := reason, decidedAt := some now } := by
  rcases update.row_cases old with ⟨selected, set⟩ | ⟨_, same⟩
  · rw [set] at granted
    cases call
    case grantPending id approverId reason now =>
      cases does
      obtain ⟨rfl, pending⟩ := of_decide_eq_true selected
      exact .inr ⟨approverId, reason, now, rfl, pending, set⟩
    all_goals cases does <;> cases granted
  · rw [same] at granted
    exact .inl ⟨granted, same⟩

end Steps

/-- One row for each approval, all of the hub's store, and a record of those ever granted. -/
structure Kept {Remote : Type} (app : AppState) (world : ApprovalWorld Remote) : Prop where
  once : (world.approvals.map ApprovalRecord.id).Nodup
  here : ∀ row ∈ world.approvals, row.storeId = app.storeId
  granted : ∀ row ∈ world.approvals, row.state = .granted → row.id ∈ world.granted

/-- What was read is still what was asked for. -/
def Recalls (approvals : List ApprovalRecord) (memory : Memory) : Prop :=
  ∀ read ∈ memory.reads, ∃ row ∈ approvals, row.id = read.1 ∧ read.2.SameRequest row

section Steps
variable {Remote Answer : Type} {app : AppState}

theorem Kept.written {call : DeskCall} {world after : ApprovalWorld Remote} {memory : Memory} (kept : Kept app world)
    (allowed : Allowed app memory call) (written : Written call world after) : Kept app after where
  once := written.ids kept.once
  here := by
    intro row member
    rcases written.from member with ⟨old, present, same⟩ | ⟨id, new, now, rfl, rfl⟩
    · rw [same.storeId]
      exact kept.here old present
    · exact allowed
  granted := by
    intro row member granted
    cases written with
    | kept approvals record =>
      rw [record]
      exact kept.granted row (approvals ▸ member) granted
    | inserted id new now _ _ approvals record =>
      rw [approvals] at member
      rcases List.mem_append.mp member with old | fresh
      · rw [record]
        exact kept.granted row old granted
      · cases List.mem_singleton.mp fresh
        cases granted
    | updated call update _ does approvals record =>
      rw [approvals] at member
      obtain ⟨old, present, rfl⟩ := List.mem_map.mp member
      rw [record, (update_sameRequest does old).id]
      rcases granted_row does granted with ⟨before, _⟩ | ⟨_, _, _, rfl, pending, _⟩
      · exact List.mem_append_left _ (kept.granted old present before)
      · have selected : old ∈ world.approvals.filter fun row => row.id = old.id ∧ row.state = .pending :=
          List.mem_filter.mpr ⟨present, by simp [pending]⟩
        exact List.mem_append_right _ (List.mem_map_of_mem selected)

theorem Recalls.row {approvals : List ApprovalRecord} {memory : Memory} (recalls : Recalls approvals memory)
    (once : (approvals.map ApprovalRecord.id).Nodup) {row record : ApprovalRecord} (read : (row.id, record) ∈ memory.reads)
    (present : row ∈ approvals) : record.SameRequest row := by
  obtain ⟨other, listed, same, request⟩ := recalls _ read
  exact List.inj_on_of_nodup_map once listed present same ▸ request

theorem Recalls.written {call : DeskCall} {world after : ApprovalWorld Remote} {memory : Memory}
    (recalls : Recalls world.approvals memory) (written : Written call world after) : Recalls after.approvals memory := by
  intro read member
  obtain ⟨row, present, id, same⟩ := recalls read member
  obtain ⟨later, remains, still⟩ := written.remains present
  refine ⟨later, remains, still.id.trans id, ?_⟩
  exact ⟨still.id.trans same.id, still.storeId.trans same.storeId, still.action.trans same.action,
    still.requestedBy.trans same.requestedBy, still.expiresAt.trans same.expiresAt⟩

theorem command_learn (memory : Memory) (call : DeskCall) (reply : call.Reply) :
    (learn memory call reply).command = memory.command := by
  unfold learn
  split
  · split
    · rfl
    · split <;> rfl
  · rfl
  · rfl

theorem reads_command (memory : Memory) (request : ShiftRequest) (reply : request.Reply) :
    (learn memory (.command request) reply).reads = memory.reads := by
  simp only [learn]
  split
  · rfl
  · split <;> rfl

variable (rank : Uuid → Nat) (providers : Providers Remote Answer)

theorem recalls_learn (choice : ApprovalChoice Answer) {world : ApprovalWorld Remote} {memory : Memory} (call : DeskCall)
    (recalls : Recalls world.approvals memory) :
    Recalls (performDesk rank providers choice world (memory, call)).2.approvals
      (learn memory call (performDesk rank providers choice world (memory, call)).1) := by
  have still := recalls.written (written rank providers choice world (memory, call))
  cases call with
  | command request =>
    intro read member
    rw [reads_command] at member
    exact still read member
  | approval call =>
    cases call
    case fetchApproval id =>
      simp only [performDesk, performApproval]
      cases choice.desk.hub.storageFailure with
      | some error => exact recalls
      | none =>
        dsimp only
        cases found : Approvals.fetch id world.approvals with
        | none => exact recalls
        | some record =>
          intro read member
          rcases List.mem_append.mp member with before | now
          · exact recalls read before
          · cases List.mem_singleton.mp now
            exact ⟨record, List.mem_of_find?_eq_some found, by simpa using List.find?_some found, .refl record⟩
    all_goals exact still

/-! ### Over whole runs -/

def opens (app : AppState) (task : ApprovalTask) (request : ApprovalDeskRequest) : Prop :=
  request.1 = task.memory ∧ Allowed app request.1 request.2

theorem conduct : Invariant (desk app rank providers) (deskDiscipline app).protocol .always (opens app)
    (fun _ pending => ∀ request ∈ pending, Allowed app request.1 request.2) where
  keeps := approvalTask_keeps app
  started _ _ task request _ opened all := by
    intro other member
    rcases Multiset.mem_cons.mp member with rfl | old
    · exact opened.2
    · exact all other old
  continued _ _ _ _ _ _ all next := by
    intro other member
    rcases Multiset.mem_cons.mp member with rfl | old
    · exact next.2
    · exact all other (Multiset.mem_cons_of_mem old)
  finished _ _ _ _ _ all _ := fun other member => all other (Multiset.mem_cons_of_mem member)
  dropped _ _ _ _ all := fun other member => all other (Multiset.mem_cons_of_mem member)

/-- The approvals are well kept, and whoever has read them can rely on what was read. -/
def Sound (app : AppState) (world : ApprovalWorld Remote) (pending : Multiset ApprovalDeskRequest) : Prop :=
  (∀ request ∈ pending, Allowed app request.1 request.2) ∧ Kept app world ∧
    ∀ request ∈ pending, Recalls world.approvals request.1

theorem quiet_all {fact : ApprovalDeskRequest → Prop} : ∀ request ∈ (0 : Multiset ApprovalDeskRequest), fact request :=
  fun _ impossible => absurd impossible (Multiset.notMem_zero _)

theorem sound_quiet {world : ApprovalWorld Remote} (kept : Kept app world) : Sound app world 0 :=
  ⟨quiet_all, kept, quiet_all⟩

theorem rows : Invariant (desk app rank providers) (deskDiscipline app).protocol .always (opens app) (Sound app) := by
  refine (conduct rank providers).extend ⟨?_, ?_, ?_⟩
  · rintro world others task request ⟨begins, _⟩ _ _ read member
    rw [begins] at member
    cases task <;> cases member
  · intro choice world others request _ allowed kept all
    have step := written rank providers choice world request
    refine ⟨kept.written (allowed request (Multiset.mem_cons_self _ _)) step, fun other member => ?_⟩
    exact (all other (Multiset.mem_cons_of_mem (Multiset.mem_coe.mpr member))).written step
  · intro choice world others request later _ _ _ all next _ _
    rw [next.1]
    exact recalls_learn rank providers choice request.2 (all request (Multiset.mem_cons_self _ _))

end Steps
end ApexEdge.Proofs.ApprovalRows

/-! An approval is decided once. Grants, denials and the sweep of the expired set rows that
are still pending; the expiry inside a grant sets whatever row has the id, some statements
after it was read. -/

namespace ApexEdge.Proofs.ApprovalDecisions
open Library Payment Domain Storage Contracts Hub
open ApprovalDesk ApprovalConduct ApprovalRows

/-- A decision is not made again. -/
structure SameDecision (row later : ApprovalRecord) : Prop where
  id : later.id = row.id
  state : later.state = row.state
  approverId : later.approverId = row.approverId
  decisionReason : later.decisionReason = row.decisionReason

/-- Nobody decides on a request of their own, and the time that a grant took was in time. -/
structure Rightly (row : ApprovalRecord) : Prop where
  others : row.state = .granted ∨ row.state = .denied → ∃ actor, row.approverId = some actor ∧ row.requestedBy ≠ some actor
  recorded : row.state = .granted → ∃ at_, row.decidedAt = some at_ ∧ at_ ≤ row.expiresAt

section Steps
variable {Remote Answer : Type}

/-- What is decided stays decided as it is. -/
def Stands (before after : ApprovalWorld Remote) : Prop :=
  ∀ row ∈ before.approvals, row.state ≠ .pending → ∃ later ∈ after.approvals, SameDecision row later

/-- What a statement has just granted had not expired. -/
def Timely (before after : ApprovalWorld Remote) : Prop :=
  ∀ row ∈ after.approvals, row.state = .granted →
    (∃ old ∈ before.approvals, old.id = row.id ∧ old.state = .granted) ∨ after.clock ≤ row.expiresAt

/-- The expiry inside a grant finds the row still pending, or expired; and a grant does not
come after the time that it looked at has passed. -/
def guarded : Condition ApprovalDeskRequest (ApprovalWorld Remote) (ApprovalChoice Answer) where
  step world _ request choice :=
    match request.2 with
    | .approval (.expireApproval id _) =>
      ∀ row ∈ world.approvals, row.id = id → row.state = .pending ∨ row.state = .expired
    | .approval (.grantPending id _ _ _) =>
      ∀ row ∈ world.approvals, row.id = id → row.state = .pending → choice.desk.hub.now ≤ row.expiresAt
    | _ => True
  drop _ _ _ := True

instance (world : ApprovalWorld Remote) (others : List ApprovalDeskRequest) (request : ApprovalDeskRequest)
    (choice : ApprovalChoice Answer) : Decidable (guarded.step world others request choice) := by
  obtain ⟨memory, request | call⟩ := request
  · exact isTrue trivial
  · cases call <;> unfold guarded <;> infer_instance

instance (world : ApprovalWorld Remote) (others : List ApprovalDeskRequest) (request : ApprovalDeskRequest) :
    Decidable ((guarded : Condition _ _ (ApprovalChoice Answer)).drop world others request) := isTrue trivial

theorem SameDecision.refl (row : ApprovalRecord) : SameDecision row row := ⟨rfl, rfl, rfl, rfl⟩

theorem stands_refl (world : ApprovalWorld Remote) : Stands world world := fun row member _ => ⟨row, member, .refl row⟩

theorem Stands.trans {first second third : ApprovalWorld Remote} (stands : Stands first second)
    (still : Stands second third) : Stands first third := by
  intro row member decided
  obtain ⟨next, present, same⟩ := stands row member decided
  obtain ⟨last, remains, after⟩ := still next present (same.state ▸ decided)
  exact ⟨last, remains, after.id.trans same.id, after.state.trans same.state, after.approverId.trans same.approverId,
    after.decisionReason.trans same.decisionReason⟩

variable (rank : Uuid → Nat) (providers : Providers Remote Answer)

theorem update_stands {call : ApprovalCall} {update : Table.Update ApprovalRecord} {world : ApprovalWorld Remote}
    {others : List ApprovalDeskRequest} {memory : Memory} {choice : ApprovalChoice Answer}
    (guards : guarded.step world others (memory, .approval call) choice) (does : updateOf call = some update)
    {row : ApprovalRecord} (member : row ∈ world.approvals) (decided : row.state ≠ .pending) :
    SameDecision row (update.row row) := by
  rcases update.row_cases row with ⟨selected, set⟩ | ⟨_, same⟩
  · rw [set]
    cases call
    case expireApproval id now =>
      cases does
      have expired := (guards row member (by simpa [Approvals.expire] using selected)).resolve_left decided
      exact ⟨rfl, expired.symm, rfl, rfl⟩
    case grantPending | denyPending =>
      cases does
      exact absurd (of_decide_eq_true selected).2 decided
    case expirePending =>
      cases does
      exact absurd (of_decide_eq_true selected).1 decided
    all_goals cases does
  · rw [same]
    exact .refl row

theorem step_stands {choice : ApprovalChoice Answer} {world : ApprovalWorld Remote} {others : List ApprovalDeskRequest}
    {request : ApprovalDeskRequest} (guards : guarded.step world others request choice) :
    Stands world (performDesk rank providers choice world request).2 := by
  obtain ⟨memory, call⟩ := request
  intro row member decided
  cases written rank providers choice world (memory, call) with
  | kept approvals _ => exact ⟨row, approvals ▸ member, .refl row⟩
  | inserted _ _ _ _ _ approvals _ => exact ⟨row, approvals ▸ List.mem_append_left _ member, .refl row⟩
  | updated approval update asked does approvals _ =>
    cases asked
    exact ⟨update.row row, approvals ▸ List.mem_map_of_mem member, update_stands guards does member decided⟩

theorem clock_after (choice : ApprovalChoice Answer) (world : ApprovalWorld Remote) (request : ApprovalDeskRequest) :
    (performDesk rank providers choice world request).2.clock = choice.desk.hub.now := by
  obtain ⟨memory, request | call⟩ := request
  · rfl
  · exact (performApproval_apart choice _ call).2

theorem step_timely {choice : ApprovalChoice Answer} {world : ApprovalWorld Remote} {others : List ApprovalDeskRequest}
    {request : ApprovalDeskRequest} (guards : guarded.step world others request choice) :
    Timely world (performDesk rank providers choice world request).2 := by
  obtain ⟨memory, call⟩ := request
  intro row member granted
  rw [clock_after]
  cases written rank providers choice world (memory, call) with
  | kept approvals _ => exact .inl ⟨row, approvals ▸ member, rfl, granted⟩
  | inserted id new now _ _ approvals _ =>
    rw [approvals] at member
    rcases List.mem_append.mp member with old | fresh
    · exact .inl ⟨row, old, rfl, granted⟩
    · cases List.mem_singleton.mp fresh
      cases granted
  | updated approval update asked does approvals _ =>
    subst asked
    rw [approvals] at member
    obtain ⟨old, present, rfl⟩ := List.mem_map.mp member
    have same := update_sameRequest does old
    rcases granted_row does granted with ⟨before, _⟩ | ⟨_, _, _, rfl, pending, _⟩
    · exact .inl ⟨old, present, same.id.symm, before⟩
    · refine .inr ?_
      rw [same.expiresAt]
      exact guards old present rfl pending

/-! ### By somebody else -/

/-- What a denial sets. -/
theorem denied_row {call : ApprovalCall} {update : Table.Update ApprovalRecord} (does : updateOf call = some update)
    {old : ApprovalRecord} (denied : (update.row old).state = .denied) :
    old.state = .denied ∧ update.row old = old ∨ ∃ approverId reason now,
      call = .denyPending old.id approverId reason now ∧ (update.row old).approverId = approverId := by
  rcases update.row_cases old with ⟨selected, set⟩ | ⟨_, same⟩
  · rw [set] at denied ⊢
    cases call
    case denyPending id approverId reason now =>
      cases does
      obtain ⟨rfl, _⟩ := of_decide_eq_true selected
      exact .inr ⟨approverId, reason, now, rfl, rfl⟩
    all_goals cases does <;> cases denied
  · rw [same] at denied
    exact .inl ⟨denied, same⟩

variable {app : AppState}

theorem rightly_row {memory : Memory} {world : ApprovalWorld Remote} {call : ApprovalCall}
    {update : Table.Update ApprovalRecord} (does : updateOf call = some update) (kept : Kept app world)
    (allowed : Allowed app memory (.approval call)) (recalls : Recalls world.approvals memory) {old : ApprovalRecord}
    (present : old ∈ world.approvals) (right : Rightly old) : Rightly (update.row old) where
  others := by
    have requested : (update.row old).requestedBy = old.requestedBy := (update_sameRequest does old).requestedBy
    rw [requested]
    rintro (granted | denied)
    · rcases granted_row does granted with ⟨before, same⟩ | ⟨approverId, reason, now, rfl, _, became⟩
      · rw [same]
        exact right.others (.inl before)
      · obtain ⟨⟨actor, record, named, read, other⟩, _⟩ := allowed
        rw [became, (recalls.row kept.once read present).requestedBy]
        exact ⟨actor, named, other⟩
    · rcases denied_row does denied with ⟨before, same⟩ | ⟨approverId, reason, now, rfl, became⟩
      · rw [same]
        exact right.others (.inr before)
      · obtain ⟨actor, record, named, read, other⟩ := allowed
        rw [became, (recalls.row kept.once read present).requestedBy]
        exact ⟨actor, named, other⟩
  recorded := by
    intro granted
    have expires : (update.row old).expiresAt = old.expiresAt := (update_sameRequest does old).expiresAt
    rw [expires]
    rcases granted_row does granted with ⟨before, same⟩ | ⟨approverId, reason, now, rfl, _, became⟩
    · rw [same]
      exact right.recorded before
    · obtain ⟨_, record, read, timely⟩ := allowed
      rw [became]
      exact ⟨now, rfl, (recalls.row kept.once read present).expiresAt ▸ timely⟩

theorem rightly_new (id : Uuid) (new : NewApproval) (now : Timestamp) : Rightly (new.record id now) where
  others := by rintro (impossible | impossible) <;> cases impossible
  recorded := by rintro ⟨⟩

theorem rightly : Invariant (desk app rank providers) (deskDiscipline app).protocol .always (opens app)
    (fun world pending => Sound app world pending ∧ (∀ row ∈ world.approvals, Rightly row) ∧
      ∀ request ∈ pending, True) := by
  refine (rows rank providers).extend ⟨fun _ _ _ _ _ _ _ => trivial, ?_, fun _ _ _ _ _ _ _ _ _ _ _ _ => trivial⟩
  intro choice world others request _ ⟨allowed, kept, recalls⟩ right _
  refine ⟨?_, fun _ _ => trivial⟩
  have first := Multiset.mem_cons_self request (others : Multiset ApprovalDeskRequest)
  have allows := allowed request first
  show ∀ row ∈ (performDesk rank providers choice world request).2.approvals, Rightly row
  intro row member
  cases written rank providers choice world request with
  | kept approvals _ => exact right row (approvals ▸ member)
  | inserted id new now _ _ approvals _ =>
    rw [approvals] at member
    rcases List.mem_append.mp member with old | fresh
    · exact right row old
    · cases List.mem_singleton.mp fresh
      exact rightly_new id new now
  | updated approval update asked does approvals _ =>
    rw [approvals] at member
    obtain ⟨old, present, rfl⟩ := List.mem_map.mp member
    rw [asked] at allows
    exact rightly_row does kept allows (recalls request first) present (right old present)

/-! ### Whole runs -/

/-- What an approval is decided once means for a run and the worlds on its way. -/
structure DecidedOnce {Step : Type} (reached : List Step → ApprovalWorld Remote) (events : List Step) : Prop where
  stands : ∀ past later, events = past ++ later → Stands (reached past) (reached events)
  timely : ∀ past event later, events = past ++ event :: later → Timely (reached past) (reached (past ++ [event]))
  rightly : ∀ row ∈ (reached events).approvals, Rightly row

/-- In every run in which the expiry inside a grant finds the approval undecided, and no grant
comes after the time that it had looked at, decisions stand, are made in time, and are made by
somebody else. -/
theorem decided_once (app : AppState) (rank : Uuid → Nat) (providers : Providers Remote Answer)
    {world : ApprovalWorld Remote} {events : List (Event (ApprovalChoice Answer) ApprovalTask)} (kept : Kept app world)
    (right : ∀ row ∈ world.approvals, Rightly row)
    (meets : guarded.RunMeets (desk app rank providers) (Pool.quiet world) events) :
    DecidedOnce (fun events => ((desk app rank providers).run (Pool.quiet world) events).world) events := by
  have invariant : Invariant (desk app rank providers) (deskDiscipline app).protocol guarded (opens app) _ :=
    (rightly rank providers).under (fun _ _ _ _ _ => trivial) fun _ _ _ _ => trivial
  have begins : Sound app world 0 ∧ (∀ row ∈ world.approvals, Rightly row) ∧ ∀ request ∈ (0 : Multiset ApprovalDeskRequest), True :=
    ⟨sound_quiet kept, right, quiet_all⟩
  refine ⟨?_, ?_, (invariant.reached begins meets).2.1⟩
  · rintro past later rfl
    exact invariant.every_run stands_refl (fun _ _ _ => Stands.trans)
      (fun _ _ _ _ guards _ => step_stands rank providers guards) later begins meets
  · rintro past event later rfl
    rw [List.append_cons] at meets
    exact invariant.every_step (fun _ row member granted => .inl ⟨row, member, rfl, granted⟩)
      (fun _ _ _ _ guards _ => step_timely rank providers guards) begins (Condition.runMeets_append meets).1

end Steps

section Samples
open Attempts ReceiptedReturns DrawerCash

def freshDesk : ApprovalWorld RemotePayments := ⟨freshTill, [], [], [], 0⟩

def signedIn (associateId : String) : Option AuthPrincipal := some ⟨7, associateId, 8, 1, none⟩

def deskChoice (now freshId : Nat) : ApprovalChoice ProviderAnswer := ⟨counterChoice now freshId, .ok true⟩

def deskSteps (count freshId : Nat) : List (Event (ApprovalChoice ProviderAnswer) ApprovalTask) :=
  (List.range count).map fun step => .step 0 (deskChoice step (freshId + step))

/-- Ann asks for an approval, which becomes the one with id 300, and Bob grants it. -/
def approvedFor (action : String) : List (Event (ApprovalChoice ProviderAnswer) ApprovalTask) :=
  .start (.create (signedIn "ann") ⟨1, none, action, "{}", none, none⟩) :: deskSteps 4 300 ++
    .start (.grant (signedIn "bob") 300 ⟨300, none, some "ok"⟩) :: deskSteps 6 400

theorem freshDesk_kept : Kept shop freshDesk :=
  ⟨List.nodup_nil, (fun _ impossible => nomatch impossible), fun _ impossible => nomatch impossible⟩

def deskAt (thread now : Nat) : Event (ApprovalChoice ProviderAnswer) ApprovalTask := .step thread (deskChoice now 500)

/-- Ann asks for an approval that is open until 10. -/
def asked : List (Event (ApprovalChoice ProviderAnswer) ApprovalTask) :=
  .start (.create (signedIn "ann") ⟨1, none, "paid_out", "{}", none, some 10⟩) ::
    (List.range 4).map fun step => .step 0 (deskChoice 0 (300 + step))

def decision : DecideApprovalPayload := ⟨300, none, some "checked"⟩

/-- Carol's grant finds the approval expired but undecided. Before she sets it expired, Bob denies it. -/
def deniedMeanwhile : List (Event (ApprovalChoice ProviderAnswer) ApprovalTask) :=
  asked ++ .start (.deny (signedIn "bob") 300 decision) :: (List.range 3).map (fun _ => deskAt 0 20) ++
    .start (.grant (signedIn "carol") 300 decision) :: (List.range 4).map (fun _ => deskAt 0 20) ++ [deskAt 1 21]
/-- Bob's grant looks at the time, and is carried out much later. -/
def grantedLate : List (Event (ApprovalChoice ProviderAnswer) ApprovalTask) :=
  asked ++ .start (.grant (signedIn "bob") 300 decision) :: (List.range 4).map (fun _ => deskAt 0 9)
def askedRow : ApprovalRecord := ⟨300, 1, none, "paid_out", some "ann", "{}", .pending, none, none, 0, none, 10⟩

def reachedBy (events : List (Event (ApprovalChoice ProviderAnswer) ApprovalTask)) : ApprovalWorld RemotePayments :=
  ((desk shop byBits contractual).run (Pool.quiet freshDesk) events).world

theorem approved_once :
    (reachedBy (approvedFor "paid_out")).approvals.map ApprovalRecord.state = [.granted] ∧
      DecidedOnce reachedBy (approvedFor "paid_out") := by
  have granted : (reachedBy (approvedFor "paid_out")).approvals.map ApprovalRecord.state = [.granted] := by decide +kernel
  exact ⟨granted, decided_once shop byBits contractual freshDesk_kept
    (fun _ impossible => nomatch impossible) (by decide +kernel)⟩

/-- A denial becomes an expiry, and a grant comes after its time. -/
theorem decisions_change :
    (¬∀ events past later, events = past ++ later → Stands (reachedBy past) (reachedBy events)) ∧
      ¬∀ past event, Timely (reachedBy past) (reachedBy (past ++ [event])) := by
  constructor
  · intro all
    have stands := all _ deniedMeanwhile [deskAt 1 22] rfl
    have before : (reachedBy deniedMeanwhile).approvals = [{ askedRow with
        state := .denied, approverId := some "bob", decisionReason := some "checked", decidedAt := some 20 }] := by
      decide +kernel
    have after : (reachedBy (deniedMeanwhile ++ [deskAt 1 22])).approvals.map ApprovalRecord.state = [.expired] := by
      decide +kernel
    obtain ⟨later, member, same⟩ := stands _ (by rw [before]; exact List.mem_singleton_self _) (by decide)
    have state := List.mem_map_of_mem member (f := ApprovalRecord.state)
    rw [after, List.mem_singleton, same.state] at state
    cases state
  · intro all
    have timely := all grantedLate (deskAt 0 22)
    have before : (reachedBy grantedLate).approvals = [askedRow] := by decide +kernel
    have after : (reachedBy (grantedLate ++ [deskAt 0 22])).approvals = [{ askedRow with
        state := .granted, approverId := some "bob", decisionReason := some "checked", decidedAt := some 9 }] := by
      decide +kernel
    have clock : (reachedBy (grantedLate ++ [deskAt 0 22])).clock = 22 := by decide +kernel
    unfold Timely at timely
    rw [before, after, clock] at timely
    revert timely
    decide

end Samples
end ApexEdge.Proofs.ApprovalDecisions
