import ApexEdge.Hub.ApprovalDesk
import ApexEdge.Proofs.ShiftConduct

/-! What the programs of the desk have learnt when they decide an approval or carry a
supervised action out. -/

namespace ApexEdge.Proofs.ApprovalConduct
open Library Payment Domain Storage Contracts Hub
open ApprovalDesk ShiftConduct
open Discipline (follows_ask follows_free follows_andThen follows_orThrow follows_mapError)

/-- It executes a command of the store that is there for the action. -/
def Runs (app : AppState) (memory : Memory) (action : SupervisedAction) : Prop :=
  ∃ task, memory.command = some task ∧ supervisedBy task = some action ∧ storeOf task = app.storeId

/-- It has read the approval, and it was somebody else who had asked for it. -/
def Decides (memory : Memory) (id : Uuid) (approverId : Option String) : Prop :=
  ∃ actor record, approverId = some actor ∧ (id, record) ∈ memory.reads ∧ record.requestedBy ≠ some actor

/-- It has read the approval, and it was open at the time. -/
def InTime (memory : Memory) (id : Uuid) (now : Timestamp) : Prop :=
  ∃ record, (id, record) ∈ memory.reads ∧ now ≤ record.expiresAt

def AllowedCommand (app : AppState) (memory : Memory) (request : ShiftRequest) : Prop :=
  ∀ action, supervised request = some action → memory.granted.isSome ∧ Runs app memory action

def Allowed (app : AppState) (memory : Memory) (call : DeskCall) : Prop :=
  match call with
  | .command request => AllowedCommand app memory request
  | .approval (.insertApproval _ new _) => new.storeId = app.storeId
  | .approval (.grantPending id approverId _ now) => Decides memory id approverId ∧ InTime memory id now
  | .approval (.denyPending id approverId _ _) => Decides memory id approverId
  | .approval _ => True

def deskDiscipline (app : AppState) : Discipline DeskCall DeskCall.Reply Memory := ⟨learn, Allowed app, fun _ => True⟩

def commandDiscipline (app : AppState) : Discipline ShiftRequest ShiftRequest.Reply Memory :=
  ⟨fun memory request reply => learn memory (.command request) reply, AllowedCommand app, fun _ => True⟩

def counterDiscipline (app : AppState) : Discipline CounterRequest CounterRequest.Reply Memory :=
  ⟨fun memory request reply => learn memory (.command (.counter request)) reply,
    fun memory request => AllowedCommand app memory (.counter request), fun _ => True⟩

theorem supervised_of_carriedOut {request : ShiftRequest} {reply : request.Reply} {action : SupervisedAction}
    (done : carriedOut request reply = some action) : supervised request = some action := by
  unfold carriedOut at done
  split at done
  case h_4 => cases done
  all_goals
    split at done
    · exact done
    · cases done

theorem sought_of_shown {request : ShiftRequest} {reply : request.Reply} {id : Uuid}
    (told : shown request reply = some id) : sought request = some id := by
  unfold shown at told
  split at told
  · split at told
    · exact told
    · cases told
  · cases told

theorem plain_supervises {request : ShiftRequest} (plain : Plain request) : supervised request = none := by
  rcases request with ⟨_, _, _, call⟩ | ⟨_, _, call⟩
  · cases call <;> first | rfl | exact plain.elim
  · cases call <;> first | rfl | exact plain.elim

theorem plain_seeks {request : ShiftRequest} (plain : Plain request) : sought request = none := by
  rcases request with ⟨_, _, _, call⟩ | ⟨_, _, call⟩
  · cases call <;> first | rfl | exact plain.elim
  · rfl

/-- A statement that neither looks an approval up nor carries a supervised action out. -/
theorem free_of_neither {app : AppState} {request : ShiftRequest} (unsupervised : supervised request = none)
    (seeks : sought request = none) : (commandDiscipline app).Free request where
  allowed := by
    intro memory action impossible
    rw [unsupervised] at impossible
    cases impossible
  kept := by
    intro memory reply
    have untold : shown request reply = none := by
      cases told : shown request reply with
      | none => rfl
      | some id => exact absurd (seeks.symm.trans (sought_of_shown told)) (by simp)
    have undone : carriedOut request reply = none := by
      cases done : carriedOut request reply with
      | none => rfl
      | some action => exact absurd (unsupervised.symm.trans (supervised_of_carriedOut done)) (by simp)
    simp only [commandDiscipline, learn, untold, undone, Option.isSome_none, Bool.false_eq_true, if_false]

theorem plain_free {app : AppState} {request : ShiftRequest} (plain : Plain request) :
    (commandDiscipline app).Free request := free_of_neither (plain_supervises plain) (plain_seeks plain)

theorem plainHere_free {app : AppState} {request : CounterRequest} (plain : PlainHere request) :
    (counterDiscipline app).Free request :=
  have free : (commandDiscipline app).Free (.counter request) := plain_free plain
  ⟨free.allowed, free.kept⟩

section Commands
variable {app : AppState} {memory : Memory} {header : CommandHeader}

section Counter

private theorem callFree {ε : Type} {frame : Frame} {call : CounterCall} {post : Memory → Except ε call.Reply → Prop}
    (plain : ∀ adding restocks, PlainHere ⟨frame, adding, restocks, call⟩) (rest : ∀ reply, post memory (.ok reply)) :
    (counterDiscipline app).Follows post memory (counterReply frame call : CounterAction ε call.Reply) :=
  follows_free (plainHere_free (plain _ _)) rest

/-- A return without an order goes on with a granted approval only. -/
theorem ensureApproved_follows (p : StartReturnPayload) (runs : Runs app memory .blindReturn) :
    (counterDiscipline app).Follows (fun later result => ∀ value : Unit, result = .ok value →
      (p.originalOrderId.isNone → later.granted.isSome) ∧ Runs app later .blindReturn) memory
      (ensureApproved header p) := by
  unfold ensureApproved
  split
  next ordered =>
    intro _ _
    exact ⟨fun none => by simp [ordered] at none, runs⟩
  next => exact fun _ impossible => by cases impossible
  next =>
    refine follows_andThen (follows_ask (fun _ impossible => by cases impossible) fun reply => ?_)
    rcases reply with error | none | state
    · exact fun _ impossible => by cases impossible
    · exact fun _ impossible => by cases impossible
    · cases state
      case granted => exact fun _ _ => ⟨fun _ => rfl, runs⟩
      all_goals exact fun _ impossible => by cases impossible

theorem insertReturn_allowed {frame : Frame} (new : NewReturn)
    (approved : new.originalOrderId.isNone → memory.granted.isSome) (runs : Runs app memory .blindReturn) :
    AllowedCommand app memory (.counter ⟨frame, none, [], .insertReturn new⟩) := by
  intro action asked
  unfold supervised at asked
  dsimp only at asked
  split at asked
  next blind =>
    cases asked
    exact ⟨approved blind, runs⟩
  next => cases asked

theorem startReturn_follows (p : StartReturnPayload) (runs : Runs app memory .blindReturn) :
    (counterDiscipline app).Follows (fun _ _ => True) memory (startReturn header p) := by
  refine follows_andThen ((ensureApproved_follows p runs).mono fun later result approved => ?_)
  rcases result with errors | _
  · trivial
  obtain ⟨granted, runs⟩ := approved _ rfl
  have inserts (returnId : Uuid) : (counterDiscipline app).Follows (fun _ _ => True) later
      (do
        (counterReply (counterFrame header) (.insertReturn (newReturn header returnId p))).orThrow fun error =>
          posError "RETURN_INSERT_FAILED" error.toString
        return .returned (← loadReturn header returnId) : CounterAction (List PosError) Payload) := by
    apply follows_andThen
    apply follows_orThrow
    refine follows_ask (insertReturn_allowed (newReturn header returnId p) granted runs) fun reply => ?_
    rcases reply with error | _
    · trivial
    · apply follows_andThen
      refine .of_asks ((loadReturn_asks returnId).mono fun _ => plainHere_free) fun result => ?_
      cases result <;> trivial
  unfold chooseReturnId
  cases p.returnId with
  | some id => exact inserts id
  | none => exact follows_andThen (callFree (fun _ _ => trivial) fun id => inserts id)

/-- Every command on a return: starting one is the only one that may need an approval. -/
theorem executeReturnCommand_follows (command : ReturnCommand)
    (runs : (∃ p, command = .startReturn p) → Runs app memory .blindReturn) :
    (counterDiscipline app).Follows (fun _ _ => True) memory (executeReturnCommand app header command) := by
  have plain {program : CounterAction (List PosError) Payload} (asks : Program.Asks PlainHere program) :
      (counterDiscipline app).Follows (fun _ _ => True) memory program :=
    .of_asks (asks.mono fun _ => plainHere_free) fun _ => trivial
  cases command with
  | startReturn p => exact startReturn_follows p (runs ⟨p, rfl⟩)
  | returnLineItem p => exact plain (returnLineItem_asks p)
  | refundTender p => exact plain (atCounter_asks (refundTender_asks ..))
  | finalizeReturn id => exact plain (finalizeReturn_asks id)
  | voidReturn id => exact plain (voidReturn_asks id)

theorem returnTask_follows (task : ReturnTask) (command : memory.command = some (.returns task)) :
    (counterDiscipline app).Follows (fun _ _ => True) memory (task.program app) := by
  have free (call : Call) (orderly : Orderly call) : (counterDiscipline app).Free
      (.ofHub ⟨counterFrame task.header, call⟩) := plainHere_free orderly
  have executes (store : task.header.storeId = app.storeId) : (counterDiscipline app).Follows (fun _ _ => True) memory
      (Program.bind (executeReturnCommand app task.header task.command) task.answered) := by
    apply Discipline.Follows.bind
    refine (executeReturnCommand_follows task.command fun starts => ?_).mono fun later result _ => ?_
    · obtain ⟨p, starts⟩ := starts
      exact ⟨_, command, by simp only [supervisedBy, starts], store⟩
    · rcases result with errors | payload
      · trivial
      · exact ⟨(free (.setResponse _ _) trivial).allowed _, fun _ => trivial⟩
  obtain ⟨error, refused⟩ | ⟨store, next, runs, goesOn⟩ := task.program_cases app
  · rw [refused]
    trivial
  · rw [runs]
    refine ⟨(free (.getResponse _) trivial).allowed _, fun stored => ?_⟩
    rw [(free (.getResponse _) trivial).kept]
    obtain ⟨replayed, replays⟩ | went := goesOn stored
    · rw [replays]
      trivial
    · rw [went]
      exact executes store

end Counter

section Till

private theorem deskFree {call : CounterCall} {post : Memory → Except TillRefusal call.Reply → Prop}
    (plain : PlainHere ⟨counterFrame header, none, [], call⟩) (rest : ∀ reply, post memory (.ok reply)) :
    (commandDiscipline app).Follows post memory (deskReply header call) := follows_free (plain_free plain) rest

/-- Above the threshold a command goes on with a granted approval only. -/
theorem ensureWithin_follows {action : SupervisedAction} (amount : Nat) (approvalId : Option Uuid) (message : String)
    (runs : Runs app memory action) :
    (commandDiscipline app).Follows (fun later result => ∀ value : Unit, result = .ok value →
      (cashMovementApprovalThresholdCents < amount → later.granted.isSome) ∧ Runs app later action) memory
      (ensureWithin header amount approvalId message) := by
  unfold ensureWithin
  split
  next within => exact fun _ _ => ⟨fun above => absurd within (Nat.not_le.mpr above), runs⟩
  next =>
    cases approvalId with
    | none => exact fun _ impossible => by cases impossible
    | some id =>
      apply follows_andThen
      apply follows_andThen
      refine follows_ask (fun _ impossible => by cases impossible) fun reply => ?_
      rcases reply with error | none | state
      · exact fun _ impossible => by cases impossible
      · exact fun _ impossible => by cases impossible
      · cases state
        case granted => exact fun _ _ => ⟨fun _ => rfl, runs⟩
        all_goals exact fun _ impossible => by cases impossible

/-- Within the threshold nothing is looked up. -/
theorem ensureWithin_within {amount : Nat} {approvalId : Option Uuid} {message : String}
    {post : Memory → Except TillRefusal Unit → Prop} (within : amount ≤ cashMovementApprovalThresholdCents)
    (rest : post memory (.ok ())) :
    (commandDiscipline app).Follows post memory (ensureWithin header amount approvalId message) := by
  unfold ensureWithin
  rw [if_pos within]
  exact rest

-- No proof below compares amounts with the threshold.
attribute [local irreducible] ensureWithin

/-- The movement itself, after the check. -/
theorem moves_follows (new : Uuid → NewShiftMovement) (shows : Uuid → TillPayload)
    (allowed : ∀ id, AllowedCommand app memory (.till header.idempotencyKey none (.insertShiftMovement (new id)))) :
    (commandDiscipline app).Follows (fun _ _ => True) memory (do
      let movementId ← deskReply header (.hub .newId)
      (shiftReply header (.insertShiftMovement (new movementId))).orThrow fun error =>
        tillError "CASH_MOVEMENT_FAILED" error.toString
      return shows movementId : ShiftAction TillPayload) := by
  apply follows_andThen
  refine deskFree trivial fun id => ?_
  apply follows_andThen
  apply follows_orThrow
  refine follows_ask (allowed id) fun reply => ?_
  rcases reply with error | _ <;> trivial

theorem recordCashMovement_follows (shiftId : Uuid) (kind : CashMovementKind) (amountCents : Nat)
    (reason : Option String) (approvalId : Option Uuid) {action : SupervisedAction}
    (kinds : movementAction kind = some action) (runs : Runs app memory action) :
    (commandDiscipline app).Follows (fun _ _ => True) memory
      (recordCashMovement header shiftId kind amountCents reason approvalId) := by
  refine follows_andThen ((ensureWithin_follows amountCents approvalId _ runs).mono fun later result checked => ?_)
  rcases result with refusal | _
  · trivial
  obtain ⟨granted, runs⟩ := checked _ rfl
  refine moves_follows _ _ fun id other asked => ?_
  unfold supervised at asked
  dsimp only at asked
  split at asked
  · cases asked
  next above =>
    cases kinds.symm.trans asked
    exact ⟨granted (Nat.not_le.mp above), runs⟩

theorem noSale_follows (p : NoSalePayload) :
    (commandDiscipline app).Follows (fun _ _ => True) memory (noSale header p) := by
  apply follows_andThen
  refine ensureWithin_within (Nat.zero_le _) ?_
  refine moves_follows _ _ fun id other asked => ?_
  unfold supervised at asked
  dsimp only at asked
  rw [if_pos (Nat.zero_le _)] at asked
  cases asked

theorem closeReading_follows (reading : TillReading) (p : CloseTillPayload) (runs : Runs app memory .closeTill) :
    (commandDiscipline app).Follows (fun _ _ => True) memory (closeReading header reading p) := by
  unfold closeReading
  generalize reading.written p.countedCents = written
  refine follows_andThen ((ensureWithin_follows _ p.approvalId _ runs).mono fun later result checked => ?_)
  rcases result with refusal | _
  · trivial
  obtain ⟨granted, runs⟩ := checked _ rfl
  apply follows_andThen
  refine deskFree trivial fun now => ?_
  apply follows_andThen
  refine deskFree trivial fun submissionId => ?_
  apply follows_andThen
  apply follows_orThrow
  refine follows_ask (fun other asked => ?_) fun reply => by rcases reply with error | _ <;> trivial
  unfold supervised at asked
  dsimp only at asked
  split at asked
  · cases asked
  next above =>
    cases asked
    exact ⟨granted (Nat.not_le.mp above), runs⟩

theorem closeTill_follows (p : CloseTillPayload) (runs : Runs app memory .closeTill) :
    (commandDiscipline app).Follows (fun _ _ => True) memory (closeTill header p) := by
  apply follows_andThen
  refine .of_asks ((loadShift_asks _).mono fun _ => plain_free) fun result => ?_
  rcases result with refusal | shift
  · trivial
  dsimp only
  split
  · trivial
  · apply follows_andThen
    refine .of_asks ((movementsAndExpected_asks _).mono fun _ => plain_free) fun result => ?_
    rcases result with refusal | figures
    · trivial
    · exact closeReading_follows _ p runs

theorem executeShiftCommand_follows (command : ShiftCommand)
    (runs : ∀ action, supervisedBy (.till ⟨none, header, command⟩) = some action → Runs app memory action) :
    (commandDiscipline app).Follows (fun _ _ => True) memory (executeShiftCommand header command) := by
  have plain {program : ShiftAction TillPayload} (asks : Program.Asks Plain program) :
      (commandDiscipline app).Follows (fun _ _ => True) memory program :=
    .of_asks (asks.mono fun _ => plain_free) fun _ => trivial
  cases command with
  | openTill p => exact plain (openTill_asks p)
  | paidIn p => exact recordCashMovement_follows _ _ _ _ _ rfl (runs .paidIn rfl)
  | paidOut p => exact recordCashMovement_follows _ _ _ _ _ rfl (runs .paidOut rfl)
  | noSale p => exact noSale_follows p
  | cashCount p => exact plain (cashCount_asks p)
  | getXReport shiftId => exact plain (getXReport_asks shiftId)
  | closeTill p => exact closeTill_follows p (runs .closeTill rfl)

theorem shiftTask_follows (task : ShiftTask) (command : memory.command = some (.till task)) :
    (commandDiscipline app).Follows (fun _ _ => True) memory (task.program app) := by
  have free (call : Call) (orderly : Orderly call) : (commandDiscipline app).Free
      (.counter (.ofHub ⟨counterFrame task.header, call⟩)) := plain_free orderly
  have executes (store : task.header.storeId = app.storeId) : (commandDiscipline app).Follows (fun _ _ => True) memory
      (Program.bind (executeShiftCommand task.header task.command) task.answered) := by
    apply Discipline.Follows.bind
    refine (executeShiftCommand_follows task.command fun action there => ?_).mono fun later result _ => ?_
    · exact ⟨_, command, there, store⟩
    · rcases result with refusal | payload
      · trivial
      · exact ⟨(free (.setResponse _ _) trivial).allowed _, fun _ => trivial⟩
  obtain ⟨error, refused⟩ | ⟨store, next, runs, goesOn⟩ := task.program_cases app
  · rw [refused]
    trivial
  · rw [runs]
    refine ⟨(free (.getResponse _) trivial).allowed _, fun stored => ?_⟩
    rw [(free (.getResponse _) trivial).kept]
    obtain ⟨replayed, replays⟩ | went := goesOn stored
    · rw [replays]
      trivial
    · rw [went]
      exact executes store

end Till

/-- Every command of the desk. -/
theorem deskTask_follows (task : DeskTask) (command : memory.command = some task) :
    (commandDiscipline app).Follows (fun _ _ => True) memory (task.program app) := by
  have through {α : Type} {program : CounterProgram α}
      (follows : (counterDiscipline app).Follows (fun _ _ => True) memory program) :
      (commandDiscipline app).Follows (fun _ _ => True) memory (atShiftDesk program) :=
    follows.embed (fun _ _ allowed => allowed) fun _ _ _ => rfl
  cases task with
  | pos boundRegister envelope =>
    have plain := atCounter_asks (handlePosCommand_asks app boundRegister envelope)
    apply Discipline.Follows.bind
    exact (through (.of_asks (plain.mono fun _ => plainHere_free) fun _ => trivial)).mono fun _ _ _ => trivial
  | returns task =>
    apply Discipline.Follows.bind
    exact (through (returnTask_follows task command)).mono fun _ _ _ => trivial
  | till task => exact shiftTask_follows task command

end Commands

section Handlers
variable {app : AppState} {memory : Memory} {id : Uuid}

theorem Decides.learns {approverId : Option String} (decides : Decides memory id approverId) (read : Uuid × ApprovalRecord) :
    Decides { memory with reads := memory.reads ++ [read] } id approverId := by
  obtain ⟨actor, record, named, member, other⟩ := decides
  exact ⟨actor, record, named, List.mem_append_left _ member, other⟩

/-- A handler that has read an approval goes on with one more row in its memory. -/
theorem fetchApproval_follows {post : Memory → Except PoolError (Option ApprovalRecord) → Prop}
    (failed : ∀ error, post memory (.error error)) (missed : post memory (.ok none))
    (found : ∀ record, post { memory with reads := memory.reads ++ [(id, record)] } (.ok (some record))) :
    (deskDiscipline app).Follows post memory (fetchApproval id) := by
  apply follows_orThrow
  refine follows_ask trivial fun reply => ?_
  rcases reply with error | none | record
  · exact failed error
  · exact missed
  · exact found record

theorem refetch_follows {existing : ApprovalRecord} :
    (deskDiscipline app).Follows (fun _ _ => True) memory (do
      return (← fetchApproval id).getD existing : ApprovalAction PoolError ApprovalRecord) := by
  apply follows_andThen
  apply fetchApproval_follows <;> intros <;> trivial

theorem requestApproval_follows (new : NewApproval) (here : new.storeId = app.storeId) :
    (deskDiscipline app).Follows (fun _ _ => True) memory (requestApproval new) := by
  apply follows_andThen
  refine follows_ask trivial fun id => ?_
  apply follows_andThen
  refine follows_ask trivial fun now => ?_
  apply follows_andThen
  apply follows_orThrow
  refine follows_ask here fun reply => ?_
  rcases reply with error | _
  · trivial
  · apply follows_andThen
    apply fetchApproval_follows <;> intros <;> trivial

theorem grantApproval_follows {approverId reason : Option String} (decides : Decides memory id approverId) :
    (deskDiscipline app).Follows (fun _ _ => True) memory (grantApproval id approverId reason) := by
  apply follows_andThen
  refine follows_ask trivial fun now => ?_
  apply follows_andThen
  refine fetchApproval_follows (fun _ => trivial) trivial fun existing => ?_
  dsimp only
  split
  · trivial
  · split
    · apply follows_andThen
      apply follows_orThrow
      refine follows_ask trivial fun reply => ?_
      rcases reply with error | _
      · trivial
      · exact refetch_follows
    next open_then =>
      have timely : InTime { memory with reads := memory.reads ++ [(id, existing)] } id now :=
        ⟨existing, List.mem_append_right _ (List.mem_singleton_self _), Nat.not_lt.mp open_then⟩
      apply follows_andThen
      apply follows_orThrow
      refine follows_ask ⟨decides.learns _, timely⟩ fun reply => ?_
      rcases reply with error | _
      · trivial
      · exact refetch_follows

theorem denyApproval_follows {approverId reason : Option String} (decides : Decides memory id approverId) :
    (deskDiscipline app).Follows (fun _ _ => True) memory (denyApproval id approverId reason) := by
  apply follows_andThen
  refine follows_ask trivial fun now => ?_
  apply follows_andThen
  apply follows_orThrow
  refine follows_ask decides fun reply => ?_
  rcases reply with error | _
  · trivial
  · apply follows_andThen
    apply fetchApproval_follows <;> intros <;> trivial

theorem createApproval_follows (principal : Option AuthPrincipal) (payload : RequestApprovalPayload) :
    (deskDiscipline app).Follows (fun _ _ => True) memory (createApproval app principal payload) := by
  cases principal with
  | none => trivial
  | some actor =>
    unfold createApproval
    dsimp only
    split
    · trivial
    next here =>
      have store : payload.storeId = app.storeId := not_not.mp (not_or.mp (not_or.mp here).2).1
      apply follows_andThen
      apply follows_mapError
      refine (requestApproval_follows _ store).mono fun _ result _ => ?_
      cases result <;> trivial

theorem loadApproval_follows {post : Memory → Except ApprovalRefusal ApprovalRecord → Prop}
    (refused : ∀ refusal, post memory (.error refusal))
    (found : ∀ record, post { memory with reads := memory.reads ++ [(id, record)] } (.ok record)) :
    (deskDiscipline app).Follows post memory (loadApproval id) := by
  apply follows_andThen
  refine follows_ask trivial fun reply => ?_
  rcases reply with error | none | record
  · exact refused _
  · exact refused _
  · exact found record

/-- Whoever decides is not the one who asked, as the approval was read. -/
theorem decisionActor_follows {principal : Option AuthPrincipal} {approval : ApprovalRecord}
    (read : (id, approval) ∈ memory.reads) :
    (deskDiscipline app).Follows (fun later result => ∀ actor : String, result = .ok actor → Decides later id (some actor))
      memory (decisionActor app principal approval) := by
  cases principal with
  | none => exact fun _ impossible => by cases impossible
  | some principal =>
    unfold decisionActor
    dsimp only
    split
    · exact fun _ impossible => by cases impossible
    · apply follows_andThen
      refine follows_ask trivial fun reply => ?_
      rcases reply with error | permitted
      · exact fun _ impossible => by cases impossible
      · dsimp only
        split
        · exact fun _ impossible => by cases impossible
        next allowed =>
          rintro actor ⟨⟩
          exact ⟨_, approval, rfl, read, (not_or.mp allowed).2⟩

theorem decisionHandler_follows {principal : Option AuthPrincipal} {payload : DecideApprovalPayload}
    {transition : Uuid → Option String → Option String → ApprovalAction PoolError ApprovalRecord}
    (decides : ∀ memory approverId reason, Decides memory id approverId →
      (deskDiscipline app).Follows (fun _ _ => True) memory (transition id approverId reason)) :
    (deskDiscipline app).Follows (fun _ _ => True) memory (decisionHandler app principal transition id payload) := by
  apply follows_andThen
  refine loadApproval_follows (fun _ => trivial) fun existing => ?_
  dsimp only
  split
  · trivial
  · refine follows_andThen ((decisionActor_follows (List.mem_append_right _ (List.mem_singleton_self _))).mono ?_)
    intro later result actor
    rcases result with refusal | name
    · trivial
    · apply follows_andThen
      apply follows_mapError
      refine (decides later _ _ (actor name rfl)).mono fun _ result _ => ?_
      cases result <;> trivial

theorem expirePendingApprovals_follows :
    (deskDiscipline app).Follows (fun _ _ => True) memory expirePendingApprovals := by
  apply follows_andThen
  refine follows_ask trivial fun now => ?_
  apply follows_orThrow
  refine follows_ask trivial fun reply => ?_
  rcases reply with error | _ <;> trivial

/-- Whatever a program of the desk asks for, it has learnt what lets it. -/
theorem approvalTask_follows (app : AppState) (task : ApprovalTask) :
    (deskDiscipline app).Follows (fun _ _ => True) task.memory (task.handler app) := by
  have ends {β : Type} {memory : Memory} {program : Program DeskCall DeskCall.Reply β} {wrap : β → ApprovalOutcome}
      (follows : (deskDiscipline app).Follows (fun _ _ => True) memory program) :
      (deskDiscipline app).Follows (fun _ _ => True) memory (Program.bind program fun answer => .pure (wrap answer)) :=
    Discipline.Follows.bind (follows.mono fun _ _ _ => trivial)
  cases task with
  | command task =>
    have follows : (commandDiscipline app).Follows (fun _ _ => True) ⟨some task, none, []⟩ (task.program app) :=
      deskTask_follows task rfl
    have embedded : (deskDiscipline app).Follows (fun _ _ => True) ⟨some task, none, []⟩
        ((task.program app).embed DeskCall.command fun _ reply => reply) :=
      follows.embed (fun _ _ allowed => allowed) fun _ _ _ => rfl
    exact ends embedded
  | create principal payload => exact ends (createApproval_follows principal payload)
  | grant principal id payload => exact ends (decisionHandler_follows fun _ _ _ => grantApproval_follows)
  | deny principal id payload => exact ends (decisionHandler_follows fun _ _ _ => denyApproval_follows)
  | poll id =>
    have polls : (deskDiscipline app).Follows (fun _ _ => True) (ApprovalTask.poll id).memory (getApprovalHandler id) := by
      apply follows_andThen
      exact loadApproval_follows (fun _ => trivial) fun _ => trivial
    exact ends polls
  | expire => exact ends expirePendingApprovals_follows

theorem approvalTask_keeps (app : AppState) (task : ApprovalTask) : (deskDiscipline app).protocol.Keeps
    (fun request => request.1 = task.memory ∧ Allowed app request.1 request.2)
    (fun may _ => (deskDiscipline app).protocol.rests may) (task.program app) :=
  (approvalTask_follows app task).keeps fun _ => ⟨.approval .clock, trivial⟩

end Handlers
end ApexEdge.Proofs.ApprovalConduct
