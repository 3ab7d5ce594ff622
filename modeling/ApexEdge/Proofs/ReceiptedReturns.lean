import ApexEdge.Proofs.Attempts
import ApexEdge.Proofs.Entitlements

/-! Commands on returns under any rules: what they read of a return, and which of their
statements leave the returns alone. -/

namespace ApexEdge.Proofs.CounterRules
open Library Payment Domain Storage Contracts Hub

/-- Statements that touch no order, no line and no header. -/
def isBystander (call : Call) : Bool :=
  match call with
  | .setResponse .. => true
  | call => !call.writes

/-- The reads that a return is loaded with. -/
def isReturnRead (call : Call) : Bool :=
  match call with
  | .fetchReturn _ | .listReturnLines _ | .listRefunds _ => true
  | _ => false

theorem isBystander_of_read {call : Call} (reads : isReturnRead call = true) : isBystander call = true := by
  cases call <;> first | rfl | cases reads

section Steps
variable {Remote Answer : Type}

theorem bystander_db (providers : Providers Remote Answer) (frame : Frame) {call : Call} (stands : isBystander call = true) (hub : World Remote)
    (choice : Choice Answer) :
    (perform providers choice hub ⟨frame, call⟩).2.db.orders = hub.db.orders ∧
      (perform providers choice hub ⟨frame, call⟩).2.db.returns = hub.db.returns := by
  cases call
  case setResponse key response =>
    simp only [perform, update, transact]
    split <;> exact ⟨rfl, rfl⟩
  all_goals
    have same := perform_reads providers choice hub ⟨frame, _⟩ (by simpa [isBystander] using stands)
    rw [same]
    exact ⟨rfl, rfl⟩

end Steps

section Commands
variable {Setting Choice : Type} {rules : Rules CounterRequest CounterRequest.Reply Setting Choice} {app : AppState}
  {task : ReturnTask} {world : Setting}

/-- Responses are looked up before a command on a return is executed, and stored after it. -/
theorem returnTask_safe
    (execute : ∀ world, rules.Safe (fun _ _ => True) world (executeReturnCommand app task.header task.command))
    (looksUp : ∀ world key, rules.grants world (.ofHub ⟨counterFrame task.header, .getResponse key⟩))
    (stores : ∀ world key response, rules.grants world (.ofHub ⟨counterFrame task.header, .setResponse key response⟩)) :
    rules.Safe (fun _ _ => True) world (task.program app) := by
  have executes (later : Setting) : rules.Safe (fun _ _ => True) later
      (Program.bind (executeReturnCommand app task.header task.command) task.answered) := by
    apply Rules.Safe.bind
    apply (execute later).mono
    rintro after (errors | payload) _
    · trivial
    · exact fun last _ _ => ⟨stores .., fun _ _ _ => trivial⟩
  obtain ⟨error, refused⟩ | ⟨_, next, runs, goesOn⟩ := task.program_cases app
  · rw [refused]
    trivial
  · rw [runs]
    intro later _ _
    refine ⟨looksUp .., fun _ choice _ => ?_⟩
    obtain ⟨replayed, replays⟩ | went := goesOn (rules.perform choice later _).1
    · rw [replays]
      trivial
    · rw [went]
      exact executes _

end Commands

section Conduct
variable {protocol : Protocol CounterRequest CounterRequest.Reply} {free : (CounterRequest → Prop) → Prop}
  {may : CounterRequest → Prop} {app : AppState} {task : ReturnTask}

/-- Any program of the hub may come where a program is `free`, and leaves it so. -/
theorem atCounter_keeps (asks : ∀ may, free may → ∀ request, may (.ofHub request))
    (goesOn : ∀ request reply, free (protocol.follows (.ofHub request) reply)) {α : Type} (program : Command α)
    (lets : free may) : protocol.Keeps may (fun may _ => free may) (atCounter program) := by
  induction program generalizing may with
  | pure value => exact lets
  | request request next ih => exact ⟨asks may lets _, fun reply => ih reply (goesOn _ reply)⟩

/-- A command on a return keeps to a protocol when its execution does. -/
theorem returnTask_keeps (asks : ∀ may, free may → ∀ request, may (.ofHub request))
    (goesOn : ∀ request reply, free (protocol.follows (.ofHub request) reply))
    (rests : ∀ may, free may → protocol.rests may)
    (execute : ∀ may, free may →
      protocol.Keeps may (fun may _ => free may) (executeReturnCommand app task.header task.command))
    (lets : free may) : protocol.Keeps may (fun may _ => protocol.rests may) (task.program app) := by
  have executes {may : CounterRequest → Prop} (lets : free may) : protocol.Keeps may (fun may _ => protocol.rests may)
      (Program.bind (executeReturnCommand app task.header task.command) task.answered) := by
    apply Protocol.Keeps.bind
    apply (execute may lets).mono
    rintro may (errors | payload) lets
    · exact rests may lets
    · exact (atCounter_keeps asks goesOn _ lets).mono fun may _ lets => rests may lets
  obtain ⟨error, refused⟩ | ⟨_, next, runs, answers⟩ := task.program_cases app
  · rw [refused]
    exact rests may lets
  · rw [runs]
    refine ⟨asks may lets _, fun stored => ?_⟩
    have after := goesOn ⟨counterFrame task.header, .getResponse task.header.idempotencyKey⟩ stored
    obtain ⟨replayed, replays⟩ | went := answers stored
    · rw [replays]
      exact rests _ after
    · rw [went]
      exact executes after

end Conduct

/-- A snapshot of a return has its header and its lines as they once were. -/
structure Loaded {Remote : Type} (known : CounterWorld Remote → Prop) (id : Uuid) (snapshot : ReturnSnapshot) : Prop where
  header : ∃ past, known past ∧ Returns.fetch id past.hub.db.returns = some snapshot.row
  lines : ∃ past, known past ∧ Returns.lines id past.hub.db.returns = snapshot.lines

section Loads
variable {Remote Answer : Type} {rank : Uuid → Nat} {providers : Providers Remote Answer}
  {rules : Rules CounterRequest CounterRequest.Reply (CounterWorld Remote) (CounterChoice Answer)}
  {world : CounterWorld Remote} {header : CommandHeader}

theorem read_safe {ε : Type} (performs : rules.perform = performAtCounter rank providers) {frame : Frame} {call : Call}
    (granted : ∀ world, rules.grants world (.ofHub ⟨frame, call⟩))
    {post : CounterWorld Remote → Except ε call.Reply → Prop}
    (rest : ∀ past choice after, rules.invariant past →
      post after (.ok (perform providers choice past.hub ⟨frame, call⟩).1)) :
    (rules.along CounterRequest.ofHub fun _ reply => reply).Safe post world (Hub.reply frame call : Action ε call.Reply) := by
  intro later kept _
  refine ⟨granted later, fun _ choice _ => ?_⟩
  show post _ (.ok (rules.perform choice later (.ofHub ⟨frame, call⟩)).1)
  rw [performs]
  exact rest later choice.hub _ kept

theorem loadReturn_reads (performs : rules.perform = performAtCounter rank providers)
    (granted : ∀ world call, isReturnRead call = true → rules.grants world (.ofHub ⟨counterFrame header, call⟩))
    (id : Uuid) :
    rules.Safe (fun _ result => ∀ snapshot : ReturnSnapshot, result = .ok snapshot → Loaded rules.invariant id snapshot)
      world (loadReturn header id) := by
  apply Rules.safe_embed
  apply Rules.safe_andThen
  apply Rules.safe_orThrow
  refine read_safe performs (fun _ => granted _ _ rfl) fun past choice after kept => ?_
  simp only [perform, query]
  cases choice.storageFailure with
  | some error => exact fun _ impossible => by cases impossible
  | none =>
    cases found : Returns.fetch id past.hub.db.returns with
    | none => exact fun _ impossible => by cases impossible
    | some row =>
      apply Rules.safe_andThen
      apply Rules.safe_orThrow
      refine read_safe performs (fun _ => granted _ _ rfl) fun listed choice after holds => ?_
      simp only [perform, query]
      cases choice.storageFailure with
      | some error => exact fun _ impossible => by cases impossible
      | none =>
        apply Rules.safe_andThen
        apply Rules.safe_orThrow
        refine read_safe performs (fun _ => granted _ _ rfl) fun _ choice _ _ => ?_
        simp only [perform, query]
        cases choice.storageFailure with
        | some error => exact fun _ impossible => by cases impossible
        | none =>
          rintro _ ⟨⟩
          exact ⟨⟨past, kept, found⟩, listed, holds, rfl⟩

end Loads
end ApexEdge.Proofs.CounterRules

/-! Returns against receipts, over every run of ReturnLineItem and VoidReturn commands:
no line of the ledger gives back more units, money or tax than it was sold for. -/

namespace ApexEdge.Proofs.ReceiptedReturns
open Library Payment Domain Storage Contracts Hub
open CounterRules Entitlements

/-- A return that goes back to an order. -/
def receiptedReturn (tables : ReturnTables) (id : Uuid) : Bool :=
  tables.returns.any fun row => row.id = id ∧ row.originalOrderId.isSome

/-- ReturnLineItem and VoidReturn commands. A line that names a line of an order is on a
return with a receipt. -/
def AgainstOrders (orders : List NewOrderLedgerEntry) (tables : ReturnTables) (task : ReturnTask) : Prop :=
  match task.command with
  | .returnLineItem p => namesSale orders p.originalLineId = true → receiptedReturn tables p.returnId = true
  | .voidReturn _ => True
  | _ => False

instance (orders : List NewOrderLedgerEntry) (tables : ReturnTables) (task : ReturnTask) :
    Decidable (AgainstOrders orders tables task) := by
  unfold AgainstOrders
  split <;> infer_instance

/-- What active returns have taken of a line of an order, against what it was sold for. -/
structure WithinSale (rank : Uuid → Nat) (order : NewOrderLedgerEntry) (line : NewOrderLineEntry)
    (tables : ReturnTables) : Prop where
  quantity : quantityOf (Returns.activeLines line.lineId tables) ≤ line.quantity
  cents : (centsOf (Returns.activeLines line.lineId tables) : Int) ≤ paidCents rank order line
  tax : taxOf (Returns.activeLines line.lineId tables) ≤ line.taxCents
  whole : 0 < line.quantity → quantityOf (Returns.activeLines line.lineId tables) = line.quantity →
    centsOf (Returns.activeLines line.lineId tables) = paidCents rank order line ∧
      taxOf (Returns.activeLines line.lineId tables) = line.taxCents

/-- Ids are keys, taxes are 64-bit amounts, and nothing has been returned of the orders yet. -/
structure Opening (orders : List NewOrderLedgerEntry) (tables : ReturnTables) : Prop where
  keyed : Keyed orders
  typed : ∀ sale ∈ sales orders, sale.2.taxCents < 2 ^ 64
  unique : (tables.returns.map ReturnRow.id).Nodup
  unreturned : ∀ line ∈ tables.returnLines, namesSale orders line.originalLineId = false

theorem paidCents_nonneg (rank : Uuid → Nat) (order : NewOrderLedgerEntry) (line : NewOrderLineEntry) :
    0 ≤ paidCents rank order line := by
  unfold paidCents
  cases priced : Returns.paidFor rank order line with
  | error error => exact le_rfl
  | ok paid => exact (paidFor_bounds priced).1

theorem sound_opening {rank : Uuid → Nat} {orders : List NewOrderLedgerEntry} {tables : ReturnTables}
    (opening : Opening orders tables) : Sound rank orders tables where
  unique := opening.unique
  receipted line member names := by
    rw [opening.unreturned line member] at names
    cases names
  entitled sale sold := by
    have none : Returns.activeLines sale.2.lineId tables = [] := by
      refine List.filter_eq_nil_iff.mpr fun line member names => ?_
      have foreign := opening.unreturned line member
      exact List.any_eq_false.mp foreign sale sold (decide_eq_true (of_decide_eq_true names).1)
    rw [none]
    exact entitled_nil (paidCents_nonneg ..)

/-- The ledger's columns are signed; an amount that is negative there is never reached. -/
theorem withinSale_of_entitled {rank : Uuid → Nat} {order : NewOrderLedgerEntry} {line : NewOrderLineEntry}
    {tables : ReturnTables} (typed : line.taxCents < 2 ^ 64)
    (entitled : Entitled line (paidCents rank order line) (Returns.activeLines line.lineId tables)) :
    WithinSale rank order line tables := by
  have units := asI64_le line.quantity
  have taxes := asI64_le line.taxCents
  have quantity := entitled.quantity
  have tax := entitled.tax
  have whole := entitled.whole
  refine ⟨by omega, entitled.cents, by omega, ?_⟩
  intro some all
  obtain ⟨cents, same⟩ := whole (by omega) (by omega)
  refine ⟨cents, ?_⟩
  rcases Nat.lt_or_ge line.taxCents (2 ^ 63) with small | large
  · rw [asI64_of_small small] at same
    exact_mod_cast same
  · rw [asI64_of_large large typed] at same
    omega

/-- Which returns there are, and what they go back to; no command on lines changes that. -/
def receipts (tables : ReturnTables) : List (Uuid × Option Uuid) :=
  tables.returns.map fun row => (row.id, row.originalOrderId)

def grants (orders : List NewOrderLedgerEntry) (tables : ReturnTables) (request : CounterRequest) : Prop :=
  match request.call with
  | .hub call => isBystander call = true
  | .addReceiptedReturnLine _ | .voidReturnRow _ => True
  | .insertReturnLine line => namesSale orders line.originalLineId = false
  | .updateReturnTotals id .. => (id, none) ∈ receipts tables
  | _ => False

/-- The ledger is as it was, the returns go back to what they went back to, and nothing
is taken beyond what was sold. -/
structure Kept {Remote : Type} (rank : Uuid → Nat) (orders : List NewOrderLedgerEntry) (tables : ReturnTables)
    (world : CounterWorld Remote) : Prop where
  ledger : world.hub.db.orders = orders
  receipts : receipts world.hub.db.returns = receipts tables
  sound : Sound rank orders world.hub.db.returns

section Runs
variable {Remote Answer : Type} (app : AppState) (rank : Uuid → Nat) (providers : Providers Remote Answer)
  (orders : List NewOrderLedgerEntry) (tables : ReturnTables)

def lineRules : Rules CounterRequest CounterRequest.Reply (CounterWorld Remote) (CounterChoice Answer) :=
  { perform := performAtCounter rank providers
    condition := .always
    invariant := Kept rank orders tables
    interference := fun _ _ => True
    grants := fun _ => grants orders tables }

end Runs

section Steps
variable {Remote Answer : Type} {rank : Uuid → Nat} {providers : Providers Remote Answer} {orders : List NewOrderLedgerEntry}
  {tables : ReturnTables} {choice : CounterChoice Answer} {world : CounterWorld Remote}

theorem receipts_update {update : Table.Update ReturnRow} {before after : ReturnTables}
    (ran : after.returns = update.run before.returns) (ids : ∀ row, (update.set row).id = row.id)
    (same : ∀ row, (update.set row).originalOrderId = row.originalOrderId) : receipts after = receipts before := by
  unfold receipts
  rw [ran, Table.Update.run, List.map_map]
  refine List.map_congr_left fun row _ => ?_
  simp only [Function.comp_apply, update.row_column ReturnRow.id ids, update.row_column ReturnRow.originalOrderId same]

theorem blind_of_receipts {id : Uuid} (unique : (tables.returns.map ReturnRow.id).Nodup)
    (blind : (id, none) ∈ receipts tables) : ∀ row ∈ tables.returns, row.id = id → row.originalOrderId = none := by
  intro row stored own
  obtain ⟨other, present, same⟩ := List.mem_map.mp blind
  obtain ⟨rfl, none⟩ := Prod.mk.inj same
  obtain rfl := List.inj_on_of_nodup_map unique stored present own
  exact none

/-- A transaction on the returns that keeps receipts and entitlements. -/
theorem kept_transact {write : ReturnTables → Except PoolError ReturnTables} (kept : Kept rank orders tables world)
    (keeps : ∀ after, write world.hub.db.returns = .ok after →
      receipts after = receipts world.hub.db.returns ∧ Sound rank orders after) :
    Kept rank orders tables (transactReturns choice world write).2 := by
  unfold transactReturns
  split
  · exact kept
  · cases written : write world.hub.db.returns with
    | error error => exact kept
    | ok after =>
      obtain ⟨same, sound⟩ := keeps after written
      exact ⟨kept.ledger, same.trans kept.receipts, sound⟩

theorem line_step (keyed : Keyed orders) (kept : Kept rank orders tables world) {request : CounterRequest}
    (granted : grants orders tables request) :
    Kept rank orders tables (performAtCounter rank providers choice world request).2 := by
  obtain ⟨frame, adding, restocks, call⟩ := request
  cases call with
  | hub call =>
    obtain ⟨ledger, returns⟩ := bystander_db providers frame granted world.hub choice.hub
    exact ⟨ledger.trans kept.ledger, by rw [← kept.receipts]; exact congrArg receipts returns,
      by show Sound rank orders (perform providers choice.hub world.hub ⟨frame, call⟩).2.db.returns
         rw [returns]; exact kept.sound⟩
  | addReceiptedReturnLine input =>
    refine kept_transact kept fun after added => ⟨?_, sound_addReceiptedLine keyed kept.sound (kept.ledger ▸ added)⟩
    obtain ⟨sale, taken, next, paid, amount, tax, line⟩ := addReceiptedLine_ok added
    obtain ⟨_, _, _, total, charge, rows⟩ := line.effect kept.sound.unique
    exact receipts_update rows (fun _ => rfl) fun _ => rfl
  | insertReturnLine line =>
    refine kept_transact kept fun after inserted => ⟨?_, sound_insertLine kept.sound granted inserted⟩
    rw [insertLine_ok inserted]
    rfl
  | updateReturnTotals id totalCents taxCents refundedCents state =>
    refine kept_transact kept fun after written => ?_
    obtain rfl := Except.ok.inj written
    have blind := blind_of_receipts kept.sound.unique (by rw [kept.receipts]; exact granted)
    exact ⟨receipts_update rfl (fun _ => rfl) fun _ => rfl, sound_updateTotals _ _ _ _ kept.sound blind⟩
  | voidReturnRow id =>
    have voids : Kept rank orders tables (transactReturns choice world (Returns.voidRow id)).2 := by
      refine kept_transact kept fun after voided => ⟨?_, sound_voidRow kept.sound voided⟩
      rw [voidRow_ok voided]
      exact receipts_update rfl (fun _ => rfl) fun _ => rfl
    show Kept rank orders tables (voidRow choice world id).2
    unfold voidRow
    split
    · next voided => exact ⟨(voided ▸ voids).ledger, (voided ▸ voids).receipts, (voided ▸ voids).sound⟩
    · exact voids
  | _ => exact absurd granted id

theorem lineRules_assured (keyed : Keyed orders) :
    (lineRules rank providers orders tables : Rules _ _ _ (CounterChoice Answer)).Assured where
  refl _ := trivial
  trans _ _ := trivial
  step _ _ _ _ kept granted _ := ⟨line_step keyed kept granted, trivial⟩

end Steps

section Programs
variable {Remote Answer : Type} {rank : Uuid → Nat} {providers : Providers Remote Answer} {orders : List NewOrderLedgerEntry}
  {tables : ReturnTables} {world : CounterWorld Remote} {header : CommandHeader}

/-- A loaded return goes back to what it went back to. -/
theorem loadReturn_safe (id : Uuid) :
    (lineRules rank providers orders tables : Rules _ _ _ (CounterChoice Answer)).Safe
      (fun _ result => ∀ snapshot : ReturnSnapshot, result = .ok snapshot →
        (id, snapshot.row.originalOrderId) ∈ receipts tables) world (loadReturn header id) := by
  apply (loadReturn_reads rfl (fun _ call reads => isBystander_of_read reads) id).mono
  rintro _ _ loaded snapshot rfl
  obtain ⟨⟨past, kept, found⟩, _⟩ := loaded snapshot rfl
  have own : snapshot.row.id = id := by simpa using List.find?_some found
  rw [← kept.receipts]
  exact List.mem_map.mpr ⟨snapshot.row, List.mem_of_find?_eq_some found, by rw [own]⟩

/-- A statement of the counter that is granted anywhere. -/
theorem ask_safe {ε : Type} {request : CounterRequest} {post : CounterWorld Remote → Except ε request.Reply → Prop}
    (granted : grants orders tables request) (rest : ∀ after answer, post after (.ok answer)) :
    (lineRules rank providers orders tables : Rules _ _ _ (CounterChoice Answer)).Safe post world
      (Fallible.ask request : CounterAction ε request.Reply) :=
  fun _ _ _ => ⟨granted, fun _ _ _ => rest _ _⟩

theorem returnReceiptedLine_safe (p : ReturnLineItemPayload) :
    (lineRules rank providers orders tables : Rules _ _ _ (CounterChoice Answer)).Safe (fun _ _ => True) world
      (returnReceiptedLine header p) := by
  apply Rules.safe_andThen
  refine ask_safe rfl fun _ lineId => ?_
  apply Rules.safe_andThen
  apply Rules.safe_orThrow
  refine ask_safe trivial fun _ added => ?_
  cases added with
  | error error => trivial
  | ok _ =>
    apply Rules.safe_andThen
    apply (loadReturn_safe p.returnId).mono
    rintro _ (errors | snapshot) _ <;> trivial

/-- A blind line names no sale, and the header it is written to is a blind return's. -/
theorem returnBlindLine_safe {snapshot : ReturnSnapshot} {p : ReturnLineItemPayload}
    (foreign : namesSale orders p.originalLineId = false) (blind : (p.returnId, none) ∈ receipts tables) :
    (lineRules rank providers orders tables : Rules _ _ _ (CounterChoice Answer)).Safe (fun _ _ => True) world
      (returnBlindLine header snapshot p) := by
  apply Rules.safe_andThen
  refine ask_safe rfl fun _ lineId => ?_
  dsimp only
  cases snapshot.addLine (blindLine lineId p) with
  | error message => trivial
  | ok extended =>
    apply Rules.safe_andThen
    apply Rules.safe_orThrow
    refine ask_safe foreign fun _ inserted => ?_
    cases inserted with
    | error error => trivial
    | ok _ =>
      apply Rules.safe_andThen
      apply Rules.safe_orThrow
      refine ask_safe blind fun _ written => ?_
      cases written <;> trivial

theorem returnLineItem_safe {p : ReturnLineItemPayload} (unique : (tables.returns.map ReturnRow.id).Nodup)
    (against : namesSale orders p.originalLineId = true → receiptedReturn tables p.returnId = true) :
    (lineRules rank providers orders tables : Rules _ _ _ (CounterChoice Answer)).Safe (fun _ _ => True) world
      (returnLineItem header p) := by
  apply Rules.safe_andThen
  apply (loadReturn_safe p.returnId).mono
  rintro loaded (errors | snapshot) known
  · trivial
  · dsimp only
    split
    · trivial
    · split
      · exact returnReceiptedLine_safe p
      next blind =>
        have mine := known snapshot rfl
        rw [Option.not_isSome_iff_eq_none.mp blind] at mine
        refine returnBlindLine_safe ?_ mine
        -- a line that names a sale would be on a return with a receipt
        cases names : namesSale orders p.originalLineId with
        | false => rfl
        | true =>
          obtain ⟨row, stored, own⟩ := List.any_eq_true.mp (against names)
          obtain ⟨own, receipted⟩ := of_decide_eq_true own
          rw [blind_of_receipts unique mine row stored own] at receipted
          cases receipted

theorem voidReturn_safe (id : Uuid) :
    (lineRules rank providers orders tables : Rules _ _ _ (CounterChoice Answer)).Safe (fun _ _ => True) world
      (voidReturn header id) := by
  apply Rules.safe_andThen
  apply (loadReturn_safe id).mono
  rintro loaded (errors | snapshot) _
  · trivial
  · dsimp only
    cases snapshot.void with
    | error message => trivial
    | ok voided =>
      apply Rules.safe_andThen
      apply Rules.safe_orThrow
      refine ask_safe trivial fun _ done => ?_
      cases done <;> trivial

theorem program_safe (app : AppState) {task : ReturnTask} (unique : (tables.returns.map ReturnRow.id).Nodup)
    (against : AgainstOrders orders tables task) :
    (lineRules rank providers orders tables : Rules _ _ _ (CounterChoice Answer)).Safe (fun _ _ => True) world
      (task.program app) := by
  refine returnTask_safe (fun _ => ?_) (fun _ _ => rfl) fun _ _ _ => rfl
  unfold AgainstOrders at against
  unfold executeReturnCommand
  split at against
  next p command =>
    rw [command]
    exact returnLineItem_safe unique against
  next id command =>
    rw [command]
    exact voidReturn_safe id
  next => cases against

end Programs

theorem kept_run {Remote Answer : Type} (app : AppState) {rank : Uuid → Nat} (providers : Providers Remote Answer)
    {world : CounterWorld Remote} (opening : Opening world.hub.db.orders world.hub.db.returns)
    (events : List (Event (CounterChoice Answer)
      { task // AgainstOrders world.hub.db.orders world.hub.db.returns task })) :
    Kept rank world.hub.db.orders world.hub.db.returns
      (((returnCounter app rank providers).only _).run (Pool.quiet world) events).world := by
  have begins : Kept rank world.hub.db.orders world.hub.db.returns world := ⟨rfl, rfl, sound_opening opening⟩
  exact Rules.reached (lineRules_assured opening.keyed) rfl begins
    (fun task _ _ => program_safe app opening.unique task.property) (Condition.runMeets_always events)

/-- In every run of ReturnLineItem and VoidReturn commands over any number of returns, in
any order and interleaving and with crashes, no line of any order is returned beyond what
was sold, paid and taxed, and a line that is returned as a whole is given back exactly. -/
theorem returns_within_sale {Remote Answer : Type} (app : AppState) (rank : Uuid → Nat)
    (providers : Providers Remote Answer) (world : CounterWorld Remote)
    (opening : Opening world.hub.db.orders world.hub.db.returns)
    (events : List (Event (CounterChoice Answer)
      { task // AgainstOrders world.hub.db.orders world.hub.db.returns task })) :
    let after := (((returnCounter app rank providers).only _).run (Pool.quiet world) events).world
    ∀ order ∈ world.hub.db.orders, ∀ line ∈ order.lines, WithinSale rank order line after.hub.db.returns := by
  intro after order stored line listed
  have kept : Kept rank world.hub.db.orders world.hub.db.returns after := kept_run app providers opening events
  have sold : (order, line) ∈ sales world.hub.db.orders := mem_sales.mpr ⟨stored, listed⟩
  exact withinSale_of_entitled (opening.typed (order, line) sold) (kept.sound.entitled (order, line) sold)

section Runs
open Attempts

def byBits (id : Uuid) : Nat :=
  match id with
  | .random bits => bits
  | .named .. => 0

/-- Three items at 10.00, less 1.00, and 2.90 tax on top. -/
def threeItems : NewOrderLineEntry :=
  { lineId := 51, itemId := 12, sku := "SKU", name := "Item", quantity := 3, unitPriceCents := 1000
    lineTotalCents := 3000, discountCents := 100, taxCents := 290, taxInclusive := false }

def threeSold : NewOrderLedgerEntry :=
  { orderId := 50, cartId := 10, storeId := 1, registerId := 2, shiftId := none, subtotalCents := 3000
    discountCents := 100, taxCents := 290, totalCents := 3190, submissionId := none, lines := [threeItems]
    payments := [], fiscal := ⟨none, none, none, none, none, false⟩ }

def openReturn (id : Uuid) (order : Option Uuid) : ReturnRow := ⟨id, 1, 2, none, order, none, .open, 0, 0, 0, none⟩

def counterWith (returns : ReturnTables) : CounterWorld RemotePayments :=
  { hub := { db := { responses := [], carts := [], paymentIntents := [], outbox := [], orders := [threeSold]
                     returns := returns }
             remote := .empty }
    inventory := ⟨[], [], []⟩, submissions := [], restocked := [], voided := [] }

def threeReturns : CounterWorld RemotePayments :=
  counterWith ⟨[openReturn 60 (some 50), openReturn 61 (some 50), openReturn 62 (some 50)], [], [], []⟩

def returnCommand (key : Uuid) (command : ReturnCommand) : ReturnTask :=
  { boundRegister := none
    header := { version := .v1_0_0, idempotencyKey := key, storeId := 1, registerId := 2 }
    command := command }

def counterChoice (now freshId : Nat) : CounterChoice ProviderAnswer :=
  { hub := choice now freshId approves, approval := .ok (some .granted)
    fiscal := .ok ⟨none, none, none, none, none, false⟩, item := .ok (some 12) }

/-- Answer the first program `count` times. -/
def counterSteps {Task : Type} (count freshId : Nat) : List (Event (CounterChoice ProviderAnswer) Task) :=
  (List.range count).map fun step => .step 0 (counterChoice step (freshId + step))

def takeBack (returnId : Uuid) (quantity : Nat) : ReturnCommand :=
  .returnLineItem ⟨returnId, "SKU", none, quantity, 999999, 999999, false, some 51⟩

/-- One item is returned twice, the first of these returns is voided, and the other two
items are returned at once. -/
def voidedPartly : List (Event (CounterChoice ProviderAnswer)
    { task // AgainstOrders threeReturns.hub.db.orders threeReturns.hub.db.returns task }) :=
  .start ⟨returnCommand 100 (takeBack 60 1), by decide⟩ :: counterSteps 10 500 ++
    .start ⟨returnCommand 101 (takeBack 61 1), by decide⟩ :: counterSteps 10 600 ++
    .start ⟨returnCommand 102 (.voidReturn 60), by decide⟩ :: counterSteps 10 700 ++
    .start ⟨returnCommand 103 (takeBack 62 2), by decide⟩ :: counterSteps 10 800

theorem three_items_returned :
    let after := (((returnCounter shop byBits contractual).only _).run
      (Pool.quiet threeReturns) voidedPartly).world
    quantityOf (Returns.activeLines 51 after.hub.db.returns) = 3 ∧
      centsOf (Returns.activeLines 51 after.hub.db.returns) = 2900 ∧
        ∀ order ∈ threeReturns.hub.db.orders, ∀ line ∈ order.lines,
          WithinSale byBits order line after.hub.db.returns :=
  ⟨by decide +kernel, by decide +kernel,
    returns_within_sale shop byBits contractual threeReturns
      ⟨by decide, by decide, by decide, by decide⟩ voidedPartly⟩

end Runs
end ApexEdge.Proofs.ReceiptedReturns
