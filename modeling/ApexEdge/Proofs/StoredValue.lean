import ApexEdge.Storage.StoredValue

/-! Stored value is kept exactly as long as every amount and every balance stays
below 2^63. The amounts of the commands are unsigned and the columns are signed,
so from there on a redemption pays out and a credit takes away. -/

namespace ApexEdge.Proofs.StoredValue
open Library Payment Domain Storage

structure Tables where
  giftCards : List GiftCardRow
  loyaltyAccounts : List LoyaltyAccountRow

inductive Account where
  | giftCard (code : String)
  | loyalty (customerId : Uuid)
  deriving DecidableEq, Repr

inductive Operation where
  | issue (id storeId : Uuid) (code currency : String)
  | activate (code : String) (openingBalanceCents : UInt64)
  | reload (code : String) (amountCents : UInt64)
  | redeem (code : String) (amountCents : UInt64)
  | earn (customerId : Uuid) (points : UInt64)
  | redeemPoints (customerId : Uuid) (points : UInt64)
  deriving DecidableEq, Repr

/-- What an acknowledged operation adds to an account. -/
structure Entry where
  account : Account
  amount : Int
  deriving DecidableEq, Repr

def Operation.entry (operation : Operation) : Option Entry :=
  match operation with
  | .issue .. => none
  | .activate code amount | .reload code amount => some ⟨.giftCard code, amount.toNat⟩
  | .redeem code amount => some ⟨.giftCard code, -amount.toNat⟩
  | .earn customerId points => some ⟨.loyalty customerId, points.toNat⟩
  | .redeemPoints customerId points => some ⟨.loyalty customerId, -points.toNat⟩

/-- The reply is a success. -/
def acknowledges {Outcome Record : Type} [DecidableEq Outcome] (done : Outcome)
    (reply : Except PoolError (Outcome × Option Record)) : Bool :=
  match reply with
  | .ok (outcome, _) => outcome = done
  | .error _ => false

/-- Run an operation: was it acknowledged, and what it leaves. -/
def Operation.run (operation : Operation) (now : Timestamp) (tables : Tables) : Bool × Tables :=
  match operation with
  | .issue id storeId code currency =>
    let (reply, cards) := GiftCards.issue id storeId code currency now tables.giftCards
    (reply.1 = .issued, { tables with giftCards := cards })
  | .activate code amount =>
    let (reply, cards) := GiftCards.activate code amount.toNat now tables.giftCards
    (acknowledges .activated reply, { tables with giftCards := cards })
  | .reload code amount =>
    let (reply, cards) := GiftCards.reload code amount.toNat now tables.giftCards
    (acknowledges .reloaded reply, { tables with giftCards := cards })
  | .redeem code amount =>
    let (reply, cards) := GiftCards.redeem code amount.toNat now tables.giftCards
    (acknowledges .redeemed reply, { tables with giftCards := cards })
  | .earn customerId points =>
    let (reply, accounts) := Loyalty.earn customerId points.toNat now tables.loyaltyAccounts
    (reply.toBool, { tables with loyaltyAccounts := accounts })
  | .redeemPoints customerId points =>
    let (reply, accounts) := Loyalty.redeem customerId points.toNat now tables.loyaltyAccounts
    (acknowledges .redeemed reply, { tables with loyaltyAccounts := accounts })

def card (code : String) (tables : Tables) : Option GiftCardRow := tables.giftCards.find? (·.code = code)

def loyaltyAccount (customerId : Uuid) (tables : Tables) : Option LoyaltyAccountRow :=
  tables.loyaltyAccounts.find? (·.customerId = customerId)

/-- What the row with a key holds; a missing row holds nothing. -/
def held {Row Key : Type} [DecidableEq Key] (key : Row → Key) (column : Row → SqlNumber) (rows : List Row)
    (wanted : Key) : Int :=
  ((rows.find? (key · = wanted)).map fun row => (column row).value).getD 0

def Account.balance (account : Account) (tables : Tables) : Int :=
  match account with
  | .giftCard code => held GiftCardRow.code GiftCardRow.balanceCents tables.giftCards code
  | .loyalty customerId => held LoyaltyAccountRow.customerId LoyaltyAccountRow.points tables.loyaltyAccounts customerId

/-- What an operation has recorded for an account. -/
def recorded (account : Account) (entry : Entry) : Int := if entry.account = account then entry.amount else 0

/-- The tables, and the entries of the operations acknowledged so far. -/
structure Books where
  tables : Tables
  entries : List Entry

def Books.empty : Books := { tables := ⟨[], []⟩, entries := [] }

def Books.post (books : Books) (step : Operation × Timestamp) : Books :=
  let (acknowledged, tables) := step.1.run step.2 books.tables
  { tables := tables
    entries := books.entries ++ if acknowledged then step.1.entry.toList else [] }

/-- A balance is never negative, and is the sum of what was recorded for it. -/
def Balanced (books : Books) : Prop :=
  ∀ account : Account, 0 ≤ account.balance books.tables ∧
    account.balance books.tables = (books.entries.map (recorded account)).sum

/-- An acknowledged operation moves its own account by exactly its amount, a
redemption only what the balance covers; nothing else moves a balance. -/
structure Exact (step : Operation × Timestamp) (before : Tables) : Prop where
  acknowledged : (step.1.run step.2 before).1 = true → ∀ entry ∈ step.1.entry,
    0 ≤ entry.account.balance before + entry.amount
  moves : ∀ account : Account, account.balance (step.1.run step.2 before).2 =
    account.balance before +
      if (step.1.run step.2 before).1 then (step.1.entry.map (recorded account)).getD 0 else 0

/-- Safe in every state of the run and exact in every step of it. -/
def Safe (books : Books) (run : List (Operation × Timestamp)) : Prop :=
  match run with
  | [] => Balanced books
  | step :: rest => Balanced books ∧ Exact step books.tables ∧ Safe (books.post step) rest

/-- The amount, and the balance it would lead to, fit the signed column. Only an
operation that finds its account in the state it asks for is restricted. -/
def Fits (operation : Operation) (tables : Tables) : Prop :=
  match operation with
  | .issue .. => True
  | .activate code amount => (card code tables).any (·.state = .issued) → amount.toNat < 2 ^ 63
  | .reload code amount => (card code tables).any (·.state = .active) →
      (Account.giftCard code).balance tables + amount.toNat < 2 ^ 63
  | .redeem code amount => (card code tables).any (·.state = .active) → amount.toNat < 2 ^ 63
  | .earn customerId points => (Account.loyalty customerId).balance tables + points.toNat < 2 ^ 63
  | .redeemPoints customerId points => (loyaltyAccount customerId tables).isSome → points.toNat < 2 ^ 63

def AllFit (books : Books) (run : List (Operation × Timestamp)) : Prop :=
  match run with
  | [] => True
  | step :: rest => Fits step.1 books.tables ∧ AllFit (books.post step) rest

section Arithmetic
variable {b : Int} {amount : UInt64}

/-- The number stored for a balance `b` that an entry of `e` is to change is the
right one when it fits; when it does not, it is wrong whether or not it can be read. -/
inductive Moves (b e : Int) (fits : Prop) (number : SqlNumber) : Prop where
  | exact (fit : fits) (covered : 0 ≤ b + e) (bounded : b + e < 2 ^ 63) (same : number = .integer (b + e))
  | wrong (unfit : ¬ fits) (read : ∀ n, number = .integer n → n ≠ b + e ∨ b + e < 0)
      (unread : ∀ w, number = .real w → w ≠ b)

theorem sets_balance : Moves 0 amount.toNat (amount.toNat < 2 ^ 63) (.integer (asI64 amount.toNat)) := by
  have unsigned := amount.toNat_lt
  by_cases small : amount.toNat < 2 ^ 63
  · refine .exact small (by omega) (by omega) ?_
    rw [asI64_of_small small, zero_add]
  · refine .wrong small ?_ (fun w read => by cases read)
    intro n read
    have same := SqlNumber.integer.inj read
    have bound := asI64_of_large (by omega) unsigned
    omega

theorem credits_balance (covered : 0 ≤ b) (bounded : b < 2 ^ 63) :
    Moves b amount.toNat (b + amount.toNat < 2 ^ 63) ((SqlNumber.integer b).add (asI64 amount.toNat)) := by
  have unsigned := amount.toNat_lt
  by_cases small : amount.toNat < 2 ^ 63
  · rw [asI64_of_small small]
    by_cases fits : b + amount.toNat < 2 ^ 63
    · exact .exact fits (by omega) fits (SqlNumber.add_integer ⟨by omega, fits⟩)
    · have overflow : ¬ FitsI64 (b + amount.toNat) := fun fit => fits fit.2
      rcases SqlNumber.add_overflow overflow with ⟨k, stored, below⟩ | ⟨w, stored, outside⟩
      · refine .wrong fits ?_ (fun w read => by rw [stored] at read; cases read)
        intro n read
        rw [stored] at read
        cases read
        omega
      · refine .wrong fits (fun n read => by rw [stored] at read; cases read) ?_
        intro w read
        rw [stored] at read
        cases read
        omega
  · -- The amount is bound as a negative number.
    have bound := asI64_of_large (by omega) unsigned
    have stored : (SqlNumber.integer b).add (asI64 amount.toNat) = .integer (b + asI64 amount.toNat) :=
      SqlNumber.add_integer ⟨by omega, by omega⟩
    refine .wrong (by omega) ?_ (fun w read => by rw [stored] at read; cases read)
    intro n read
    rw [stored] at read
    cases read
    omega

theorem debits_balance (covered : 0 ≤ b) (bounded : b < 2 ^ 63) (guard : asI64 amount.toNat ≤ b) :
    Moves b (-amount.toNat) (amount.toNat < 2 ^ 63) ((SqlNumber.integer b).sub (asI64 amount.toNat)) := by
  have unsigned := amount.toNat_lt
  by_cases small : amount.toNat < 2 ^ 63
  · rw [asI64_of_small small] at guard ⊢
    exact .exact small (by omega) (by omega) (SqlNumber.sub_integer ⟨by omega, by omega⟩)
  · -- Nobody's balance covers the amount, but the guard compares with a negative number.
    refine .wrong small (fun n _ => .inr (by omega)) ?_
    intro w read
    by_cases fits : FitsI64 (b - asI64 amount.toNat)
    · rw [SqlNumber.sub_integer fits] at read
      cases read
    · rcases SqlNumber.sub_overflow fits with ⟨k, stored, -⟩ | ⟨v, stored, outside⟩
      · rw [stored] at read
        cases read
      · rw [stored] at read
        cases read
        omega

end Arithmetic

/-- A balance that the column holds as it is. -/
def InColumn (number : SqlNumber) : Prop := ∃ n : Int, number = .integer n ∧ 0 ≤ n ∧ n < 2 ^ 63

theorem Moves.inColumn {b e : Int} {fits : Prop} {number : SqlNumber} (moves : Moves b e fits number)
    (fit : fits) : InColumn number := by
  cases moves with
  | exact _ covered bounded same => exact ⟨_, same, covered, bounded⟩
  | wrong unfit => exact absurd fit unfit

theorem Moves.congr {b e : Int} {fits other : Prop} {number : SqlNumber} (moves : Moves b e fits number)
    (same : fits ↔ other) : Moves b e other number := by
  cases moves with
  | exact fit covered bounded stored => exact .exact (same.mp fit) covered bounded stored
  | wrong unfit read unread => exact .wrong (fun fit => unfit (same.mpr fit)) read unread

structure WellKept (tables : Tables) : Prop where
  codes : (tables.giftCards.map GiftCardRow.code).Nodup
  customers : (tables.loyaltyAccounts.map LoyaltyAccountRow.customerId).Nodup
  cards : ∀ row ∈ tables.giftCards, InColumn row.balanceCents ∧
    (row.state = .issued → row.balanceCents = .integer 0)
  accounts : ∀ row ∈ tables.loyaltyAccounts, InColumn row.points

/-- What came of an operation that has an entry to record. -/
inductive Outcome (operation : Operation) (now : Timestamp) (tables : Tables) (entry : Entry) : Prop where
  | refused (fits : Fits operation tables) (same : operation.run now tables = (false, tables))
  | moved (number : SqlNumber)
      (moves : Moves (entry.account.balance tables) entry.amount (Fits operation tables) number)
      (acknowledged : (operation.run now tables).1 = number.asInteger.isSome)
      (balance : entry.account.balance (operation.run now tables).2 = number.value)
      (others : ∀ other : Account, other ≠ entry.account →
        other.balance (operation.run now tables).2 = other.balance tables)
      (kept : Fits operation tables → WellKept (operation.run now tables).2)

section Guarded
variable {Row Record Reply Key : Type} [DecidableEq Reply] [DecidableEq Key] {key : Row → Key}
  {column : Row → SqlNumber} {update : Table.Update Row} {rows : List Row} {wanted : Key}

theorem held_other (unset : ∀ row, key (update.set row) = key row)
    (keyed : ∀ row, update.selects row = true → key row = wanted) {other : Key} (apart : other ≠ wanted) :
    held key column (update.run rows) other = held key column rows other := by
  have looked := Table.find?_run update (key · = other) (fun row => by rw [unset]) rows
  unfold held
  rw [looked]
  cases found : rows.find? (key · = other) with
  | none => rfl
  | some row =>
    have same : key row = other := by simpa using List.find?_some found
    have kept : update.selects row = false := by
      by_contra selects
      exact apart (same.symm.trans (keyed row (by simpa using selects)))
    simp only [Option.map_some, Table.Update.row_kept kept]

theorem held_selected (unset : ∀ row, key (update.set row) = key row) {row : Row}
    (found : rows.find? (key · = wanted) = some row) (selects : update.selects row = true) :
    held key column (update.run rows) wanted = (column (update.set row)).value := by
  have looked := Table.find?_run update (key · = wanted) (fun row => by rw [unset]) rows
  unfold held
  rw [looked, found]
  simp only [Option.map_some, Table.Update.row_selected selects, Option.getD_some]

/-- A guarded update on one key either does nothing and is not acknowledged, or
changes the column of that key's row and is acknowledged if it can be read back. -/
theorem guardedUpdate_cases (column : Row → SqlNumber) {amount : Nat} {get : List Row → Except PoolError (Option Record)}
    {invalidAmount done notFound : Reply} {refused : Record → Reply} (invalid : invalidAmount ≠ done)
    (missing : notFound ≠ done) (refuses : ∀ record, refused record ≠ done)
    (unique : (rows.map key).Nodup) (unset : ∀ row, key (update.set row) = key row)
    (keyed : ∀ row, update.selects row = true → key row = wanted)
    (reads : ∀ rows row, rows.find? (key · = wanted) = some row →
      (get rows).toBool = (column row).asInteger.isSome)
    {answer : Except PoolError (Reply × Option Record) × List Row}
    (answered : guardedUpdate amount update get invalidAmount done notFound refused rows = answer) :
    (amount = 0 ∨ ∀ row ∈ rows, update.selects row = false) ∧ acknowledges done answer.1 = false ∧
        answer.2 = rows ∨
      ∃ row ∈ rows, rows.find? (key · = wanted) = some row ∧ update.selects row = true ∧
        acknowledges done answer.1 = (column (update.set row)).asInteger.isSome ∧ answer.2 = update.run rows := by
  subst answered
  unfold guardedUpdate
  by_cases zero : amount = 0
  · left
    simp [zero, acknowledges, invalid]
  · cases selected : rows.any update.selects with
    | true =>
      right
      obtain ⟨row, member, selects⟩ := List.any_eq_true.mp selected
      have found := Table.find?_of_unique unique member
      rw [keyed row selects] at found
      have looked := Table.find?_run update (key · = wanted) (fun row => by rw [unset]) rows
      rw [found, Option.map_some, Table.Update.row_selected selects] at looked
      refine ⟨row, member, found, selects, ?_, by simp [zero]⟩
      rw [← reads _ _ looked]
      simp only [zero, if_false, if_true]
      cases get (update.run rows) <;> simp [Except.map, acknowledges, Except.toBool]
    | false =>
      left
      refine ⟨.inr fun row member => ?_, ?_⟩
      · simpa using List.any_eq_false.mp selected row member
      · simp only [zero, if_false, Bool.false_eq_true, and_true]
        cases get rows with
        | error error => rfl
        | ok found => cases found <;> simp [Except.map, acknowledges, missing, refuses]

end Guarded

theorem getByCode_reads (code : String) (cards : List GiftCardRow) (row : GiftCardRow)
    (found : cards.find? (·.code = code) = some row) :
    (GiftCards.getByCode code cards).toBool = row.balanceCents.asInteger.isSome := by
  unfold GiftCards.getByCode
  rw [found]
  cases column : row.balanceCents <;>
    simp [GiftCards.rowToRecord, column, SqlNumber.asInteger, Except.map, Except.toBool]

theorem getAccount_reads (customerId : Uuid) (accounts : List LoyaltyAccountRow) (row : LoyaltyAccountRow)
    (found : accounts.find? (·.customerId = customerId) = some row) :
    (Loyalty.getAccount customerId accounts).toBool = row.points.asInteger.isSome := by
  unfold Loyalty.getAccount
  rw [found]
  cases column : row.points <;> simp [Loyalty.rowToRecord, column, SqlNumber.asInteger, Except.map, Except.toBool]

section Operations
variable {tables : Tables} {now : Timestamp}

theorem wellKept_cards (kept : WellKept tables) {update : Table.Update GiftCardRow}
    (unset : ∀ row, (update.set row).code = row.code)
    (sound : ∀ row ∈ tables.giftCards, update.selects row = true →
      InColumn (update.set row).balanceCents ∧ (update.set row).state ≠ .issued) :
    WellKept { tables with giftCards := update.run tables.giftCards } := by
  refine ⟨Table.unique_run unset kept.codes, kept.customers, ?_, kept.accounts⟩
  intro row member
  obtain ⟨old, present, became⟩ := List.mem_map.mp member
  rcases update.row_cases old with ⟨selects, same⟩ | ⟨_, same⟩
  · obtain ⟨inColumn, state⟩ := sound old present selects
    rw [← became, same]
    exact ⟨inColumn, fun issued => absurd issued state⟩
  · rw [← became, same]
    exact kept.cards old present

/-- A statement on one gift card: what it does to the row tells its outcome. -/
theorem cards_outcome {Reply : Type} [DecidableEq Reply] (kept : WellKept tables) {operation : Operation}
    {amount : Nat} {change : Int} {code : String} {update : Table.Update GiftCardRow}
    {invalidAmount done notFound : Reply} {refused : GiftCardRecord → Reply} (invalid : invalidAmount ≠ done)
    (missing : notFound ≠ done) (refuses : ∀ record, refused record ≠ done)
    (unset : ∀ row, (update.set row).code = row.code)
    (keyed : ∀ row, update.selects row = true → row.code = code)
    (active : ∀ row, update.selects row = true → (update.set row).state ≠ .issued)
    {answer : Except PoolError (Reply × Option GiftCardRecord) × List GiftCardRow}
    (answered : guardedUpdate amount update (GiftCards.getByCode code) invalidAmount done notFound refused
      tables.giftCards = answer)
    (ran : operation.run now tables = (acknowledges done answer.1, { tables with giftCards := answer.2 }))
    (idle : amount = 0 ∨ (∀ row ∈ tables.giftCards, update.selects row = false) → Fits operation tables)
    (moves : ∀ row ∈ tables.giftCards, card code tables = some row → update.selects row = true →
      Moves row.balanceCents.value change (Fits operation tables) (update.set row).balanceCents) :
    Outcome operation now tables ⟨.giftCard code, change⟩ := by
  rcases guardedUpdate_cases GiftCardRow.balanceCents invalid missing refuses kept.codes unset keyed
    (getByCode_reads code) answered with ⟨nothing, unacknowledged, same⟩ | ⟨row, member, found, selects, told, same⟩
  · refine .refused (idle nothing) ?_
    rw [ran, unacknowledged, same]
  · have moved := moves row member found selects
    have before : (Account.giftCard code).balance tables = row.balanceCents.value := by
      simp [Account.balance, held, found]
    refine .moved (update.set row).balanceCents (before ▸ moved) ?_ ?_ ?_ ?_
    · rw [ran, told]
    · rw [ran, same]
      exact held_selected unset found selects
    · intro other apart
      rw [ran, same]
      cases other with
      | loyalty customerId => rfl
      | giftCard other => exact held_other unset keyed fun equal => apart (by rw [equal])
    · intro fits
      rw [ran, same]
      refine wellKept_cards kept unset ?_
      intro old present selected
      have again := Table.find?_of_unique kept.codes present
      rw [keyed old selected] at again
      cases (again.symm.trans found)
      exact ⟨moved.inColumn fits, active row selected⟩

theorem wellKept_accounts (kept : WellKept tables) {update : Table.Update LoyaltyAccountRow}
    (unset : ∀ row, (update.set row).customerId = row.customerId)
    (sound : ∀ row ∈ tables.loyaltyAccounts, update.selects row = true → InColumn (update.set row).points) :
    WellKept { tables with loyaltyAccounts := update.run tables.loyaltyAccounts } := by
  refine ⟨kept.codes, Table.unique_run unset kept.customers, kept.cards, ?_⟩
  intro row member
  obtain ⟨old, present, became⟩ := List.mem_map.mp member
  rcases update.row_cases old with ⟨selects, same⟩ | ⟨_, same⟩
  · rw [← became, same]
    exact sound old present selects
  · rw [← became, same]
    exact kept.accounts old present

/-- What a card in the table holds. -/
theorem card_held (kept : WellKept tables) {code : String} {row : GiftCardRow} (found : card code tables = some row) :
    ∃ n : Int, row.balanceCents = .integer n ∧ (Account.giftCard code).balance tables = n ∧ 0 ≤ n ∧ n < 2 ^ 63 := by
  obtain ⟨n, column, covered, bounded⟩ := (kept.cards row (List.mem_of_find?_eq_some found)).1
  refine ⟨n, column, ?_, covered, bounded⟩
  have looked : tables.giftCards.find? (·.code = code) = some row := found
  simp [Account.balance, held, looked, column]

theorem card_any {code : String} {state : GiftCardState} :
    (card code tables).any (·.state = state) = true ↔
      ∃ row ∈ tables.giftCards, card code tables = some row ∧ row.code = code ∧ row.state = state := by
  constructor
  · intro present
    cases found : card code tables with
    | none => simp [found] at present
    | some row =>
      have same : row.code = code := by simpa using List.find?_some found
      exact ⟨row, List.mem_of_find?_eq_some found, rfl, same, by simpa [found] using present⟩
  · rintro ⟨row, _, found, _, same⟩
    simp [found, same]

theorem activate_outcome (kept : WellKept tables) (code : String) (amount : UInt64) :
    Outcome (.activate code amount) now tables ⟨.giftCard code, amount.toNat⟩ := by
  have selected : ∀ row, (GiftCards.activateUpdate code amount.toNat now).selects row = true ↔
      row.code = code ∧ row.state = .issued := by simp [GiftCards.activateUpdate]
  refine cards_outcome kept (by decide) (by decide) (fun _ => by decide) (fun _ => rfl)
    (fun row selects => ((selected row).mp selects).1) (fun _ _ state => by cases state) rfl rfl ?_ ?_
  · intro nothing issued
    obtain ⟨row, member, _, same, state⟩ := card_any.mp issued
    rcases nothing with zero | unselected
    · omega
    · exact absurd ((selected row).mpr ⟨same, state⟩) (by simp [unselected row member])
  · intro row member found selects
    obtain ⟨same, state⟩ := (selected row).mp selects
    have fits : amount.toNat < 2 ^ 63 ↔ Fits (.activate code amount) tables :=
      ⟨fun small _ => small, fun fits => fits (card_any.mpr ⟨row, member, found, same, state⟩)⟩
    rw [(kept.cards row member).2 state]
    exact sets_balance.congr fits

theorem reload_outcome (kept : WellKept tables) (code : String) (amount : UInt64) :
    Outcome (.reload code amount) now tables ⟨.giftCard code, amount.toNat⟩ := by
  have selected : ∀ row, (GiftCards.reloadUpdate code amount.toNat now).selects row = true ↔
      row.code = code ∧ row.state = .active := by simp [GiftCards.reloadUpdate]
  refine cards_outcome kept (by decide) (by decide) (fun _ => by decide) (fun _ => rfl)
    (fun row selects => ((selected row).mp selects).1) (fun row selects state => ?_) rfl rfl ?_ ?_
  · have active : row.state = .active := ((selected row).mp selects).2
    cases active.symm.trans state
  · intro nothing active
    obtain ⟨row, member, found, same, state⟩ := card_any.mp active
    obtain ⟨balance, _, holds, _, bounded⟩ := card_held kept found
    rcases nothing with zero | unselected
    · omega
    · exact absurd ((selected row).mpr ⟨same, state⟩) (by simp [unselected row member])
  · intro row member found selects
    obtain ⟨same, state⟩ := (selected row).mp selects
    obtain ⟨balance, column, holds, covered, bounded⟩ := card_held kept found
    have fits : balance + amount.toNat < 2 ^ 63 ↔ Fits (.reload code amount) tables := by
      rw [← holds]
      exact ⟨fun fits _ => fits, fun fits => fits (card_any.mpr ⟨row, member, found, same, state⟩)⟩
    simp only [GiftCards.reloadUpdate, column]
    exact (credits_balance covered bounded).congr fits

theorem redeem_outcome (kept : WellKept tables) (code : String) (amount : UInt64) :
    Outcome (.redeem code amount) now tables ⟨.giftCard code, -amount.toNat⟩ := by
  have unsigned := amount.toNat_lt
  have selected : ∀ row, (GiftCards.redeemUpdate code amount.toNat now).selects row = true ↔
      row.code = code ∧ row.state = .active ∧ asI64 amount.toNat ≤ row.balanceCents.value := by
    simp [GiftCards.redeemUpdate]
  refine cards_outcome kept (by decide) (by decide) (fun existing => ?_) (fun _ => rfl)
    (fun row selects => ((selected row).mp selects).1) (fun row selects state => ?_) rfl rfl ?_ ?_
  · split <;> decide
  · have active : row.state = .active := ((selected row).mp selects).2.1
    cases active.symm.trans state
  · intro nothing active
    obtain ⟨row, member, found, same, state⟩ := card_any.mp active
    obtain ⟨balance, column, _, covered, _⟩ := card_held kept found
    rcases nothing with zero | unselected
    · omega
    · by_contra large
      have bound := asI64_of_large (by omega) unsigned
      have guarded : asI64 amount.toNat ≤ row.balanceCents.value := by
        rw [column, SqlNumber.value_integer]
        omega
      exact absurd ((selected row).mpr ⟨same, state, guarded⟩) (by simp [unselected row member])
  · intro row member found selects
    obtain ⟨same, state, guarded⟩ := (selected row).mp selects
    obtain ⟨balance, column, holds, covered, bounded⟩ := card_held kept found
    have fits : amount.toNat < 2 ^ 63 ↔ Fits (.redeem code amount) tables :=
      ⟨fun small _ => small, fun fits => fits (card_any.mpr ⟨row, member, found, same, state⟩)⟩
    rw [column, SqlNumber.value_integer] at guarded
    simp only [GiftCards.redeemUpdate, column]
    exact (debits_balance covered bounded guarded).congr fits

/-- What an account in the table holds. -/
theorem account_held (kept : WellKept tables) {customerId : Uuid} {row : LoyaltyAccountRow}
    (found : loyaltyAccount customerId tables = some row) :
    ∃ n : Int, row.points = .integer n ∧ (Account.loyalty customerId).balance tables = n ∧ 0 ≤ n ∧ n < 2 ^ 63 := by
  obtain ⟨n, column, covered, bounded⟩ := kept.accounts row (List.mem_of_find?_eq_some found)
  refine ⟨n, column, ?_, covered, bounded⟩
  have looked : tables.loyaltyAccounts.find? (·.customerId = customerId) = some row := found
  simp [Account.balance, held, looked, column]

theorem account_other {customerId : Uuid} {update : Table.Update LoyaltyAccountRow}
    (unset : ∀ row, (update.set row).customerId = row.customerId)
    (keyed : ∀ row, update.selects row = true → row.customerId = customerId) {other : Account}
    (apart : other ≠ .loyalty customerId) :
    other.balance { tables with loyaltyAccounts := update.run tables.loyaltyAccounts } = other.balance tables := by
  cases other with
  | giftCard code => rfl
  | loyalty other => exact held_other unset keyed fun equal => apart (by rw [equal])

theorem redeemPoints_outcome (kept : WellKept tables) (customerId : Uuid) (points : UInt64) :
    Outcome (.redeemPoints customerId points) now tables ⟨.loyalty customerId, -points.toNat⟩ := by
  have unsigned := points.toNat_lt
  have selected : ∀ row, (Loyalty.redeemUpdate customerId points.toNat now).selects row = true ↔
      row.customerId = customerId ∧ asI64 points.toNat ≤ row.points.value := by simp [Loyalty.redeemUpdate]
  have keyed : ∀ row, (Loyalty.redeemUpdate customerId points.toNat now).selects row = true →
      row.customerId = customerId := fun row selects => ((selected row).mp selects).1
  obtain ⟨answer, answered⟩ : ∃ answer, Loyalty.redeem customerId points.toNat now tables.loyaltyAccounts = answer :=
    ⟨_, rfl⟩
  have ran : (Operation.redeemPoints customerId points).run now tables =
      (acknowledges .redeemed answer.1, { tables with loyaltyAccounts := answer.2 }) := by rw [← answered]; rfl
  rcases guardedUpdate_cases LoyaltyAccountRow.points (by decide) (by decide) (fun _ => by decide) kept.customers
    (fun _ => rfl) keyed (getAccount_reads customerId) answered with
    ⟨nothing, unacknowledged, same⟩ | ⟨row, member, found, selects, told, same⟩
  · refine .refused ?_ (by rw [ran, unacknowledged, same])
    intro present
    obtain ⟨row, found⟩ := Option.isSome_iff_exists.mp present
    have member := List.mem_of_find?_eq_some found
    obtain ⟨balance, column, _, covered, _⟩ := account_held kept found
    rcases nothing with zero | unselected
    · omega
    · by_contra large
      have bound := asI64_of_large (by omega) unsigned
      have guarded : asI64 points.toNat ≤ row.points.value := by
        rw [column, SqlNumber.value_integer]
        omega
      have keyed : row.customerId = customerId := by simpa using List.find?_some found
      exact absurd ((selected row).mpr ⟨keyed, guarded⟩) (by simp [unselected row member])
  · have guarded := ((selected row).mp selects).2
    obtain ⟨balance, column, holds, covered, bounded⟩ := account_held kept found
    have fits : points.toNat < 2 ^ 63 ↔ Fits (.redeemPoints customerId points) tables :=
      ⟨fun small _ => small, fun fits => fits (Option.isSome_iff_exists.mpr ⟨row, found⟩)⟩
    rw [column, SqlNumber.value_integer] at guarded
    have moves := (debits_balance covered bounded guarded).congr fits
    have set : ((Loyalty.redeemUpdate customerId points.toNat now).set row).points =
        (SqlNumber.integer balance).sub (asI64 points.toNat) := by simp only [Loyalty.redeemUpdate, column]
    rw [← set] at moves
    refine .moved _ (by rw [holds]; exact moves) (by rw [ran]; exact told) ?_ ?_ ?_
    · rw [ran, same]
      exact held_selected (fun _ => rfl) found selects
    · intro other apart
      rw [ran, same]
      exact account_other (fun _ => rfl) keyed apart
    · intro fit
      rw [ran, same]
      refine wellKept_accounts kept (fun _ => rfl) ?_
      intro old present selected
      have again := Table.find?_of_unique kept.customers present
      rw [keyed old selected] at again
      cases (again.symm.trans found)
      exact moves.inColumn fit

/-- Earning credits the account, which it opens when there is none. -/
theorem earn_outcome (kept : WellKept tables) (customerId : Uuid) (points : UInt64) :
    Outcome (.earn customerId points) now tables ⟨.loyalty customerId, points.toNat⟩ := by
  have told : ((Operation.earn customerId points).run now tables).1 =
      (Loyalty.getAccount customerId ((Operation.earn customerId points).run now tables).2.loyaltyAccounts).toBool := by
    simp only [Operation.run, Loyalty.earn]
    cases Loyalty.getAccount customerId _ <;> rfl
  have reads := getAccount_reads customerId ((Operation.earn customerId points).run now tables).2.loyaltyAccounts
  cases found : loyaltyAccount customerId tables with
  | some row =>
    obtain ⟨balance, column, holds, covered, bounded⟩ := account_held kept found
    have member := List.mem_of_find?_eq_some found
    have keyed : row.customerId = customerId := by simpa using List.find?_some found
    let update : Table.Update LoyaltyAccountRow :=
      { selects := (·.customerId = customerId)
        set := fun row => { row with points := row.points.add (asI64 points.toNat), updatedAt := now } }
    have after : ((Operation.earn customerId points).run now tables).2 =
        { tables with loyaltyAccounts := update.run tables.loyaltyAccounts } := by
      simp only [Operation.run, Loyalty.earn, Table.upsert]
      rw [if_pos (List.any_eq_true.mpr ⟨row, member, by simpa using keyed⟩)]
    have selected : ∀ row, update.selects row = true → row.customerId = customerId := by simp [update]
    have selects : update.selects row = true := by simpa [update] using keyed
    have moves : Moves balance points.toNat (Fits (.earn customerId points) tables)
        (update.set row).points := by
      have fits : balance + points.toNat < 2 ^ 63 ↔ Fits (.earn customerId points) tables := by
        rw [← holds]
        exact Iff.rfl
      simp only [update, column]
      exact (credits_balance covered bounded).congr fits
    have looked := Table.find?_run update (·.customerId = customerId) (fun _ => rfl) tables.loyaltyAccounts
    rw [show tables.loyaltyAccounts.find? (·.customerId = customerId) = some row from found, Option.map_some,
      Table.Update.row_selected selects] at looked
    refine .moved _ (by rw [holds]; exact moves) ?_ ?_ ?_ ?_
    · rw [told]
      exact reads _ (by rw [after]; exact looked)
    · rw [after]
      exact held_selected (fun _ => rfl) found selects
    · intro other apart
      rw [after]
      exact account_other (fun _ => rfl) selected apart
    · intro fit
      rw [after]
      refine wellKept_accounts kept (fun _ => rfl) ?_
      intro old present again
      have same := Table.find?_of_unique kept.customers present
      rw [selected old again] at same
      cases (same.symm.trans found)
      exact moves.inColumn fit
  | none =>
    have absent : ∀ row ∈ tables.loyaltyAccounts, row.customerId ≠ customerId := by
      simpa [loyaltyAccount] using found
    have nothing : (Account.loyalty customerId).balance tables = 0 := by
      simp [Account.balance, held, show tables.loyaltyAccounts.find? (·.customerId = customerId) = none from found]
    let opened : LoyaltyAccountRow := ⟨customerId, .integer (asI64 points.toNat), now⟩
    have after : ((Operation.earn customerId points).run now tables).2.loyaltyAccounts =
        tables.loyaltyAccounts ++ [opened] := by
      simp only [Operation.run, Loyalty.earn, Table.upsert]
      rw [if_neg (by simpa using absent)]
    have fits : points.toNat < 2 ^ 63 ↔ Fits (.earn customerId points) tables := by
      simp only [Fits, nothing]
      omega
    have moves : Moves 0 points.toNat (Fits (.earn customerId points) tables) opened.points :=
      sets_balance.congr fits
    have looked : (tables.loyaltyAccounts ++ [opened]).find? (·.customerId = customerId) = some opened := by
      rw [List.find?_append, show tables.loyaltyAccounts.find? (·.customerId = customerId) = none from found]
      simp [opened]
    refine .moved _ (by rw [nothing]; exact moves) ?_ ?_ ?_ ?_
    · rw [told]
      exact reads _ (by rw [after]; exact looked)
    · simp only [Account.balance, held]
      rw [after, looked, Option.map_some, Option.getD_some]
    · intro other apart
      cases other with
      | giftCard code => rfl
      | loyalty other =>
        have different : customerId ≠ other := fun same => apart (by rw [same])
        simp only [Account.balance, held]
        rw [after]
        simp [List.find?_append, opened, different]
    · intro fit
      have cards : ((Operation.earn customerId points).run now tables).2.giftCards = tables.giftCards := rfl
      refine ⟨cards ▸ kept.codes, ?_, cards ▸ kept.cards, ?_⟩
      · rw [after, List.map_append, List.nodup_append]
        exact ⟨kept.customers, by simp, by simpa using absent⟩
      · rw [after]
        intro row member
        rcases List.mem_append.mp member with old | new
        · exact kept.accounts row old
        · rw [List.mem_singleton.mp new]
          exact moves.inColumn fit

variable (now) in
theorem issue_moves_nothing (kept : WellKept tables) (id storeId : Uuid) (code currency : String) :
    WellKept ((Operation.issue id storeId code currency).run now tables).2 ∧ ∀ account : Account,
      account.balance ((Operation.issue id storeId code currency).run now tables).2 = account.balance tables := by
  by_cases taken : tables.giftCards.any (·.code = code) = true
  · have same : ((Operation.issue id storeId code currency).run now tables).2 = tables := by
      simp only [Operation.run, GiftCards.issue]
      rw [if_pos taken]
    rw [same]
    exact ⟨kept, fun _ => rfl⟩
  · have after : ((Operation.issue id storeId code currency).run now tables).2 =
        { tables with giftCards := tables.giftCards ++ [⟨id, storeId, code, .integer 0, currency, .issued, now⟩] } := by
      simp only [Operation.run, GiftCards.issue]
      rw [if_neg taken]
    have fresh : ∀ row ∈ tables.giftCards, row.code ≠ code := by simpa using taken
    rw [after]
    refine ⟨⟨?_, kept.customers, ?_, kept.accounts⟩, ?_⟩
    · rw [List.map_append, List.nodup_append]
      exact ⟨kept.codes, by simp, by simpa using fresh⟩
    · intro row member
      rcases List.mem_append.mp member with old | new
      · exact kept.cards row old
      · rw [List.mem_singleton.mp new]
        exact ⟨⟨0, rfl, by omega, by omega⟩, fun _ => rfl⟩
    · intro account
      cases account with
      | loyalty customerId => rfl
      | giftCard other =>
        simp only [Account.balance, held, List.find?_append]
        cases found : tables.giftCards.find? (·.code = other) with
        | some row => rfl
        | none =>
          by_cases same : code = other <;> simp [same]

variable (now) in
/-- An operation with an entry changes its account, or is refused. -/
theorem outcome (kept : WellKept tables) {operation : Operation} {entry : Entry}
    (records : operation.entry = some entry) : Outcome operation now tables entry := by
  cases operation with
  | issue => cases records
  | activate code amount => cases records; exact activate_outcome kept code amount
  | reload code amount => cases records; exact reload_outcome kept code amount
  | redeem code amount => cases records; exact redeem_outcome kept code amount
  | earn customerId points => cases records; exact earn_outcome kept customerId points
  | redeemPoints customerId points => cases records; exact redeemPoints_outcome kept customerId points

theorem balance_nonneg (kept : WellKept tables) (account : Account) : 0 ≤ account.balance tables := by
  cases account with
  | giftCard code =>
    cases found : card code tables with
    | none => simp [Account.balance, held, show tables.giftCards.find? (·.code = code) = none from found]
    | some row =>
      obtain ⟨n, _, holds, covered, _⟩ := card_held kept found
      rw [holds]
      exact covered
  | loyalty customerId =>
    cases found : loyaltyAccount customerId tables with
    | none => simp [Account.balance, held, show tables.loyaltyAccounts.find? (·.customerId = customerId) = none from found]
    | some row =>
      obtain ⟨n, _, holds, covered, _⟩ := account_held kept found
      rw [holds]
      exact covered

variable (now) in
/-- A step that fits keeps the tables, and is exact. -/
theorem exact_of_fits (kept : WellKept tables) {operation : Operation} (fits : Fits operation tables) :
    WellKept (operation.run now tables).2 ∧ Exact (operation, now) tables := by
  cases records : operation.entry with
  | none =>
    cases operation with
    | issue id storeId code currency =>
      obtain ⟨kept, same⟩ := issue_moves_nothing now kept id storeId code currency
      refine ⟨kept, ⟨fun _ entry member => by simp [Operation.entry] at member, fun account => ?_⟩⟩
      simp [Operation.entry, same account]
    | _ => cases records
  | some entry =>
    cases outcome now kept records with
    | refused _ same =>
      refine ⟨by rw [same]; exact kept, ⟨fun told => by simp [same] at told, fun account => by simp [same]⟩⟩
    | moved number moves acknowledged balance others after =>
      cases moves with
      | wrong unfit => exact absurd fits unfit
      | exact _ covered bounded stored =>
        have told : (operation.run now tables).1 = true := by simp [acknowledged, stored]
        refine ⟨after fits, ⟨?_, ?_⟩⟩
        · intro _ recorded member
          have same : entry = recorded := by simpa [records] using member
          rw [← same]
          exact covered
        · intro account
          simp only [told, if_true, records, Option.map_some, Option.getD_some, recorded]
          by_cases own : entry.account = account
          · rw [if_pos own, ← own, balance, stored, SqlNumber.value_integer]
          · rw [if_neg own, add_zero]
            exact others account fun same => own same.symm

/-- An exact step that leaves no balance negative fits. -/
theorem fits_of_exact (kept : WellKept tables) {operation : Operation} (exact : Exact (operation, now) tables)
    (covered : ∀ account : Account, 0 ≤ account.balance (operation.run now tables).2) : Fits operation tables := by
  cases records : operation.entry with
  | none =>
    cases operation with
    | issue => trivial
    | _ => cases records
  | some entry =>
    cases outcome now kept records with
    | refused fits _ => exact fits
    | moved number moves acknowledged balance _ _ =>
      cases moves with
      | exact fits => exact fits
      | wrong _ read unread =>
        have moved := exact.moves entry.account
        have nonnegative := covered entry.account
        simp only [balance, acknowledged, records, Option.map_some, Option.getD_some, recorded, if_true] at moved nonnegative
        cases stored : number with
        | integer n =>
          simp only [stored, SqlNumber.asInteger_integer, SqlNumber.value_integer, Option.isSome_some, if_true]
            at moved nonnegative
          rcases read n stored with different | negative <;> omega
        | real w =>
          have same : w = entry.account.balance tables := by simpa [stored, SqlNumber.asInteger, SqlNumber.value] using moved
          exact absurd same (unread w stored)

end Operations

theorem balanced_post {books : Books} {step : Operation × Timestamp} (balanced : Balanced books)
    (kept : WellKept (step.1.run step.2 books.tables).2) (exact : Exact step books.tables) :
    Balanced (books.post step) := by
  intro account
  refine ⟨balance_nonneg kept account, ?_⟩
  have moved := exact.moves account
  have summed := (balanced account).2
  simp only [Books.post]
  rw [moved, List.map_append, List.sum_append, ← summed]
  congr 1
  cases (step.1.run step.2 books.tables).1 with
  | false => rfl
  | true => cases step.1.entry <;> simp

theorem safe_iff_allFit {books : Books} (kept : WellKept books.tables) (balanced : Balanced books)
    (run : List (Operation × Timestamp)) : Safe books run ↔ AllFit books run := by
  induction run generalizing books with
  | nil => exact ⟨fun _ => trivial, fun _ => balanced⟩
  | cons step rest ih =>
    constructor
    · rintro ⟨_, exact, later⟩
      have next : Balanced (books.post step) := by
        cases rest with
        | nil => exact later
        | cons _ _ => exact later.1
      have fits := fits_of_exact kept exact fun account => (next account).1
      exact ⟨fits, (ih (exact_of_fits step.2 kept fits).1 next).mp later⟩
    · rintro ⟨fits, later⟩
      obtain ⟨keptAfter, exact⟩ := exact_of_fits step.2 kept fits
      have next := balanced_post balanced keptAfter exact
      exact ⟨balanced, exact, (ih keptAfter next).mpr later⟩

/-- Stored value is safe along a run exactly when every step of it fits: balances
never go negative, redemptions and credits are exact, and each balance is the sum
of what was recorded for it. -/
theorem stored_value_safe_iff (run : List (Operation × Timestamp)) :
    Safe Books.empty run ↔ AllFit Books.empty run := by
  apply safe_iff_allFit
  · exact ⟨List.nodup_nil, List.nodup_nil, by simp [Books.empty], by simp [Books.empty]⟩
  · intro account
    cases account <;> simp [Account.balance, held, Books.empty]

/-- Issue a card, load it with ten cents, and redeem 2^64 - 5 cents from it. -/
def paidOut : List (Operation × Timestamp) :=
  [(.issue 1 2 "GC-1" "USD", 0), (.activate "GC-1" 10, 1), (.redeem "GC-1" 18446744073709551611, 2)]

/-- The redemption is acknowledged, and raises the balance to fifteen cents. -/
theorem redemption_pays_out : ¬ Safe Books.empty paidOut := by
  rintro ⟨_, _, _, _, _, exact, _⟩
  have raised := exact.moves (.giftCard "GC-1")
  revert raised
  decide

end ApexEdge.Proofs.StoredValue
