import ApexEdge.Proofs.AuthConduct

/-! A pairing code enrols one device. The device is inserted on what the code was when it was
read, and the code is consumed in a statement of its own, whatever has become of it. -/

namespace ApexEdge.Proofs.PairingCodes
open Library Payment Domain Storage Contracts Hub AuthDesk
open AuthConduct

/-- The code is marked as consumed by the device. -/
def ConsumedBy (codes : List DevicePairingCodeRow) (enrolment : Enrolment) : Prop :=
  ∃ row ∈ codes, row.id = enrolment.code ∧ row.consumedAt.isSome ∧ row.consumedDeviceId = some enrolment.device

/-- Some handler has inserted the device, and is about to mark the code as consumed by it. -/
def Enrolling (pending : Multiset AuthRequest) (code device : Uuid) : Prop :=
  ∃ request ∈ pending, request.1.enrolling = some (code, device)

/-- One device for each code, created before the code expired and before it had failed too
often; the code is marked as consumed by the device, or its handler is about to do that. -/
structure OneDevice (world : AuthWorld) (pending : Multiset AuthRequest) : Prop where
  once : (world.enrolled.map Enrolment.code).Nodup
  within : ∀ enrolment ∈ world.enrolled, ∃ row ∈ world.codes, row.id = enrolment.code ∧
    enrolment.enrolledAt ≤ row.expiresAt ∧ (enrolment.failed : Int) < row.maxAttempts
  together : ∀ enrolment ∈ world.enrolled,
    ConsumedBy world.codes enrolment ∨ Enrolling pending enrolment.code enrolment.device

/-- The attempts that a code counts are its failed uses. -/
structure Counted (world : AuthWorld) : Prop where
  ids : (world.codes.map DevicePairingCodeRow.id).Nodup
  attempts : ∀ row ∈ world.codes, row.attempts = world.failures.count row.id
  known : ∀ id ∈ world.failures, ∃ row ∈ world.codes, row.id = id

/-- When a device is inserted its code would still be taken, and no other device has been
inserted for it; every failed use is counted; and what has inserted a device consumes its code. -/
def stillTaken (app : AuthApp) : Condition AuthRequest AuthWorld AuthChoice where
  step world others request choice :=
    match request.2 with
    | .getPairingCodeByHash codeHash =>
      misused app request.1 (select choice world.codes (Auth.getPairingCodeByHash codeHash)) = []
    | .incrementPairingCodeAttempts _ | .consumePairingCode .. => choice.storageFailure = none
    | .createTrustedDevice _ => choice.storageFailure = none → ∀ read ∈ request.1.pairing,
      (∀ row ∈ world.codes, row.id = read.id →
        row.consumedAt = none ∧ choice.now ≤ row.expiresAt ∧ row.attempts < row.maxAttempts) ∧
      ∀ other ∈ others, ∀ enrolling ∈ other.1.enrolling, enrolling.1 ≠ read.id
    | _ => True
  drop _ _ request := request.1.enrolling = none

instance (app : AuthApp) (world : AuthWorld) (others : List AuthRequest) (request : AuthRequest) (choice : AuthChoice) :
    Decidable ((stillTaken app).step world others request choice) := by
  obtain ⟨memory, call⟩ := request
  unfold stillTaken
  dsimp only
  split <;> infer_instance

instance (app : AuthApp) (world : AuthWorld) (others : List AuthRequest) (request : AuthRequest) :
    Decidable ((stillTaken app).drop world others request) :=
  inferInstanceAs (Decidable (request.1.enrolling = none))

/-- What a statement does to codes and devices. -/
inductive Handled (choice : AuthChoice) (world after : AuthWorld) (memory later : AuthMemory) (call : AuthCall) : Prop where
  | kept (codes : after.codes = world.codes) (enrolled : after.enrolled = world.enrolled)
      (failures : after.failures = world.failures) (enrolling : later.enrolling = memory.enrolling)
  | minted (id : Uuid) (new : NewPairingCode) (unused : ∀ row ∈ world.codes, row.id ≠ id)
      (codes : after.codes = world.codes ++ [new.row id]) (enrolled : after.enrolled = world.enrolled)
      (failures : after.failures = world.failures) (enrolling : later.enrolling = memory.enrolling)
  | failed (id : Uuid) (asked : call = .incrementPairingCodeAttempts id)
      (codes : after.codes = (Auth.incrementPairingCodeAttempts id).run world.codes)
      (enrolled : after.enrolled = world.enrolled) (failures : after.failures = world.failures ++ [id])
      (enrolling : later.enrolling = memory.enrolling)
  | enrols (new : NewTrustedDevice) (asked : call = .createTrustedDevice new) (works : choice.storageFailure = none)
      (read : DevicePairingCodeRow) (pairing : memory.pairing = some read) (codes : after.codes = world.codes)
      (enrolled : after.enrolled = world.enrolled ++ [⟨read.id, new.id, choice.now, world.failures.count read.id⟩])
      (failures : after.failures = world.failures) (enrolling : later.enrolling = some (read.id, new.id))
  | consumes (id deviceId : Uuid) (asked : call = .consumePairingCode id deviceId)
      (codes : after.codes = (Auth.consumePairingCode id deviceId choice.now).run world.codes)
      (enrolled : after.enrolled = world.enrolled) (failures : after.failures = world.failures)
      (enrolling : later.enrolling = none)

section Steps
variable {app : AuthApp} {choice : AuthChoice} {world : AuthWorld} {others : List AuthRequest}

theorem learn_getPairingCode (memory : AuthMemory) (codeHash : String) (reply : AuthCall.Reply (.getPairingCodeByHash codeHash)) :
    (learn memory (.getPairingCodeByHash codeHash) reply).enrolling = memory.enrolling := by
  rcases reply with error | none | row <;> rfl

theorem learn_getAuthSession (memory : AuthMemory) (sessionId : Uuid) (reply : AuthCall.Reply (.getAuthSession sessionId)) :
    (learn memory (.getAuthSession sessionId) reply).enrolling = memory.enrolling := by
  rcases reply with error | none | row <;> rfl

theorem learn_revokeAuthSession (memory : AuthMemory) (sessionId : Uuid)
    (reply : AuthCall.Reply (.revokeAuthSession sessionId)) :
    (learn memory (.revokeAuthSession sessionId) reply).enrolling = memory.enrolling := by
  rcases reply with error | done
  · rfl
  · simp only [learn]
    split <;> rfl

theorem handled {memory : AuthMemory} {call : AuthCall} (allowed : Allowed app memory call)
    (taken : (stillTaken app).step world others (memory, call) choice) :
    Handled choice world (performAuth app choice world (memory, call)).2 memory
      (learn memory call (performAuth app choice world (memory, call)).1) call := by
  cases call
  case createDevicePairingCode id new =>
    simp only [performAuth, execute]
    cases choice.storageFailure with
    | some error => exact .kept rfl rfl rfl rfl
    | none =>
      by_cases used : world.codes.any (·.id = id) = true
      · simp only [Auth.createDevicePairingCode, used, if_true]
        exact .kept rfl rfl rfl rfl
      · by_cases known : world.codes.any (·.codeHash = new.codeHash) = true
        · simp only [Auth.createDevicePairingCode, used, known]
          exact .kept rfl rfl rfl rfl
        · simp only [Auth.createDevicePairingCode, used, known]
          exact .minted id new (fun row member same => used (List.any_eq_true.mpr ⟨row, member, by simpa using same⟩))
            rfl rfl rfl rfl
  case getPairingCodeByHash codeHash =>
    refine .kept rfl rfl ?_ (learn_getPairingCode memory codeHash _)
    exact (congrArg (world.failures ++ ·) taken).trans (List.append_nil _)
  case incrementPairingCodeAttempts id =>
    have works : choice.storageFailure = none := taken
    simp only [performAuth, execute, works]
    exact .failed id rfl rfl rfl rfl rfl
  case consumePairingCode id deviceId =>
    have works : choice.storageFailure = none := taken
    simp only [performAuth, execute, works]
    exact .consumes id deviceId rfl rfl rfl rfl rfl
  case createTrustedDevice new =>
    obtain ⟨read, pairing⟩ := Option.isSome_iff_exists.mp allowed.1
    simp only [performAuth, execute]
    cases works : choice.storageFailure with
    | some error => exact .kept rfl rfl rfl rfl
    | none =>
      dsimp only
      cases Auth.createTrustedDevice new choice.now world.devices with
      | error error => exact .kept rfl rfl rfl rfl
      | ok devices =>
        refine .enrols new rfl works read pairing rfl ?_ rfl ?_
        · simp [enrolments, pairing]
        · simp [learn, pairing]
  case createAuthSession new =>
    simp only [performAuth]
    split <;> exact .kept rfl rfl rfl rfl
  case revokeAuthSession sessionId =>
    have learnt := learn_revokeAuthSession memory sessionId (performAuth app choice world (memory, .revokeAuthSession sessionId)).1
    revert learnt
    simp only [performAuth]
    split <;> exact fun learnt => .kept rfl rfl rfl learnt
  case getAuthSession sessionId => exact .kept rfl rfl rfl (learn_getAuthSession memory sessionId _)
  all_goals exact .kept rfl rfl rfl rfl

/-- Every code stays, with all but its attempts. -/
def Carries (codes after : List DevicePairingCodeRow) : Prop :=
  ∀ row ∈ codes, ∃ attempts, { row with attempts := attempts } ∈ after

theorem carries_refl (codes : List DevicePairingCodeRow) : Carries codes codes := fun row member => ⟨row.attempts, member⟩

theorem carries_failed (id : Uuid) (codes : List DevicePairingCodeRow) :
    Carries codes ((Auth.incrementPairingCodeAttempts id).run codes) := by
  intro row member
  have remains : (Auth.incrementPairingCodeAttempts id).row row ∈ (Auth.incrementPairingCodeAttempts id).run codes :=
    List.mem_map_of_mem member
  rcases (Auth.incrementPairingCodeAttempts id).row_cases row with ⟨_, same⟩ | ⟨_, same⟩
  · rw [same] at remains
    exact ⟨row.attempts + 1, remains⟩
  · rw [same] at remains
    exact ⟨row.attempts, remains⟩

section Updates
variable (id deviceId : Uuid) (now : Timestamp) (row : DevicePairingCodeRow)

theorem increment_id : ((Auth.incrementPairingCodeAttempts id).row row).id = row.id :=
  (Auth.incrementPairingCodeAttempts id).row_column DevicePairingCodeRow.id (fun _ => rfl) row

theorem increment_attempts : ((Auth.incrementPairingCodeAttempts id).row row).attempts =
    row.attempts + if row.id = id then 1 else 0 := by
  by_cases same : row.id = id <;> simp [Table.Update.row, Auth.incrementPairingCodeAttempts, same]

theorem consume_id : ((Auth.consumePairingCode id deviceId now).row row).id = row.id :=
  (Auth.consumePairingCode id deviceId now).row_column DevicePairingCodeRow.id (fun _ => rfl) row

theorem consume_attempts : ((Auth.consumePairingCode id deviceId now).row row).attempts = row.attempts :=
  (Auth.consumePairingCode id deviceId now).row_column DevicePairingCodeRow.attempts (fun _ => rfl) row

theorem consume_expiresAt : ((Auth.consumePairingCode id deviceId now).row row).expiresAt = row.expiresAt :=
  (Auth.consumePairingCode id deviceId now).row_column DevicePairingCodeRow.expiresAt (fun _ => rfl) row

theorem consume_maxAttempts : ((Auth.consumePairingCode id deviceId now).row row).maxAttempts = row.maxAttempts :=
  (Auth.consumePairingCode id deviceId now).row_column DevicePairingCodeRow.maxAttempts (fun _ => rfl) row

end Updates

/-- A code stays, under its id. -/
theorem Handled.remains {after : AuthWorld} {memory later : AuthMemory} {call : AuthCall}
    (step : Handled choice world after memory later call) {row : DevicePairingCodeRow} (member : row ∈ world.codes) :
    ∃ same ∈ after.codes, same.id = row.id := by
  cases step with
  | kept codes | enrols _ _ _ _ _ codes => exact ⟨row, codes ▸ member, rfl⟩
  | minted _ _ _ codes => exact ⟨row, codes ▸ List.mem_append_left _ member, rfl⟩
  | failed id _ codes => exact ⟨_, codes ▸ List.mem_map_of_mem member, increment_id id row⟩
  | consumes id deviceId _ codes => exact ⟨_, codes ▸ List.mem_map_of_mem member, consume_id id deviceId choice.now row⟩

theorem Counted.handled {after : AuthWorld} {memory later : AuthMemory} {call : AuthCall} (counted : Counted world)
    (allowed : Allowed app memory call)
    (read : ∀ read ∈ memory.pairing, ∃ row ∈ world.codes, row.id = read.id)
    (step : Handled choice world after memory later call) : Counted after := by
  have known : ∀ id ∈ world.failures, ∃ row ∈ after.codes, row.id = id := by
    intro id member
    obtain ⟨row, present, same⟩ := counted.known id member
    obtain ⟨still, remains, unchanged⟩ := step.remains present
    exact ⟨still, remains, unchanged.trans same⟩
  obtain ⟨ids, attempts, listed⟩ := counted
  cases step with
  | kept codes _ failures | enrols _ _ _ _ _ codes _ failures =>
    refine ⟨codes ▸ ids, ?_, failures ▸ known⟩
    rw [codes, failures]
    exact attempts
  | minted id new unused codes _ failures =>
    rw [← failures] at known
    constructor
    · rw [codes, List.map_append]
      refine List.nodup_append.mpr ⟨ids, List.nodup_singleton _, ?_⟩
      rintro taken member other fresh rfl
      cases List.mem_singleton.mp fresh
      obtain ⟨row, present, same⟩ := List.mem_map.mp member
      exact unused row present same
    · intro row member
      rw [codes] at member
      rw [failures]
      rcases List.mem_append.mp member with old | fresh
      · exact attempts row old
      · cases List.mem_singleton.mp fresh
        have none : id ∉ world.failures := by
          intro failing
          obtain ⟨row, present, same⟩ := listed id failing
          exact unused row present same
        show (0 : Int) = world.failures.count id
        rw [List.count_eq_zero_of_not_mem none]
        rfl
    · exact known
  | failed id asked codes _ failures =>
    subst asked
    obtain ⟨pairing, has, same⟩ := allowed
    constructor
    · rw [codes]
      simpa only [Table.Update.run, List.map_map, Function.comp_def, increment_id] using ids
    · rw [codes, failures]
      intro row member
      obtain ⟨old, present, rfl⟩ := List.mem_map.mp member
      rw [increment_attempts, increment_id, attempts old present, List.count_append, List.count_singleton]
      by_cases failing : old.id = id
      · simp [failing]
      · simp [failing, Ne.symm failing]
    · rw [failures]
      intro failing member
      rcases List.mem_append.mp member with old | fresh
      · exact known failing old
      · cases List.mem_singleton.mp fresh
        obtain ⟨row, present, known⟩ := read pairing has
        exact ⟨_, codes ▸ List.mem_map_of_mem present, (increment_id id row).trans (known.trans same)⟩
  | consumes id deviceId _ codes _ failures =>
    constructor
    · rw [codes]
      simpa only [Table.Update.run, List.map_map, Function.comp_def, consume_id] using ids
    · rw [codes, failures]
      intro row member
      obtain ⟨old, present, rfl⟩ := List.mem_map.mp member
      rw [consume_attempts, consume_id]
      exact attempts old present
    · rw [failures]
      exact known

/-! ### Devices -/

theorem ConsumedBy.carried {codes after : List DevicePairingCodeRow} {enrolment : Enrolment}
    (consumed : ConsumedBy codes enrolment) (carries : Carries codes after) : ConsumedBy after enrolment := by
  obtain ⟨row, member, same, marked, device⟩ := consumed
  obtain ⟨attempts, remains⟩ := carries row member
  exact ⟨_, remains, same, marked, device⟩

/-- Where no device is created, no code consumed and no handler forgets what it is about to do. -/
theorem OneDevice.carried {after : AuthWorld} {pending next : Multiset AuthRequest} (one : OneDevice world pending)
    (enrolled : after.enrolled = world.enrolled) (carries : Carries world.codes after.codes)
    (still : ∀ code device, Enrolling pending code device → Enrolling next code device) : OneDevice after next where
  once := by rw [enrolled]; exact one.once
  within enrolment member := by
    rw [enrolled] at member
    obtain ⟨row, present, facts⟩ := one.within enrolment member
    obtain ⟨attempts, remains⟩ := carries row present
    exact ⟨_, remains, facts⟩
  together enrolment member := by
    rw [enrolled] at member
    rcases one.together enrolment member with consumed | enrolling
    · exact .inl (consumed.carried carries)
    · exact .inr (still _ _ enrolling)

theorem enrolling_cons {request : AuthRequest} {pending : Multiset AuthRequest} {code device : Uuid} :
    Enrolling (request ::ₘ pending) code device ↔
      request.1.enrolling = some (code, device) ∨ Enrolling pending code device := by
  unfold Enrolling
  constructor
  · rintro ⟨other, member, holds⟩
    rcases Multiset.mem_cons.mp member with rfl | old
    · exact .inl holds
    · exact .inr ⟨other, old, holds⟩
  · rintro (holds | ⟨other, old, holds⟩)
    · exact ⟨request, Multiset.mem_cons_self _ _, holds⟩
    · exact ⟨other, Multiset.mem_cons_of_mem old, holds⟩

/-- One handler goes on, the others wait. -/
theorem enrolling_replaced {request later : AuthRequest} {pending : Multiset AuthRequest}
    (same : later.1.enrolling = request.1.enrolling) (code device : Uuid)
    (enrolling : Enrolling (request ::ₘ pending) code device) : Enrolling (later ::ₘ pending) code device := by
  rw [enrolling_cons] at enrolling ⊢
  rwa [same]

/-- What has been inserted is known, and was inserted for a code that is known. -/
structure Standing (world : AuthWorld) (memory : AuthMemory) : Prop where
  read : ∀ read ∈ memory.pairing, ∃ row ∈ world.codes, row.id = read.id
  enrolling : ∀ held ∈ memory.enrolling, ∃ enrolment ∈ world.enrolled, enrolment.code = held.1 ∧ enrolment.device = held.2

section Enrolment
variable {memory later : AuthMemory} {call : AuthCall} {after : AuthWorld}

/-- For a code that would still be taken there is no device yet. -/
theorem OneDevice.none_yet (one : OneDevice world ((memory, call) ::ₘ (others : Multiset AuthRequest)))
    (counted : Counted world) (idle : memory.enrolling = none) {code : Uuid} {row : DevicePairingCodeRow}
    (present : row ∈ world.codes) (same : row.id = code) (unconsumed : row.consumedAt = none)
    (apart : ∀ other ∈ others, ∀ enrolling ∈ other.1.enrolling, enrolling.1 ≠ code) :
    code ∉ world.enrolled.map Enrolment.code := by
  intro member
  obtain ⟨enrolment, listed, rfl⟩ := List.mem_map.mp member
  rcases one.together enrolment listed with ⟨other, stored, known, marked, _⟩ | enrolling
  · have equal : other = row := List.inj_on_of_nodup_map counted.ids stored present (known.trans same.symm)
    rw [equal, unconsumed] at marked
    cases marked
  · rcases enrolling_cons.mp enrolling with own | ⟨other, waits, holds⟩
    · cases idle.symm.trans own
    · exact apart other (Multiset.mem_coe.mp waits) _ holds rfl

theorem OneDevice.enrols (one : OneDevice world ((memory, call) ::ₘ (others : Multiset AuthRequest)))
    (counted : Counted world) (idle : memory.enrolling = none) {read : DevicePairingCodeRow} {device : Uuid}
    {now : Timestamp} (known : ∃ row ∈ world.codes, row.id = read.id)
    (taken : ∀ row ∈ world.codes, row.id = read.id →
      row.consumedAt = none ∧ now ≤ row.expiresAt ∧ row.attempts < row.maxAttempts)
    (apart : ∀ other ∈ others, ∀ enrolling ∈ other.1.enrolling, enrolling.1 ≠ read.id)
    (codes : after.codes = world.codes)
    (enrolled : after.enrolled = world.enrolled ++ [⟨read.id, device, now, world.failures.count read.id⟩])
    (enrolling : later.enrolling = some (read.id, device)) :
    OneDevice after ((later, call) ::ₘ (others : Multiset AuthRequest)) := by
  obtain ⟨row, present, same⟩ := known
  obtain ⟨unconsumed, expires, attempts⟩ := taken row present same
  constructor
  · rw [enrolled, List.map_append]
    refine List.nodup_append.mpr ⟨one.once, List.nodup_singleton _, ?_⟩
    rintro code member other fresh rfl
    cases List.mem_singleton.mp fresh
    exact one.none_yet counted idle present same unconsumed apart member
  · rw [enrolled, codes]
    intro enrolment member
    rcases List.mem_append.mp member with old | fresh
    · exact one.within enrolment old
    · cases List.mem_singleton.mp fresh
      refine ⟨row, present, same, expires, ?_⟩
      rw [counted.attempts row present, same] at attempts
      exact attempts
  · rw [enrolled, codes]
    intro enrolment member
    rcases List.mem_append.mp member with old | fresh
    · refine (one.together enrolment old).imp id fun held => ?_
      rcases enrolling_cons.mp held with own | waits
      · cases idle.symm.trans own
      · exact enrolling_cons.mpr (.inr waits)
    · cases List.mem_singleton.mp fresh
      exact .inr (enrolling_cons.mpr (.inl enrolling))

theorem consumedBy_consumed {codes : List DevicePairingCodeRow} {enrolment : Enrolment} (now : Timestamp)
    (known : ∃ row ∈ codes, row.id = enrolment.code) :
    ConsumedBy ((Auth.consumePairingCode enrolment.code enrolment.device now).run codes) enrolment := by
  obtain ⟨row, present, same⟩ := known
  have set : (Auth.consumePairingCode enrolment.code enrolment.device now).row row =
      { row with consumedAt := some now, consumedDeviceId := some enrolment.device } :=
    Table.Update.row_selected (decide_eq_true same)
  exact ⟨_, List.mem_map_of_mem present, by rw [set]; exact same, by rw [set]; rfl, by rw [set]⟩

/-- Consuming a code leaves the other codes as they are. -/
theorem ConsumedBy.apart {codes : List DevicePairingCodeRow} {enrolment : Enrolment} {id device : Uuid}
    {now : Timestamp} (consumed : ConsumedBy codes enrolment) (other : enrolment.code ≠ id) :
    ConsumedBy ((Auth.consumePairingCode id device now).run codes) enrolment := by
  obtain ⟨row, present, same, marked⟩ := consumed
  have kept : (Auth.consumePairingCode id device now).row row = row :=
    Table.Update.row_kept (decide_eq_false fun equal => other (same.symm.trans equal))
  have remains : row ∈ (Auth.consumePairingCode id device now).run codes :=
    List.mem_map.mpr ⟨row, present, kept⟩
  exact ⟨row, remains, same, marked⟩

theorem OneDevice.consumes (one : OneDevice world ((memory, call) ::ₘ (others : Multiset AuthRequest)))
    (standing : Standing world memory) {code device : Uuid} {now : Timestamp} (held : memory.enrolling = some (code, device))
    (codes : after.codes = (Auth.consumePairingCode code device now).run world.codes)
    (enrolled : after.enrolled = world.enrolled) :
    OneDevice after ((later, call) ::ₘ (others : Multiset AuthRequest)) := by
  obtain ⟨own, listed, rfl, rfl⟩ := standing.enrolling _ held
  constructor
  · rw [enrolled]
    exact one.once
  · rw [enrolled, codes]
    intro enrolment member
    obtain ⟨row, present, same, facts⟩ := one.within enrolment member
    refine ⟨_, List.mem_map_of_mem present, (consume_id own.code own.device now row).trans same, ?_⟩
    rw [consume_expiresAt, consume_maxAttempts]
    exact facts
  · rw [enrolled, codes]
    intro enrolment member
    obtain ⟨row, present, same, _⟩ := one.within enrolment member
    by_cases equal : enrolment.code = own.code
    · cases List.inj_on_of_nodup_map one.once member listed equal
      exact .inl (consumedBy_consumed now ⟨row, present, same⟩)
    · rcases one.together enrolment member with consumed | enrolling
      · exact .inl (consumed.apart equal)
      · rcases enrolling_cons.mp enrolling with mine | waits
        · exact absurd (congrArg Prod.fst (Option.some.inj (mine.symm.trans held))) equal
        · exact .inr (enrolling_cons.mpr (.inr waits))

theorem OneDevice.handled (one : OneDevice world ((memory, call) ::ₘ (others : Multiset AuthRequest)))
    (counted : Counted world) (standing : Standing world memory) (allowed : Allowed app memory call)
    (taken : (stillTaken app).step world others (memory, call) choice)
    (step : Handled choice world after memory later call) :
    OneDevice after ((later, call) ::ₘ (others : Multiset AuthRequest)) := by
  cases step with
  | kept codes enrolled _ enrolling =>
    exact one.carried enrolled (codes ▸ carries_refl world.codes) (enrolling_replaced enrolling)
  | minted id new _ codes enrolled _ enrolling =>
    refine one.carried enrolled ?_ (enrolling_replaced enrolling)
    rw [codes]
    exact fun row member => ⟨row.attempts, List.mem_append_left _ member⟩
  | failed id _ codes enrolled _ enrolling =>
    exact one.carried enrolled (codes ▸ carries_failed id world.codes) (enrolling_replaced enrolling)
  | enrols new asked works read pairing codes enrolled _ enrolling =>
    subst asked
    obtain ⟨still, apart⟩ := taken works read pairing
    exact one.enrols counted allowed.2 (standing.read read pairing) still apart codes enrolled enrolling
  | consumes id deviceId asked codes enrolled _ _ =>
    subst asked
    exact one.consumes standing allowed codes enrolled

end Enrolment

/-! ### Over whole runs -/

def opens (app : AuthApp) (task : AuthTask) (request : AuthRequest) : Prop :=
  request.1 = task.memory ∧ Allowed app request.1 request.2

structure Books (app : AuthApp) (world : AuthWorld) (pending : Multiset AuthRequest) : Prop where
  device : OneDevice world pending
  counted : Counted world
  allowed : ∀ request ∈ pending, Allowed app request.1 request.2
  standing : ∀ request ∈ pending, Standing world request.1

theorem Standing.handled {after : AuthWorld} {memory later other : AuthMemory} {call : AuthCall}
    (standing : Standing world other) (step : Handled choice world after memory later call) : Standing after other where
  read read holds := by
    obtain ⟨row, present, same⟩ := standing.read read holds
    obtain ⟨still, remains, unchanged⟩ := step.remains present
    exact ⟨still, remains, unchanged.trans same⟩
  enrolling held holds := by
    obtain ⟨enrolment, member, facts⟩ := standing.enrolling held holds
    refine ⟨enrolment, ?_, facts⟩
    cases step with
    | kept _ enrolled | minted _ _ _ _ enrolled | failed _ _ _ enrolled | consumes _ _ _ _ enrolled =>
      exact enrolled ▸ member
    | enrols _ _ _ _ _ _ enrolled => exact enrolled ▸ List.mem_append_left _ member

/-- What it reads, it reads of a code that is there. -/
theorem reads_learn (memory : AuthMemory) (call : AuthCall) :
    (learn memory call (performAuth app choice world (memory, call)).1).pairing = memory.pairing ∨
      ∃ row ∈ world.codes, (learn memory call (performAuth app choice world (memory, call)).1).pairing = some row := by
  cases call
  case getPairingCodeByHash codeHash =>
    simp only [performAuth, select]
    cases choice.storageFailure with
    | some error => exact .inl rfl
    | none =>
      cases found : Auth.getPairingCodeByHash codeHash world.codes with
      | none => exact .inl rfl
      | some row => exact .inr ⟨row, List.mem_of_find?_eq_some found, rfl⟩
  case getAuthSession sessionId =>
    left
    generalize (performAuth app choice world (memory, .getAuthSession sessionId)).1 = reply
    rcases reply with error | none | row <;> rfl
  case revokeAuthSession sessionId =>
    left
    generalize (performAuth app choice world (memory, .revokeAuthSession sessionId)).1 = reply
    rcases reply with error | done
    · rfl
    · simp only [learn]
      split <;> rfl
  all_goals
    left
    generalize (performAuth app choice world _).1 = reply
    first | rfl | (rcases reply with error | done <;> rfl)

theorem Standing.learn {memory : AuthMemory} {call : AuthCall} (standing : Standing world memory)
    (step : Handled choice world (performAuth app choice world (memory, call)).2 memory
      (learn memory call (performAuth app choice world (memory, call)).1) call) :
    Standing (performAuth app choice world (memory, call)).2
      (AuthDesk.learn memory call (performAuth app choice world (memory, call)).1) := by
  have still := standing.handled step
  constructor
  · rcases reads_learn memory call with same | ⟨row, present, same⟩
    · rw [same]
      exact still.read
    · rw [same]
      rintro read ⟨⟩
      exact step.remains present
  · cases step with
    | kept _ _ _ enrolling | minted _ _ _ _ _ _ enrolling | failed _ _ _ _ _ enrolling =>
      rw [enrolling]
      exact still.enrolling
    | enrols new _ _ read _ _ enrolled _ enrolling =>
      rw [enrolling]
      rintro held ⟨⟩
      exact ⟨_, enrolled ▸ List.mem_append_right _ (List.mem_singleton_self _), rfl, rfl⟩
    | consumes _ _ _ _ _ _ enrolling =>
      rw [enrolling]
      rintro held ⟨⟩

theorem Books.stepped {request : AuthRequest} (books : Books app world (request ::ₘ (others : Multiset AuthRequest)))
    (taken : (stillTaken app).step world others request choice) (later : AuthCall)
    (allowed : Allowed app (learn request.1 request.2 (performAuth app choice world request).1) later) :
    Books app (performAuth app choice world request).2
      ((learn request.1 request.2 (performAuth app choice world request).1, later) ::ₘ (others : Multiset AuthRequest)) := by
  obtain ⟨memory, call⟩ := request
  obtain ⟨device, counted, all, standing⟩ := books
  have first := Multiset.mem_cons_self (memory, call) (others : Multiset AuthRequest)
  have step := handled (all _ first) taken
  constructor
  · refine (device.handled counted (standing _ first) (all _ first) taken step).carried rfl (carries_refl _) ?_
    exact enrolling_replaced rfl
  · exact counted.handled (all _ first) (standing _ first).read step
  · intro other member
    rcases Multiset.mem_cons.mp member with rfl | waits
    · exact allowed
    · exact all other (Multiset.mem_cons_of_mem waits)
  · intro other member
    rcases Multiset.mem_cons.mp member with rfl | waits
    · exact (standing _ first).learn step
    · exact (standing other (Multiset.mem_cons_of_mem waits)).handled step

/-- A handler that has no code to consume goes. -/
theorem Books.leaves {request : AuthRequest} {pending : Multiset AuthRequest} (books : Books app world (request ::ₘ pending))
    (idle : request.1.enrolling = none) : Books app world pending where
  device := by
    refine books.device.carried rfl (carries_refl _) fun code device enrolling => ?_
    rcases enrolling_cons.mp enrolling with own | waits
    · cases idle.symm.trans own
    · exact waits
  counted := books.counted
  allowed other member := books.allowed other (Multiset.mem_cons_of_mem member)
  standing other member := books.standing other (Multiset.mem_cons_of_mem member)

theorem pairing : Invariant (desk app) (authDiscipline app).protocol (stillTaken app) (opens app) (Books app) where
  keeps := authTask_keeps app
  started world others task request _ opened books := by
    have fresh : request.1.pairing = none ∧ request.1.enrolling = none := by
      rw [opened.1]
      exact ⟨rfl, rfl⟩
    constructor
    · refine books.device.carried rfl (carries_refl _) fun code device waits => ?_
      exact enrolling_cons.mpr (.inr waits)
    · exact books.counted
    · intro other member
      rcases Multiset.mem_cons.mp member with rfl | old
      · exact opened.2
      · exact books.allowed other old
    · intro other member
      rcases Multiset.mem_cons.mp member with rfl | old
      · constructor
        · rw [fresh.1]
          rintro read ⟨⟩
        · rw [fresh.2]
          rintro held ⟨⟩
      · exact books.standing other old
  continued choice world others request later taken books next := by
    obtain ⟨memory, call⟩ := later
    obtain ⟨rfl, allowed⟩ := next
    exact books.stepped taken call allowed
  finished choice world others request taken books rests := by
    have idle := Discipline.ends_of_rests rests
    exact (books.stepped taken .clock trivial).leaves idle
  dropped world others request idle books := books.leaves idle

/-- Where every device is inserted for a code that would still be taken and that no other
handler has inserted one for, where failed uses are counted and codes consumed, each code
enrols one device, in time, and is consumed by it. -/
theorem one_device_for_each_code (app : AuthApp) {world : AuthWorld} {events : List (Event AuthChoice AuthTask)}
    (counted : Counted world) (unused : world.enrolled = [])
    (meets : (stillTaken app).RunMeets (desk app) (Pool.quiet world) events) :
    let reached := (desk app).run (Pool.quiet world) events
    OneDevice reached.world (reached.pending : Multiset AuthRequest) := by
  have quiet {fact : AuthRequest → Prop} : ∀ request ∈ (0 : Multiset AuthRequest), fact request :=
    fun _ impossible => absurd impossible (Multiset.notMem_zero _)
  have one : OneDevice world 0 := by
    constructor <;> simp [unused]
  exact (pairing.reached ⟨one, counted, quiet, quiet⟩ meets).device

end Steps

section Samples

def authSettings : AuthSettings := ⟨true, 900, 86400, 600, 5⟩

/-- A shop that has signed no token yet. -/
def pairingShop : AuthApp :=
  { storeId := 1, registerId := 10, auth := authSettings, hashSecret := fun secret => "sha256:" ++ secret
    sign := fun claims => claims.typ ++ ":" ++ claims.sid.toString, verify := fun _ => none }

def emptyDesk : AuthWorld := ⟨[], [], [], [], [], [], []⟩

def authChoice (now freshId : Nat) : AuthChoice := ⟨now, freshId, "123456", true, none, none⟩

def authSteps (count now freshId : Nat) : List (Event AuthChoice AuthTask) :=
  (List.range count).map fun step => .step 0 (authChoice now (freshId + step))

/-- The code 123456 is minted at 0, under the id 103. -/
def codeMinted : List (Event AuthChoice AuthTask) := .start (.mint ⟨1, "manager"⟩) :: authSteps 5 0 100

def pairs (deviceName : String) : Event AuthChoice AuthTask := .start (.pair ⟨"123456", 1, deviceName, none, none⟩)

def tabletPaired : List (Event AuthChoice AuthTask) := codeMinted ++ pairs "tablet" :: authSteps 7 60 200

/-- The phone looks the code up when the tablet has been inserted, before the code is consumed. -/
def pairedTogether : List (Event AuthChoice AuthTask) :=
  codeMinted ++ pairs "tablet" :: authSteps 6 60 200 ++ pairs "phone" :: authSteps 7 60 300 ++ authSteps 1 60 400

theorem emptyDesk_counted : Counted emptyDesk :=
  ⟨List.nodup_nil, (fun _ impossible => nomatch impossible), fun _ impossible => nomatch impossible⟩

theorem tablet_consumes_its_code :
    let reached := (desk pairingShop).run (Pool.quiet emptyDesk) tabletPaired
    reached.world.enrolled = [⟨.random 103, .random 202, 60, 0⟩] ∧
      OneDevice reached.world (reached.pending : Multiset AuthRequest) :=
  ⟨by decide +kernel, one_device_for_each_code pairingShop emptyDesk_counted rfl (by decide +kernel)⟩

/-- One code enrols the phone besides the tablet. -/
theorem code_enrols_two_devices :
    ¬∀ (world : AuthWorld) (events : List (Event AuthChoice AuthTask)), Counted world → world.enrolled = [] →
      let reached := (desk pairingShop).run (Pool.quiet world) events
      OneDevice reached.world (reached.pending : Multiset AuthRequest) := by
  intro all
  have once := (all emptyDesk pairedTogether emptyDesk_counted rfl).once
  revert once
  decide +kernel

end Samples
end ApexEdge.Proofs.PairingCodes
