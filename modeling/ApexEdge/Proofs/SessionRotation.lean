import ApexEdge.Proofs.AuthConduct

/-! A refresh replaces the session of its token by a successor. It reads the session, revokes
it by its id, and inserts the successor, in statements of their own. -/

namespace ApexEdge.Proofs.SessionRotation
open Library Payment Domain Storage Contracts Hub AuthDesk
open AuthConduct

/-- One of its tokens could still be used. -/
def Live (row : AuthSessionRow) (now : Timestamp) : Prop :=
  row.revokedAt = none ∧ (now ≤ row.accessExp ∨ now ≤ row.refreshExp)

instance (row : AuthSessionRow) (now : Timestamp) : Decidable (Live row now) :=
  inferInstanceAs (Decidable (row.revokedAt = none ∧ (now ≤ row.accessExp ∨ now ≤ row.refreshExp)))

/-- Each refresh token was accepted once at most, one session that descends from a sign-in is
live at most, and none once its associate has revoked the current one. -/
structure Linear (world : AuthWorld) : Prop where
  accepted : (world.issued.filterMap Issue.accepted).Nodup
  single : ∀ now, ∀ first ∈ world.sessions, ∀ second ∈ world.sessions, Live first now → Live second now →
    rootOf world.issued first.sessionId = rootOf world.issued second.sessionId → first = second
  ended : ∀ now, ∀ row ∈ world.sessions, Live row now →
    ∀ root ∈ rootOf world.issued row.sessionId, root ∉ world.signedOut

/-- A refresh finds the session that it revokes unrevoked, and no associate revokes a session
that is being replaced. -/
def unrotated : Condition AuthRequest AuthWorld AuthChoice where
  step world others request choice :=
    match request.2 with
    | .revokeAuthSession sessionId => choice.storageFailure = none →
      if request.1.task.isRefresh then ∀ row ∈ world.sessions, row.sessionId = sessionId → row.revokedAt = none
      else ∀ other ∈ others, other.1.rotating ≠ some sessionId
    | _ => True
  drop _ _ _ := True

instance (world : AuthWorld) (others : List AuthRequest) (request : AuthRequest) (choice : AuthChoice) :
    Decidable (unrotated.step world others request choice) := by
  obtain ⟨memory, call⟩ := request
  unfold unrotated
  dsimp only
  split <;> infer_instance

instance (world : AuthWorld) (others : List AuthRequest) (request : AuthRequest) :
    Decidable (unrotated.drop world others request) := isTrue trivial

/-! ### Descent -/

section Descent
variable {issued : List Issue} {session root : Uuid}

theorem rootOf_mem (found : rootOf issued session = some root) :
    ∃ issue ∈ issued, issue.session = session ∧ issue.root = root := by
  obtain ⟨issue, first, same⟩ := Option.map_eq_some_iff.mp found
  exact ⟨issue, List.mem_of_find?_eq_some first, by simpa using List.find?_some first, same⟩

theorem rootOf_issued (found : rootOf issued session = some root) : session ∈ issued.map Issue.session := by
  obtain ⟨issue, member, same, _⟩ := rootOf_mem found
  exact same ▸ List.mem_map_of_mem member

theorem rootOf_append {new : Issue} (found : rootOf issued session = some root) :
    rootOf (issued ++ [new]) session = some root := by
  obtain ⟨issue, first, same⟩ := Option.map_eq_some_iff.mp found
  unfold rootOf
  rw [List.find?_append, first]
  exact congrArg some same

theorem rootOf_new {new : Issue} (fresh : new.session ∉ issued.map Issue.session) :
    rootOf (issued ++ [new]) new.session = some new.root := by
  have none : issued.find? (·.session = new.session) = none := by
    refine List.find?_eq_none.mpr fun issue member => ?_
    intro same
    exact fresh (of_decide_eq_true same ▸ List.mem_map_of_mem member)
  unfold rootOf
  rw [List.find?_append, none]
  simp

theorem currentOf_new (new : Issue) : currentOf (issued ++ [new]) new.root = some new.session := by
  simp [currentOf]

theorem currentOf_other {new : Issue} (other : new.root ≠ root) :
    currentOf (issued ++ [new]) root = currentOf issued root := by
  simp [currentOf, List.filter_append, other]

end Descent

/-- What a statement does to sessions. -/
inductive Turned (choice : AuthChoice) (world after : AuthWorld) (memory later : AuthMemory) (call : AuthCall) : Prop where
  | kept (sessions : after.sessions = world.sessions) (issued : after.issued = world.issued)
      (signedOut : after.signedOut = world.signedOut) (rotating : later.rotating = memory.rotating)
  | issues (new : NewAuthSession) (asked : call = .createAuthSession new)
      (unused : new.sessionId ∉ world.sessions.map AuthSessionRow.sessionId)
      (sessions : after.sessions = world.sessions ++ [new.row])
      (issued : after.issued = world.issued ++ [issue world memory new])
      (signedOut : after.signedOut = world.signedOut) (rotating : later.rotating = none)
  | revokes (sessionId : Uuid) (asked : call = .revokeAuthSession sessionId) (works : choice.storageFailure = none)
      (sessions : after.sessions = (Auth.revokeAuthSession sessionId choice.now).run world.sessions)
      (issued : after.issued = world.issued) (signedOut : after.signedOut = world.signedOut ++ signsOut world memory sessionId)
      (rotating : later.rotating = if memory.task.isRefresh then some sessionId else memory.rotating)

section Steps
variable (app : AuthApp) (choice : AuthChoice) (world : AuthWorld)

theorem turned (memory : AuthMemory) (call : AuthCall) :
    Turned choice world (performAuth app choice world (memory, call)).2 memory
      (learn memory call (performAuth app choice world (memory, call)).1) call := by
  cases call
  case getPairingCodeByHash codeHash =>
    refine .kept rfl rfl rfl ?_
    generalize (performAuth app choice world (memory, .getPairingCodeByHash codeHash)).1 = reply
    rcases reply with error | none | row <;> rfl
  case createTrustedDevice new =>
    simp only [performAuth]
    split <;> exact .kept rfl rfl rfl rfl
  case getAuthSession sessionId =>
    refine .kept rfl rfl rfl ?_
    generalize (performAuth app choice world (memory, .getAuthSession sessionId)).1 = reply
    rcases reply with error | none | row <;> rfl
  case createAuthSession new =>
    simp only [performAuth, execute]
    cases choice.storageFailure with
    | some error => exact .kept rfl rfl rfl rfl
    | none =>
      by_cases used : world.sessions.any (·.sessionId = new.sessionId) = true
      · simp only [Auth.createAuthSession, used, if_true]
        exact .kept rfl rfl rfl rfl
      · simp only [Auth.createAuthSession, used]
        refine .issues new rfl ?_ rfl rfl rfl rfl
        intro member
        obtain ⟨row, present, same⟩ := List.mem_map.mp member
        exact used (List.any_eq_true.mpr ⟨row, present, by simpa using same⟩)
  case revokeAuthSession sessionId =>
    simp only [performAuth, execute]
    cases works : choice.storageFailure with
    | some error => exact .kept rfl rfl rfl rfl
    | none =>
      refine .revokes sessionId rfl works rfl rfl rfl ?_
      simp only [learn]
      split <;> rfl
  all_goals exact .kept rfl rfl rfl rfl

end Steps

/-! ### One line of sessions for each sign-in -/

/-- The session is the current one of its sign-in, which has not been ended. -/
def Current (world : AuthWorld) (session : Uuid) : Prop :=
  ∃ root, rootOf world.issued session = some root ∧ currentOf world.issued root = some session ∧ root ∉ world.signedOut

/-- It is still the current one, but revoked already. -/
def Replacing (world : AuthWorld) (session : Uuid) : Prop :=
  Current world session ∧ ∀ row ∈ world.sessions, row.sessionId = session → row.revokedAt ≠ none

/-- The sessions as they were issued. Only current ones are unrevoked, and those that have a
successor are not current. -/
structure Traced (app : AuthApp) (world : AuthWorld) : Prop where
  ids : world.sessions.map AuthSessionRow.sessionId = world.issued.map Issue.session
  once : (world.issued.map Issue.session).Nodup
  roots : ∀ issue ∈ world.issued, issue.root ∈ world.issued.map Issue.session
  left : ∀ root ∈ world.signedOut, root ∈ world.issued.map Issue.session
  unrevoked : ∀ row ∈ world.sessions, row.revokedAt = none → Current world row.sessionId
  succeeded : (world.issued.filterMap Issue.parent).Nodup
  superseded : ∀ parent ∈ world.issued.filterMap Issue.parent,
    ∃ root, rootOf world.issued parent = some root ∧ currentOf world.issued root ≠ some parent
  accepted : ∀ issue ∈ world.issued, ∀ token ∈ issue.accepted,
    ∃ claims, app.verify token = some claims ∧ issue.parent = some claims.sid

theorem Traced.linear {app : AuthApp} {world : AuthWorld} (traced : Traced app world) : Linear world where
  accepted := by
    have once := traced.succeeded
    have known := traced.accepted
    generalize world.issued = issued at once known
    -- a token stands for the session that it was issued with
    induction issued with
    | nil => exact List.nodup_nil
    | cons issue issued ih =>
      have rest : (issued.filterMap Issue.parent).Nodup := once.sublist ((List.sublist_cons_self _ _).filterMap _)
      have first := ih rest fun other member => known other (List.mem_cons_of_mem _ member)
      cases token : issue.accepted with
      | none => rwa [List.filterMap_cons_none token]
      | some token' =>
        rw [List.filterMap_cons_some token]
        refine List.nodup_cons.mpr ⟨fun again => ?_, first⟩
        obtain ⟨claims, verified, parent⟩ := known issue (List.mem_cons_self) token' token
        obtain ⟨other, member, same⟩ := List.mem_filterMap.mp again
        obtain ⟨claims', verified', parent'⟩ := known other (List.mem_cons_of_mem _ member) token' same
        cases verified.symm.trans verified'
        rw [List.filterMap_cons_some parent] at once
        exact (List.nodup_cons.mp once).1 (List.mem_filterMap.mpr ⟨other, member, parent'⟩)
  single now first member second member' live live' same := by
    obtain ⟨root, found, current, _⟩ := traced.unrevoked first member live.1
    obtain ⟨root', found', current', _⟩ := traced.unrevoked second member' live'.1
    rw [found, found'] at same
    cases same
    have once : (world.sessions.map AuthSessionRow.sessionId).Nodup := traced.ids ▸ traced.once
    exact List.inj_on_of_nodup_map once member member' (Option.some.inj (current.symm.trans current'))
  ended now row member live root found := by
    obtain ⟨root', found', _, there⟩ := traced.unrevoked row member live.1
    cases found'.symm.trans found
    exact there

section Lines
variable {app : AuthApp} {choice : AuthChoice} {world after : AuthWorld} {memory : AuthMemory}

theorem Traced.root_issued (traced : Traced app world) {session root : Uuid}
    (found : rootOf world.issued session = some root) : root ∈ world.issued.map Issue.session := by
  obtain ⟨issue, member, _, rfl⟩ := rootOf_mem found
  exact traced.roots issue member

/-! #### A session is issued -/

section Issuing
variable {new : NewAuthSession}

theorem own_root (none : memory.rotating = none) : (issue world memory new).root = new.sessionId := by
  simp [issue, none]

theorem issue_root {parent root : Uuid} (rotating : memory.rotating = some parent)
    (found : rootOf world.issued parent = some root) : (issue world memory new).root = root := by
  simp [issue, rotating, found]

/-- A session is about to be issued, for a sign-in or in the place of another one. -/
structure Issuing (app : AuthApp) (world : AuthWorld) (memory : AuthMemory) (new : NewAuthSession) : Prop where
  traced : Traced app world
  replacing : ∀ session ∈ memory.rotating, Replacing world session
  fresh : new.sessionId ∉ world.issued.map Issue.session

/-- It takes the place of the session that it replaces only. -/
theorem Issuing.replaces (issuing : Issuing app world memory new) {session root : Uuid}
    (found : rootOf world.issued session = some root) (current : currentOf world.issued root = some session)
    (same : (issue world memory new).root = root) : memory.rotating = some session := by
  cases rotating : memory.rotating with
  | none =>
    have own : new.sessionId = root := (own_root rotating).symm.trans same
    exact absurd (own ▸ issuing.traced.root_issued found) issuing.fresh
  | some parent =>
    obtain ⟨⟨root', found', current', _⟩, _⟩ := issuing.replacing parent rotating
    have equal : root' = root := (issue_root rotating found').symm.trans same
    rw [equal, current] at current'
    exact current'.symm

theorem Current.issued (issuing : Issuing app world memory new) {session : Uuid} (is : Current world session)
    (other : memory.rotating ≠ some session) (issued : after.issued = world.issued ++ [issue world memory new])
    (signedOut : after.signedOut = world.signedOut) : Current after session := by
  obtain ⟨root, found, current, there⟩ := is
  have apart : (issue world memory new).root ≠ root := fun same => other (issuing.replaces found current same)
  refine ⟨root, ?_, ?_, ?_⟩
  · rw [issued]
    exact rootOf_append found
  · rw [issued, currentOf_other apart]
    exact current
  · rwa [signedOut]

theorem Issuing.current (issuing : Issuing app world memory new)
    (issued : after.issued = world.issued ++ [issue world memory new]) (signedOut : after.signedOut = world.signedOut) :
    Current after new.sessionId := by
  refine ⟨(issue world memory new).root, ?_, ?_, ?_⟩
  · rw [issued]
    exact rootOf_new issuing.fresh
  · rw [issued]
    exact currentOf_new _
  · rw [signedOut]
    cases rotating : memory.rotating with
    | none =>
      rw [own_root rotating]
      exact fun member => issuing.fresh (issuing.traced.left _ member)
    | some parent =>
      obtain ⟨⟨root, found, _, there⟩, _⟩ := issuing.replacing parent rotating
      rwa [issue_root rotating found]

/-- Another session that is being replaced meanwhile. -/
theorem Replacing.issued (issuing : Issuing app world memory new) {session : Uuid} (is : Replacing world session)
    (other : memory.rotating ≠ some session) (sessions : after.sessions = world.sessions ++ [new.row])
    (issued : after.issued = world.issued ++ [issue world memory new]) (signedOut : after.signedOut = world.signedOut) :
    Replacing after session := by
  refine ⟨is.1.issued issuing other issued signedOut, ?_⟩
  rw [sessions]
  intro row member same
  rcases List.mem_append.mp member with old | added
  · exact is.2 row old same
  · cases List.mem_singleton.mp added
    obtain ⟨⟨root, found, _⟩, _⟩ := is
    have named : new.sessionId = session := same
    exact absurd (named ▸ rootOf_issued found) issuing.fresh

/-- A session that was replaced before, or is replaced now. -/
theorem Issuing.superseded (issuing : Issuing app world memory new)
    (issued : after.issued = world.issued ++ [issue world memory new]) {session root : Uuid}
    (found : rootOf world.issued session = some root)
    (passed : currentOf world.issued root ≠ some session ∨ memory.rotating = some session) :
    ∃ root, rootOf after.issued session = some root ∧ currentOf after.issued root ≠ some session := by
  refine ⟨root, by rw [issued]; exact rootOf_append found, ?_⟩
  rw [issued]
  by_cases same : (issue world memory new).root = root
  · rw [← same, currentOf_new]
    rintro ⟨⟩
    exact issuing.fresh (rootOf_issued found)
  · rw [currentOf_other same]
    rcases passed with passed | rotating
    · exact passed
    · exact fun _ => same (issue_root rotating found)

theorem Issuing.root_known (issuing : Issuing app world memory new)
    (issued : after.issued = world.issued ++ [issue world memory new]) {given : Issue} (member : given ∈ after.issued) :
    given.root ∈ after.issued.map Issue.session := by
  rw [issued, List.map_append]
  rw [issued] at member
  rcases List.mem_append.mp member with old | added
  · exact List.mem_append_left _ (issuing.traced.roots given old)
  · cases List.mem_singleton.mp added
    cases rotating : memory.rotating with
    | none =>
      rw [own_root rotating]
      exact List.mem_append_right _ (List.mem_singleton_self _)
    | some parent =>
      obtain ⟨⟨root, found, _⟩, _⟩ := issuing.replacing parent rotating
      rw [issue_root rotating found]
      exact List.mem_append_left _ (issuing.traced.root_issued found)

theorem accepted_issue (issues : Issues app memory) {token : String}
    (shown : (issue world memory new).accepted = some token) :
    ∃ claims, app.verify token = some claims ∧ (issue world memory new).parent = some claims.sid := by
  unfold Issues at issues
  cases task : memory.task with
  | refresh refreshToken =>
    simp only [task] at issues
    obtain ⟨claims, verified, rotating⟩ := issues
    have same : refreshToken = token := by simpa [issue, acceptedToken, task] using shown
    exact ⟨claims, same ▸ verified, rotating⟩
  | _ => simp [issue, acceptedToken, task] at shown

theorem Traced.issued (issuing : Issuing app world memory new) (issues : Issues app memory)
    (sessions : after.sessions = world.sessions ++ [new.row])
    (issued : after.issued = world.issued ++ [issue world memory new]) (signedOut : after.signedOut = world.signedOut) :
    Traced app after := by
  have traced := issuing.traced
  constructor
  · rw [sessions, issued, List.map_append, List.map_append, traced.ids]
    rfl
  · rw [issued, List.map_append]
    refine List.nodup_append.mpr ⟨traced.once, List.nodup_singleton _, ?_⟩
    rintro session member other added rfl
    cases List.mem_singleton.mp added
    exact issuing.fresh member
  · exact fun given member => issuing.root_known issued member
  · rw [signedOut, issued, List.map_append]
    exact fun root member => List.mem_append_left _ (traced.left root member)
  · intro row member unrevoked
    rw [sessions] at member
    rcases List.mem_append.mp member with old | added
    · refine (traced.unrevoked row old unrevoked).issued issuing ?_ issued signedOut
      exact fun rotating => (issuing.replacing _ rotating).2 row old rfl unrevoked
    · cases List.mem_singleton.mp added
      exact issuing.current issued signedOut
  · rw [issued, List.filterMap_append]
    refine List.nodup_append.mpr ⟨traced.succeeded, ?_, ?_⟩
    · cases rotating : memory.rotating <;> simp [issue, rotating]
    · rintro parent member other added rfl
      have rotating : memory.rotating = some parent := by simpa [issue] using added
      obtain ⟨root, found, passed⟩ := traced.superseded parent member
      obtain ⟨⟨root', found', still, _⟩, _⟩ := issuing.replacing parent rotating
      cases found.symm.trans found'
      exact passed still
  · intro parent member
    rw [issued, List.filterMap_append] at member
    rcases List.mem_append.mp member with old | added
    · obtain ⟨root, found, passed⟩ := traced.superseded parent old
      exact issuing.superseded issued found (.inl passed)
    · have rotating : memory.rotating = some parent := by simpa [issue] using added
      obtain ⟨⟨root, found, _⟩, _⟩ := issuing.replacing parent rotating
      exact issuing.superseded issued found (.inr rotating)
  · intro given member token shown
    rw [issued] at member
    rcases List.mem_append.mp member with old | added
    · exact traced.accepted given old token shown
    · cases List.mem_singleton.mp added
      exact accepted_issue issues shown

end Issuing

/-! #### A session is revoked -/

section Revoking
variable {sessionId : Uuid} {now : Timestamp}

theorem revoke_session (row : AuthSessionRow) :
    ((Auth.revokeAuthSession sessionId now).row row).sessionId = row.sessionId :=
  (Auth.revokeAuthSession sessionId now).row_column AuthSessionRow.sessionId (fun _ => rfl) row

theorem revoke_ids (rows : List AuthSessionRow) :
    ((Auth.revokeAuthSession sessionId now).run rows).map AuthSessionRow.sessionId = rows.map AuthSessionRow.sessionId := by
  simp only [Table.Update.run, List.map_map, Function.comp_def, revoke_session]

theorem unrevoked_row {row : AuthSessionRow} (unrevoked : ((Auth.revokeAuthSession sessionId now).row row).revokedAt = none) :
    row.sessionId ≠ sessionId ∧ row.revokedAt = none := by
  rcases (Auth.revokeAuthSession sessionId now).row_cases row with ⟨_, set⟩ | ⟨other, same⟩
  · rw [set] at unrevoked
    cases unrevoked
  · rw [same] at unrevoked
    exact ⟨of_decide_eq_false other, unrevoked⟩

theorem mem_signsOut {root : Uuid} (member : root ∈ signsOut world memory sessionId) :
    memory.task.isRefresh = false ∧ rootOf world.issued sessionId = some root ∧
      currentOf world.issued root = some sessionId := by
  unfold signsOut at member
  split at member
  · cases member
  next other =>
    obtain ⟨found, current⟩ := List.mem_filter.mp member
    exact ⟨by simpa using other, Option.mem_toList.mp found, of_decide_eq_true current⟩

theorem Current.revoked {session : Uuid} (is : Current world session) (issued : after.issued = world.issued)
    (signedOut : after.signedOut = world.signedOut ++ signsOut world memory sessionId)
    (other : memory.task.isRefresh = false → session ≠ sessionId) : Current after session := by
  obtain ⟨root, found, current, there⟩ := is
  refine ⟨root, issued ▸ found, issued ▸ current, ?_⟩
  rw [signedOut]
  intro member
  rcases List.mem_append.mp member with old | added
  · exact there old
  · obtain ⟨associate, _, last⟩ := mem_signsOut added
    exact other associate (Option.some.inj (current.symm.trans last))

theorem Replacing.revoked {session : Uuid} (is : Replacing world session)
    (sessions : after.sessions = (Auth.revokeAuthSession sessionId now).run world.sessions)
    (issued : after.issued = world.issued)
    (signedOut : after.signedOut = world.signedOut ++ signsOut world memory sessionId)
    (other : memory.task.isRefresh = false → session ≠ sessionId) : Replacing after session := by
  refine ⟨is.1.revoked issued signedOut other, ?_⟩
  rw [sessions]
  intro row member same unrevoked
  obtain ⟨old, present, rfl⟩ := List.mem_map.mp member
  exact is.2 old present ((revoke_session old).symm.trans same) (unrevoked_row unrevoked).2

/-- A refresh revokes the session that it is going to replace. -/
theorem Current.replacing (is : Current world sessionId) (refresh : memory.task.isRefresh = true)
    (sessions : after.sessions = (Auth.revokeAuthSession sessionId now).run world.sessions)
    (issued : after.issued = world.issued)
    (signedOut : after.signedOut = world.signedOut ++ signsOut world memory sessionId) : Replacing after sessionId := by
  refine ⟨is.revoked issued signedOut fun other => absurd (refresh.symm.trans other) (by decide), ?_⟩
  rw [sessions]
  intro row member same unrevoked
  obtain ⟨old, present, rfl⟩ := List.mem_map.mp member
  exact (unrevoked_row unrevoked).1 ((revoke_session old).symm.trans same)

theorem Traced.revoked (traced : Traced app world)
    (sessions : after.sessions = (Auth.revokeAuthSession sessionId now).run world.sessions)
    (issued : after.issued = world.issued)
    (signedOut : after.signedOut = world.signedOut ++ signsOut world memory sessionId) : Traced app after where
  ids := by rw [sessions, issued, revoke_ids]; exact traced.ids
  once := issued ▸ traced.once
  roots := issued ▸ traced.roots
  left := by
    rw [signedOut, issued]
    intro root member
    rcases List.mem_append.mp member with old | added
    · exact traced.left root old
    · exact traced.root_issued (mem_signsOut added).2.1
  unrevoked := by
    rw [sessions]
    intro row member unrevoked
    obtain ⟨old, present, rfl⟩ := List.mem_map.mp member
    obtain ⟨other, before⟩ := unrevoked_row unrevoked
    rw [revoke_session]
    exact (traced.unrevoked old present before).revoked issued signedOut fun _ => other
  succeeded := issued ▸ traced.succeeded
  superseded := issued ▸ traced.superseded
  accepted := issued ▸ traced.accepted

end Revoking

/-! ### Over whole runs -/

def replacedBy (request : AuthRequest) : Option Uuid := request.1.rotating

def opens (app : AuthApp) (task : AuthTask) (request : AuthRequest) : Prop :=
  request.1 = task.memory ∧ Allowed app request.1 request.2

/-- What a handler has found is there, and what it replaces is the current session. -/
structure Informed (app : AuthApp) (world : AuthWorld) (request : AuthRequest) : Prop where
  allowed : Allowed app request.1 request.2
  found : ∀ session ∈ request.1.session, session ∈ world.issued.map Issue.session
  replacing : ∀ session ∈ request.1.rotating, Replacing world session

structure Turns (app : AuthApp) (world : AuthWorld) (pending : Multiset AuthRequest) : Prop where
  traced : Traced app world
  apart : (pending.filterMap replacedBy).Nodup
  informed : ∀ request ∈ pending, Informed app world request

/-- What it finds, it finds among the sessions. -/
theorem found_learn (app : AuthApp) (choice : AuthChoice) (world : AuthWorld) (memory : AuthMemory) (call : AuthCall) :
    (learn memory call (performAuth app choice world (memory, call)).1).session = memory.session ∨
      ∃ row ∈ world.sessions, (learn memory call (performAuth app choice world (memory, call)).1).session = some row.sessionId := by
  cases call
  case getAuthSession sessionId =>
    simp only [performAuth, select]
    cases choice.storageFailure with
    | some error => exact .inl rfl
    | none =>
      cases found : Auth.getAuthSession sessionId world.sessions with
      | none => exact .inl rfl
      | some row =>
        have same : row.sessionId = sessionId := by simpa using List.find?_some found
        exact .inr ⟨row, List.mem_of_find?_eq_some found, congrArg some same.symm⟩
  case getPairingCodeByHash codeHash =>
    left
    generalize (performAuth app choice world (memory, .getPairingCodeByHash codeHash)).1 = reply
    rcases reply with error | none | row <;> rfl
  case revokeAuthSession sessionId =>
    left
    generalize (performAuth app choice world (memory, .revokeAuthSession sessionId)).1 = reply
    rcases reply with error | done
    · rfl
    · simp only [learn]
      split <;> rfl
  all_goals
    left
    generalize (performAuth app choice world _).1 = reply
    first | rfl | (rcases reply with error | done <;> rfl)

theorem Replacing.kept {session : Uuid} (is : Replacing world session) (sessions : after.sessions = world.sessions)
    (issued : after.issued = world.issued) (signedOut : after.signedOut = world.signedOut) : Replacing after session := by
  obtain ⟨⟨root, found, current, there⟩, revoked⟩ := is
  exact ⟨⟨root, issued ▸ found, issued ▸ current, signedOut ▸ there⟩, sessions ▸ revoked⟩

theorem Traced.kept (traced : Traced app world) (sessions : after.sessions = world.sessions)
    (issued : after.issued = world.issued) (signedOut : after.signedOut = world.signedOut) : Traced app after := by
  obtain ⟨ids, once, roots, left, unrevoked, succeeded, superseded, accepted⟩ := traced
  have current : ∀ row ∈ after.sessions, row.revokedAt = none → Current after row.sessionId := by
    rw [sessions]
    intro row member before
    obtain ⟨root, found, current, there⟩ := unrevoked row member before
    exact ⟨root, issued ▸ found, issued ▸ current, signedOut ▸ there⟩
  exact ⟨by rw [sessions, issued]; exact ids, issued ▸ once, issued ▸ roots, by rw [signedOut, issued]; exact left,
    current, issued ▸ succeeded, issued ▸ superseded, issued ▸ accepted⟩

theorem Turned.issued_grows {later : AuthMemory} {call : AuthCall} (step : Turned choice world after memory later call)
    {session : Uuid} (member : session ∈ world.issued.map Issue.session) : session ∈ after.issued.map Issue.session := by
  cases step with
  | kept _ issued | revokes _ _ _ _ issued => exact issued ▸ member
  | issues _ _ _ _ issued =>
    rw [issued, List.map_append]
    exact List.mem_append_left _ member

section Step
variable {others : List AuthRequest} {call : AuthCall}

theorem apart_cons {request : AuthRequest} {pending : Multiset AuthRequest}
    (apart : ((request ::ₘ pending).filterMap replacedBy).Nodup) {session : Uuid}
    (replaces : replacedBy request = some session) : session ∉ pending.filterMap replacedBy := by
  rw [Multiset.filterMap_cons_some _ _ _ replaces] at apart
  exact (Multiset.nodup_cons.mp apart).1

theorem apart_others {request : AuthRequest} {pending : Multiset AuthRequest}
    (apart : ((request ::ₘ pending).filterMap replacedBy).Nodup) : (pending.filterMap replacedBy).Nodup := by
  rw [filterMap_pending] at apart
  exact Multiset.nodup_of_le (Multiset.le_add_left _ _) apart

theorem Turns.issuing (turns : Turns app world ((memory, call) ::ₘ (others : Multiset AuthRequest))) {new : NewAuthSession}
    (unused : new.sessionId ∉ world.sessions.map AuthSessionRow.sessionId) : Issuing app world memory new :=
  ⟨turns.traced, (turns.informed _ (Multiset.mem_cons_self _ _)).replacing, turns.traced.ids ▸ unused⟩

/-- The session that a refresh revokes is the current one. -/
theorem Turns.unrevoked (turns : Turns app world ((memory, call) ::ₘ (others : Multiset AuthRequest))) {sessionId : Uuid}
    (asked : call = .revokeAuthSession sessionId) (works : choice.storageFailure = none)
    (refresh : memory.task.isRefresh = true) (meets : unrotated.step world others (memory, call) choice) :
    ∃ row ∈ world.sessions, row.sessionId = sessionId ∧ row.revokedAt = none := by
  subst asked
  obtain ⟨allowed, found, _⟩ := turns.informed _ (Multiset.mem_cons_self _ _)
  have meets : ∀ row ∈ world.sessions, row.sessionId = sessionId → row.revokedAt = none := by
    have chosen := meets works
    rwa [if_pos refresh] at chosen
  cases task : memory.task with
  | refresh refreshToken =>
    simp only [Allowed, Revokes, task] at allowed
    obtain ⟨_, _, _, session⟩ := allowed
    have listed : sessionId ∈ world.sessions.map AuthSessionRow.sessionId := turns.traced.ids ▸ found sessionId session
    obtain ⟨row, member, same⟩ := List.mem_map.mp listed
    exact ⟨row, member, same, meets row member same⟩
  | _ => simp [task, AuthTask.isRefresh] at refresh

theorem Turns.traced_step {later : AuthMemory} (turns : Turns app world ((memory, call) ::ₘ (others : Multiset AuthRequest)))
    (step : Turned choice world after memory later call) : Traced app after := by
  cases step with
  | kept sessions issued signedOut => exact turns.traced.kept sessions issued signedOut
  | issues new asked unused sessions issued signedOut =>
    have issues := (turns.informed _ (Multiset.mem_cons_self _ _)).allowed
    subst asked
    exact Traced.issued (turns.issuing unused) issues sessions issued signedOut
  | revokes sessionId _ _ sessions issued signedOut => exact turns.traced.revoked sessions issued signedOut

theorem Turns.others_step {later : AuthMemory} (turns : Turns app world ((memory, call) ::ₘ (others : Multiset AuthRequest)))
    (meets : unrotated.step world others (memory, call) choice) (step : Turned choice world after memory later call)
    {other : AuthRequest} (waits : other ∈ others) : Informed app after other := by
  have informed := turns.informed other (Multiset.mem_cons_of_mem (Multiset.mem_coe.mpr waits))
  refine ⟨informed.allowed, fun session holds => step.issued_grows (informed.found session holds), ?_⟩
  intro session replaces
  have is := informed.replacing session replaces
  cases step with
  | kept sessions issued signedOut => exact is.kept sessions issued signedOut
  | issues new _ unused sessions issued signedOut =>
    refine is.issued (turns.issuing unused) (fun same => ?_) sessions issued signedOut
    exact apart_cons turns.apart same ((Multiset.mem_filterMap _ _).mpr ⟨other, Multiset.mem_coe.mpr waits, replaces⟩)
  | revokes sessionId asked works sessions issued signedOut =>
    subst asked
    refine is.revoked sessions issued signedOut fun associate same => ?_
    have apart := meets works
    simp only [associate] at apart
    exact apart other waits (same ▸ replaces)

theorem Turns.own_step (turns : Turns app world ((memory, call) ::ₘ (others : Multiset AuthRequest)))
    (meets : unrotated.step world others (memory, call) choice) {next : AuthCall}
    (allowed : Allowed app (learn memory call (performAuth app choice world (memory, call)).1) next) :
    Informed app (performAuth app choice world (memory, call)).2
      (learn memory call (performAuth app choice world (memory, call)).1, next) := by
  have step := turned app choice world memory call
  have informed := turns.informed _ (Multiset.mem_cons_self _ _)
  refine ⟨allowed, ?_, ?_⟩
  · intro session holds
    apply step.issued_grows
    rcases found_learn app choice world memory call with same | ⟨row, member, same⟩
    · exact informed.found session (same ▸ holds)
    · cases Option.some.inj (same.symm.trans holds)
      exact turns.traced.ids ▸ List.mem_map_of_mem member
  · intro session replaces
    cases step with
    | kept sessions issued signedOut rotating =>
      exact (informed.replacing session (rotating ▸ replaces)).kept sessions issued signedOut
    | issues _ _ _ _ _ _ rotating => cases rotating.symm.trans replaces
    | revokes sessionId asked works sessions issued signedOut rotating =>
      cases refresh : memory.task.isRefresh with
      | true =>
        simp only [refresh, if_true] at rotating
        cases Option.some.inj (rotating.symm.trans replaces)
        obtain ⟨row, member, rfl, unrevoked⟩ := turns.unrevoked asked works refresh meets
        exact (turns.traced.unrevoked row member unrevoked).replacing refresh sessions issued signedOut
      | false =>
        simp only [refresh] at rotating
        have before : memory.rotating = some session := rotating.symm.trans replaces
        subst asked
        have allowed := informed.allowed
        cases task : memory.task <;> simp_all [Allowed, Revokes, AuthTask.isRefresh]

theorem Turns.apart_step {later : AuthMemory} {next : AuthCall}
    (turns : Turns app world ((memory, call) ::ₘ (others : Multiset AuthRequest)))
    (meets : unrotated.step world others (memory, call) choice) (step : Turned choice world after memory later call) :
    (((later, next) ::ₘ (others : Multiset AuthRequest)).filterMap replacedBy).Nodup := by
  have apart := turns.apart
  have same (rotating : later.rotating = memory.rotating) :
      (((later, next) ::ₘ (others : Multiset AuthRequest)).filterMap replacedBy).Nodup := by
    rw [filterMap_pending] at apart ⊢
    simpa only [replacedBy, rotating] using apart
  cases step with
  | kept _ _ _ rotating => exact same rotating
  | issues _ _ _ _ _ _ rotating =>
    rw [Multiset.filterMap_cons_none _ _ (show replacedBy (later, next) = none from rotating)]
    exact apart_others apart
  | revokes sessionId asked works _ _ _ rotating =>
    cases refresh : memory.task.isRefresh with
    | true =>
      simp only [refresh, if_true] at rotating
      rw [Multiset.filterMap_cons_some _ _ _ (show replacedBy (later, next) = some sessionId from rotating)]
      refine Multiset.nodup_cons.mpr ⟨fun held => ?_, apart_others apart⟩
      -- what another one replaces is revoked already
      obtain ⟨row, member, named, unrevoked⟩ := turns.unrevoked asked works refresh meets
      obtain ⟨other, waits, replaces⟩ := (Multiset.mem_filterMap _ _).mp held
      have is := (turns.informed other (Multiset.mem_cons_of_mem waits)).replacing sessionId replaces
      exact is.2 row member named unrevoked
    | false =>
      simp only [refresh] at rotating
      exact same rotating

theorem Turns.stepped (turns : Turns app world ((memory, call) ::ₘ (others : Multiset AuthRequest)))
    (meets : unrotated.step world others (memory, call) choice) (next : AuthCall)
    (allowed : Allowed app (learn memory call (performAuth app choice world (memory, call)).1) next) :
    Turns app (performAuth app choice world (memory, call)).2
      ((learn memory call (performAuth app choice world (memory, call)).1, next) ::ₘ (others : Multiset AuthRequest)) := by
  have step := turned app choice world memory call
  refine ⟨turns.traced_step step, turns.apart_step meets step, fun other member => ?_⟩
  rcases Multiset.mem_cons.mp member with rfl | waits
  · exact turns.own_step meets allowed
  · exact turns.others_step meets step (Multiset.mem_coe.mp waits)

end Step

theorem Turns.leaves {request : AuthRequest} {pending : Multiset AuthRequest} (turns : Turns app world (request ::ₘ pending)) :
    Turns app world pending :=
  ⟨turns.traced, apart_others turns.apart, fun other member => turns.informed other (Multiset.mem_cons_of_mem member)⟩

theorem rotation : Invariant (desk app) (authDiscipline app).protocol unrotated (opens app) (Turns app) where
  keeps := authTask_keeps app
  started world others task request _ opened turns := by
    obtain ⟨memory, call⟩ := request
    obtain ⟨rfl, allowed⟩ := opened
    refine ⟨turns.traced, ?_, fun other member => ?_⟩
    · rw [Multiset.filterMap_cons_none _ _ (show replacedBy (task.memory, call) = none from rfl)]
      exact turns.apart
    · rcases Multiset.mem_cons.mp member with rfl | old
      · exact ⟨allowed, (fun session impossible => by cases impossible), fun session impossible => by cases impossible⟩
      · exact turns.informed other old
  continued choice world others request later meets turns next := by
    obtain ⟨memory, call⟩ := later
    obtain ⟨rfl, allowed⟩ := next
    exact turns.stepped meets call allowed
  finished choice world others request meets turns _ := (turns.stepped meets .clock trivial).leaves
  dropped world others request _ turns := turns.leaves

/-- Where a refresh finds the session that it revokes unrevoked, and no associate revokes a
session that is being replaced, sessions follow each other in a line. -/
theorem rotation_is_linear (app : AuthApp) {world : AuthWorld} {events : List (Event AuthChoice AuthTask)}
    (traced : Traced app world) (meets : unrotated.RunMeets (desk app) (Pool.quiet world) events) :
    Linear ((desk app).run (Pool.quiet world) events).world := by
  have none : ∀ request ∈ (0 : Multiset AuthRequest), Informed app world request :=
    fun _ impossible => absurd impossible (Multiset.notMem_zero _)
  exact (rotation.reached ⟨traced, Multiset.nodup_zero, none⟩ meets).traced.linear

end Lines

section Samples

/-- What the shop signs at 60: tokens for Ada's sessions on the tablet. -/
def signedClaims : List SessionClaims :=
  [301, 302, 303].flatMap fun sid =>
    [⟨"ada", .random sid, 5, 1, "access", 960, 60⟩, ⟨"ada", .random sid, 5, 1, "refresh", 86460, 60⟩]

def tokenOf (claims : SessionClaims) : String := claims.typ ++ ":" ++ claims.sid.toString

def tabletShop : AuthApp :=
  { storeId := 1, registerId := 10, auth := ⟨true, 900, 86400, 300, 5⟩, hashSecret := fun secret => "sha256:" ++ secret
    sign := tokenOf, verify := fun token => signedClaims.find? fun claims => tokenOf claims = token }

def tabletDesk : AuthWorld :=
  ⟨[], [⟨5, 1, some 10, "tablet", none, "sha256:secret", "active", 0, none⟩], [], [], [], [], []⟩

/-- Steps at 60, in which the fresh ids are the one given. -/
def sessionSteps (count freshId : Nat) : List (Event AuthChoice AuthTask) :=
  List.replicate count (.step 0 ⟨60, freshId, "", false, some ⟨"ada", 1, none, none⟩, none⟩)

/-- Ada signs in on the tablet, into the session 301. -/
def signedIn : List (Event AuthChoice AuthTask) := .start (.exchange ⟨"external", 5, "secret"⟩) :: sessionSteps 6 301

def refreshes : Event AuthChoice AuthTask := .start (.refresh "refresh:301")

def signsOutOf (accessToken : String) : Event AuthChoice AuthTask := .start (.revoke accessToken)

def refreshedOnce : List (Event AuthChoice AuthTask) :=
  signedIn ++ refreshes :: sessionSteps 8 302 ++ signsOutOf "access:302" :: sessionSteps 5 0

/-- Two refreshes of one token have read its session before one of them revokes it. -/
def refreshedTwice : List (Event AuthChoice AuthTask) :=
  signedIn ++ refreshes :: sessionSteps 3 303 ++ refreshes :: sessionSteps 8 302 ++ sessionSteps 5 303

/-- Ada signs out of her session between its revocation by a refresh and its successor. -/
def signedOutMeanwhile : List (Event AuthChoice AuthTask) :=
  signedIn ++ signsOutOf "access:301" :: sessionSteps 4 0 ++ refreshes :: sessionSteps 4 0 ++
    .step 1 ⟨60, 0, "", false, none, none⟩ :: sessionSteps 4 302

def sessionsBy (events : List (Event AuthChoice AuthTask)) : AuthWorld :=
  ((desk tabletShop).run (Pool.quiet tabletDesk) events).world

theorem tabletDesk_traced : Traced tabletShop tabletDesk := by
  constructor <;> simp [tabletDesk]

theorem refreshed_session_ends :
    (sessionsBy refreshedOnce).sessions.map (fun row => (row.sessionId, row.revokedAt)) = [(301, some 60), (302, some 60)] ∧
      Linear (sessionsBy refreshedOnce) :=
  ⟨by decide +kernel, rotation_is_linear tabletShop tabletDesk_traced (by decide +kernel)⟩

/-- One refresh token is accepted twice and leaves two live sessions, and a session survives
that its associate has signed out. -/
theorem sessions_fork :
    (¬∀ (world : AuthWorld) (events : List (Event AuthChoice AuthTask)), Traced tabletShop world →
      let after := ((desk tabletShop).run (Pool.quiet world) events).world
      (after.issued.filterMap Issue.accepted).Nodup ∨
        (after.sessions.filter fun row => Live row 70 ∧ rootOf after.issued row.sessionId = some 301).length ≤ 1) ∧
    ¬∀ (world : AuthWorld) (events : List (Event AuthChoice AuthTask)), Traced tabletShop world →
      let after := ((desk tabletShop).run (Pool.quiet world) events).world
      ∀ row ∈ after.sessions, Live row 70 → ∀ root ∈ rootOf after.issued row.sessionId, root ∉ after.signedOut := by
  constructor
  · intro all
    have once := all tabletDesk refreshedTwice tabletDesk_traced
    revert once
    decide +kernel
  · intro all
    have ended := all tabletDesk signedOutMeanwhile tabletDesk_traced
    revert ended
    decide +kernel

end Samples
end ApexEdge.Proofs.SessionRotation
