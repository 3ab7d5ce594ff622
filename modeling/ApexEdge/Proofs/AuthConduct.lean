import ApexEdge.Hub.AuthDesk

/-! What the handlers of the authentication desk have learnt when they enrol a device, consume
a code, or issue or revoke a session. -/

namespace ApexEdge.Proofs.AuthConduct
open Library Payment Domain Storage Contracts Hub AuthDesk
open Discipline (follows_ask follows_andThen follows_orThrow)

/-- A sign-in issues a session of its own, and a refresh the successor of the token's session,
which it has revoked. -/
def Issues (app : AuthApp) (memory : AuthMemory) : Prop :=
  match memory.task with
  | .exchange _ => memory.rotating = none
  | .refresh refreshToken => ∃ claims, app.verify refreshToken = some claims ∧ memory.rotating = some claims.sid
  | _ => False

/-- A refresh revokes the session of its token, which it has found. -/
def Revokes (app : AuthApp) (memory : AuthMemory) (sessionId : Uuid) : Prop :=
  match memory.task with
  | .refresh refreshToken => ∃ claims, app.verify refreshToken = some claims ∧ claims.sid = sessionId ∧
      memory.session = some sessionId
  | .revoke _ => memory.rotating = none
  | _ => False

def Allowed (app : AuthApp) (memory : AuthMemory) (call : AuthCall) : Prop :=
  match call with
  | .incrementPairingCodeAttempts id => ∃ row, memory.pairing = some row ∧ row.id = id
  | .createTrustedDevice _ => memory.pairing.isSome ∧ memory.enrolling = none
  | .consumePairingCode id deviceId => memory.enrolling = some (id, deviceId)
  | .createAuthSession _ => Issues app memory
  | .revokeAuthSession sessionId => Revokes app memory sessionId
  | _ => True

def authDiscipline (app : AuthApp) : Discipline AuthCall AuthCall.Reply AuthMemory :=
  ⟨learn, Allowed app, fun memory => memory.enrolling = none⟩

section Handlers
variable {app : AuthApp} {memory : AuthMemory}

/-- What a handler may end with. -/
def Done {α : Type} (later : AuthMemory) (_ : α) : Prop := later.enrolling = none

theorem createPairingCode_follows (req : AuthCreatePairingCodeRequest) (idle : memory.enrolling = none) :
    (authDiscipline app).Follows Done memory (createPairingCode app req) := by
  unfold createPairingCode
  split
  · exact idle
  · apply follows_andThen
    refine follows_ask trivial fun permitted => ?_
    dsimp only
    split
    · exact idle
    · split
      · exact idle
      · apply follows_andThen
        refine follows_ask trivial fun code => ?_
        apply follows_andThen
        refine follows_ask trivial fun now => ?_
        apply follows_andThen
        refine follows_ask trivial fun id => ?_
        apply follows_andThen
        apply follows_orThrow
        refine follows_ask trivial fun reply => ?_
        rcases reply with error | _ <;> exact idle

/-- From the insertion of the device on its code is to be consumed by it. -/
theorem enrolDevice_follows {req : AuthDevicePairRequest} {pairing : DevicePairingCodeRow}
    (read : memory.pairing = some pairing) (idle : memory.enrolling = none) :
    (authDiscipline app).Follows Done memory (enrolDevice app req pairing) := by
  have found : memory.pairing.isSome := by simp [read]
  apply follows_andThen
  refine follows_ask trivial fun deviceId => ?_
  apply follows_andThen
  refine follows_ask trivial fun first => ?_
  apply follows_andThen
  refine follows_ask trivial fun second => ?_
  apply follows_andThen
  apply follows_orThrow
  refine follows_ask ⟨found, idle⟩ fun reply => ?_
  rcases reply with error | _
  · exact idle
  · apply follows_andThen
    apply follows_orThrow
    refine follows_ask ?_ fun reply => ?_
    · show memory.pairing.map (fun row => (row.id, deviceId)) = some (pairing.id, deviceId)
      rw [read]
      rfl
    · rcases reply with error | _ <;> rfl

theorem pairDevice_follows (req : AuthDevicePairRequest) (idle : memory.enrolling = none) :
    (authDiscipline app).Follows Done memory (pairDevice app req) := by
  unfold pairDevice
  split
  · exact idle
  · apply follows_andThen
    apply follows_orThrow
    refine follows_ask trivial fun reply => ?_
    rcases reply with error | none | pairing
    · exact idle
    · exact idle
    · dsimp only
      split
      · exact idle
      · apply follows_andThen
        refine follows_ask trivial fun now => ?_
        dsimp only
        split
        · apply follows_andThen
          exact follows_ask ⟨pairing, rfl, rfl⟩ fun reply => idle
        · exact enrolDevice_follows rfl idle

theorem issueSession_follows {associateId : String} {storeId deviceId : Uuid} (issues : Issues app memory)
    (idle : memory.enrolling = none) :
    (authDiscipline app).Follows Done memory (issueSession app associateId storeId deviceId) := by
  apply follows_andThen
  refine follows_ask trivial fun sessionId => ?_
  apply follows_andThen
  refine follows_ask trivial fun now => ?_
  apply follows_andThen
  apply follows_orThrow
  refine follows_ask issues fun reply => ?_
  rcases reply with error | _
  · exact idle
  · apply follows_andThen
    exact follows_ask trivial fun issued => idle

theorem exchangeSession_follows (req : AuthSessionExchangeRequest) :
    (authDiscipline app).Follows Done (AuthTask.exchange req).memory (exchangeSession app req) := by
  unfold exchangeSession
  split
  · rfl
  · apply follows_andThen
    refine follows_ask trivial fun external => ?_
    cases external with
    | none => rfl
    | some external =>
      dsimp only
      split
      · rfl
      · apply follows_andThen
        apply follows_orThrow
        refine follows_ask trivial fun reply => ?_
        rcases reply with error | none | device
        · rfl
        · rfl
        · dsimp only
          split
          · rfl
          · exact issueSession_follows rfl rfl

/-- A token is taken for its claims. -/
theorem decode_follows {token : String} {post : AuthMemory → Except AuthRefusal SessionClaims → Prop}
    (refused : ∀ refusal, post memory (.error refusal))
    (taken : ∀ claims, app.verify token = some claims → post memory (.ok claims)) :
    (authDiscipline app).Follows post memory (decode app token) := by
  apply follows_andThen
  refine follows_ask trivial fun now => ?_
  dsimp only
  cases verified : app.verify token with
  | none => exact refused _
  | some claims =>
    dsimp only
    split
    · exact refused _
    · exact taken claims verified

theorem refreshSession_follows (refreshToken : String) :
    (authDiscipline app).Follows Done (AuthTask.refresh refreshToken).memory (refreshSession app refreshToken) := by
  unfold refreshSession
  split
  · rfl
  · apply follows_andThen
    refine decode_follows (fun _ => rfl) fun claims verified => ?_
    dsimp only
    split
    · rfl
    · apply follows_andThen
      apply follows_orThrow
      refine follows_ask trivial fun reply => ?_
      rcases reply with error | none | session
      · rfl
      · rfl
      · apply follows_andThen
        refine follows_ask trivial fun now => ?_
        dsimp only
        split
        · rfl
        · apply follows_andThen
          apply follows_orThrow
          refine follows_ask ⟨claims, verified, rfl, rfl⟩ fun reply => ?_
          rcases reply with error | _
          · rfl
          · exact issueSession_follows ⟨claims, verified, rfl⟩ rfl

theorem authenticate_follows {accessToken : String} {post : AuthMemory → Except AuthRefusal AuthPrincipal → Prop}
    (kept : ∀ session result, post { memory with session := session } result) :
    (authDiscipline app).Follows post memory (authenticate app accessToken) := by
  have same := kept memory.session
  apply follows_andThen
  refine decode_follows (fun _ => same _) fun claims _ => ?_
  dsimp only
  split
  · exact same _
  · apply follows_andThen
    refine follows_ask trivial fun reply => ?_
    rcases reply with error | none | session
    · exact same _
    · exact same _
    · apply follows_andThen
      refine follows_ask trivial fun now => ?_
      dsimp only
      split
      · exact kept _ _
      · apply follows_andThen
        refine follows_ask trivial fun reply => ?_
        rcases reply with error | none | device
        · exact kept _ _
        · exact kept _ _
        · dsimp only
          split
          · exact kept _ _
          · split <;> exact kept _ _

theorem revokeSession_follows (accessToken : String) :
    (authDiscipline app).Follows Done (AuthTask.revoke accessToken).memory (revokeSession app accessToken) := by
  unfold revokeSession
  split
  · rfl
  · apply follows_andThen
    refine authenticate_follows fun session result => ?_
    rcases result with refusal | principal
    · rfl
    · apply follows_andThen
      apply follows_orThrow
      refine follows_ask rfl fun reply => ?_
      rcases reply with error | _ <;> rfl

theorem authTask_keeps (app : AuthApp) (task : AuthTask) : (authDiscipline app).protocol.Keeps
    (fun request => request.1 = task.memory ∧ Allowed app request.1 request.2)
    (fun may _ => (authDiscipline app).protocol.rests may) (task.program app) := by
  have follows : (authDiscipline app).Follows Done task.memory (task.handler app) := by
    cases task with
    | mint req => exact createPairingCode_follows req rfl
    | pair req => exact pairDevice_follows req rfl
    | exchange req => exact exchangeSession_follows req
    | refresh refreshToken => exact refreshSession_follows refreshToken
    | revoke accessToken => exact revokeSession_follows accessToken
  exact Discipline.Follows.keeps (fun _ => ⟨.clock, trivial⟩) follows

end Handlers
end ApexEdge.Proofs.AuthConduct
