import ApexEdge.Hub.FrontDoor

/-! Who is let in, and where the tokens of other systems come from: each was made by a supervisor,
or with a token that may do everything and itself comes from one. -/

namespace ApexEdge.Proofs.FrontDoor
open Library Payment Domain Storage Hub FrontDoor

/-- A session that has not ended, on an active device, in the hub's store. -/
def SignedIn (app : AuthApp) (told : Told) : Prop :=
  ∃ session device, told.session = some session ∧ told.device = some device ∧ session.revokedAt = none ∧
    told.now ≤ session.accessExp ∧ device.revokedAt = none ∧ device.status = "active" ∧ session.storeId = app.storeId

/-- A token that was there, or that a supervisor made, or the bearer of another such token. -/
inductive Vouched (app : AuthApp) (start : List StoredApiToken) (made : List (Uuid × Pass)) : Uuid → Prop
  | initial {token : StoredApiToken} (member : token ∈ start) : Vouched app start made token.id
  | supervisor {id : Uuid} {told : Told} (maker : (id, .session told) ∈ made) (live : SignedIn app told)
      (role : associateCanApprove told.roles = true) : Vouched app start made id
  | delegated {id : Uuid} {stored : StoredApiToken} (maker : (id, .token stored) ∈ made)
      (scope : tokenScopesAllow stored.scopes "admin" = true) (vouched : Vouched app start made stored.id) :
      Vouched app start made id

/-- Why a request may be on its path. -/
def Entitled (app : AuthApp) (start : List StoredApiToken) (made : List (Uuid × Pass)) (path : String) (pass : Pass) :
    Prop :=
  match pass with
  | .unchecked => isPublicPath path = true
  | .session told => SignedIn app told ∧ (startsWith path "/admin" = true → associateCanApprove told.roles = true)
  | .token stored => stored.revoked = false ∧ Vouched app start made stored.id ∧
      ∀ required ∈ requiredScopeForPath path, tokenScopesAllow stored.scopes required = true

structure Guarded (app : AuthApp) (start : List StoredApiToken) (door : Door) : Prop where
  tokens : ∀ token ∈ door.tokens, Vouched app start door.made token.id
  inside : ∀ asked ∈ door.inside, Entitled app start door.made asked.1 asked.2

section Door
variable {app : AuthApp} {start tokens : List StoredApiToken} {made more : List (Uuid × Pass)} {path : String}
  {pass : Pass}

theorem Vouched.grow {id : Uuid} (vouched : Vouched app start made id) (grows : made ⊆ more) :
    Vouched app start more id := by
  induction vouched with
  | initial member => exact .initial member
  | supervisor maker live role => exact .supervisor (grows maker) live role
  | delegated maker scope _ ih => exact .delegated (grows maker) scope ih

theorem Entitled.grow (entitled : Entitled app start made path pass) (grows : made ⊆ more) :
    Entitled app start more path pass := by
  cases pass with
  | unchecked | session => exact entitled
  | token stored => exact ⟨entitled.1, entitled.2.1.grow grows, entitled.2.2⟩

theorem authenticateSession_entitled {told : Told} {claims : SessionClaims}
    (passed : authenticateSession app path told claims = .ok pass) : Entitled app start made path pass := by
  unfold authenticateSession at passed
  split at passed
  next session device found present =>
    split at passed
    · cases passed
    next checked =>
      split at passed
      · cases passed
      next role =>
        cases passed
        simp only [not_or, Option.not_isSome_iff_eq_none, Nat.not_lt, ne_eq, not_not] at checked
        obtain ⟨-, kept, current, trusted, active, -, home⟩ := checked
        refine ⟨⟨session, device, found, present, kept, current, trusted, active, home⟩, fun admin => ?_⟩
        simpa [admin] using role
  · cases passed

theorem authenticateApiToken_entitled {id : Option Uuid} (vouched : ∀ token ∈ tokens, Vouched app start made token.id)
    (passed : authenticateApiToken tokens path id = .ok pass) : Entitled app start made path pass := by
  unfold authenticateApiToken at passed
  split at passed
  · cases passed
  next stored found =>
    split at passed
    · cases passed
    next valid =>
      split at passed
      · cases passed
      next scope =>
        cases passed
        obtain ⟨key, -, loaded⟩ := Option.bind_eq_some_iff.mp found
        refine ⟨by simpa using valid, vouched stored (List.mem_of_find?_eq_some loaded), fun required member => ?_⟩
        rw [Option.mem_def] at member
        simpa [member] using scope

/-- Whoever is let in is entitled to it. -/
theorem authMiddleware_entitled (enabled : app.auth.enabled = true) {bearer : Option Told}
    (vouched : ∀ token ∈ tokens, Vouched app start made token.id)
    (passed : authMiddleware app tokens path bearer = .ok pass) : Entitled app start made path pass := by
  unfold authMiddleware at passed
  split at passed
  next free =>
    cases passed
    exact free.resolve_left (by simp [enabled])
  · split at passed
    · cases passed
    · split at passed
      · exact authenticateSession_entitled passed
      · exact authenticateApiToken_entitled vouched passed

/-- The route that makes tokens is for supervisors, and for tokens that may do everything. -/
theorem Entitled.vouches {id : Uuid} (entitled : Entitled app start made tokensPath pass) (maker : (id, pass) ∈ made) :
    Vouched app start made id := by
  cases pass with
  | unchecked => exact absurd (show isPublicPath tokensPath = true from entitled) (by decide +kernel)
  | session told => exact .supervisor maker entitled.1 (entitled.2 (by decide +kernel))
  | token stored => exact .delegated maker (entitled.2.2 "admin" (by decide +kernel)) entitled.2.1

theorem Guarded.apply {door : Door} (enabled : app.auth.enabled = true) (guarded : Guarded app start door)
    (step : DoorStep) : Guarded app start (door.apply app step) := by
  cases step with
  | arrives path bearer =>
    rw [Door.apply]
    split
    next pass passed =>
      exact ⟨guarded.tokens, List.forall_mem_append.mpr ⟨guarded.inside,
        List.forall_mem_singleton.mpr (authMiddleware_entitled enabled guarded.tokens passed)⟩⟩
    next => exact guarded
  | createApiToken request id name scopes =>
    rw [Door.apply]
    split
    next => exact guarded
    next path pass asked =>
      split
      next => exact guarded
      next free =>
        obtain rfl : path = tokensPath := by simpa using (not_or.mp free).1
        have grows : door.made ⊆ door.made ++ [(id, pass)] := List.subset_append_left _ _
        have maker := (guarded.inside _ (List.mem_of_getElem? asked)).grow grows
        exact ⟨List.forall_mem_append.mpr ⟨fun token member => (guarded.tokens token member).grow grows,
            List.forall_mem_singleton.mpr (maker.vouches (List.mem_append_right _ List.mem_cons_self))⟩,
          fun other member => (guarded.inside other (List.mem_of_mem_eraseIdx member)).grow grows⟩
  | revokes id =>
    refine ⟨List.forall_mem_map.mpr fun token member => ?_, guarded.inside⟩
    rw [Table.Update.row_column _ StoredApiToken.id fun _ => rfl]
    exact guarded.tokens token member

/-- However requests come in, and tokens are made and revoked: everyone inside is entitled to be
there, and every token goes back to a supervisor or to the start. -/
theorem tokens_are_vouched_for (enabled : app.auth.enabled = true) (start : List StoredApiToken)
    (steps : List DoorStep) : Guarded app start (Sequence.run (Door.apply app) (.opened start) steps) :=
  Sequence.keeps (fun _ step guarded _ => guarded.apply enabled step) ⟨fun _ => .initial, nofun⟩
    (Sequence.meets_of_forall fun _ _ => trivial)

end Door

def guardedShop : AuthApp := ⟨1, 2, ⟨true, 900, 86400, 600, 5⟩, id, fun _ => "", fun _ => none⟩

def signedIn (role : String) : Told :=
  { claims := some ⟨"associate", 3, 4, 1, "access", 100, 0⟩, session := some ⟨3, "associate", 1, 4, 100, 200, none⟩
    device := some ⟨4, 1, none, "till", none, "", "active", 0, none⟩, roles := some [role], apiToken := none
    now := 50 }

def bearing (token : Uuid) : Told :=
  { claims := none, session := none, device := none, roles := none, apiToken := some token, now := 50 }

/-- A cashier is turned away; a manager's token makes another one, which then makes none. -/
def visits : List DoorStep :=
  [.arrives tokensPath (some (signedIn "cashier")), .arrives tokensPath (some (signedIn "manager")),
    .createApiToken 0 7 "partner" ["*"], .arrives tokensPath (some (bearing 7)), .createApiToken 0 8 "shop" ["pos"],
    .arrives tokensPath (some (bearing 8)), .arrives "/pos/command" (some (bearing 8))]

theorem visits_vouched_for :
    let door := Sequence.run (Door.apply guardedShop) (.opened []) visits
    door.tokens.map StoredApiToken.id = [7, 8] ∧ door.inside.map Prod.fst = ["/pos/command"] ∧
      Guarded guardedShop [] door :=
  ⟨by decide +kernel, by decide +kernel, tokens_are_vouched_for rfl [] visits⟩

end ApexEdge.Proofs.FrontDoor
