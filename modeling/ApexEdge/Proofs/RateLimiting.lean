import ApexEdge.Hub.RateLimit

/-! A client's requests are let through by how many of them were in the last minute. -/

namespace ApexEdge.Proofs.RateLimiting
open Hub Library.SlidingWindow

/-- When requests of the client were let through in the bucket. -/
def accepted (clientKey : String) (bucket : RateBucket) (answered : List (RateRequest × Bool)) : List Nat :=
  answered.filterMap fun (request, allowed) =>
    if allowed ∧ request.clientKey = clientKey ∧ request.bucket = bucket then some request.now else none

/-- One queue against what was let through. -/
structure Window (clock : Nat) (limit : Nat) (history queue : List Nat) : Prop where
  tracks : Tracks WINDOW clock history queue
  admitted : Admitted WINDOW limit history
  short : queue.length ≤ limit

/-- Every queue of a limited bucket, after what has been answered. -/
def Accounts (clock : Nat) (answered : List (RateRequest × Bool)) (limiter : RateLimiter) : Prop :=
  ∀ clientKey bucket, limiter.settings.limitFor bucket ≠ 0 →
    Window clock (limiter.settings.limitFor bucket).toNat (accepted clientKey bucket answered)
      (limiter.inner (clientKey, bucket.asStr))

section
variable {clock limit now : Nat} {history queue : List Nat} {limiter : RateLimiter}
  {answered : List (RateRequest × Bool)} {request : RateRequest}

theorem asStr_injective {one other : RateBucket} (same : one.asStr = other.asStr) : one = other := by
  cases one <;> cases other <;> first | rfl | simp [RateBucket.asStr] at same

theorem Window.trim (window : Window clock limit history queue) (later : clock ≤ now) :
    Window now limit history (trim WINDOW now queue) :=
  ⟨window.tracks.trim later, window.admitted, Nat.le_trans (List.dropWhile_sublist _).length_le window.short⟩

theorem Window.later (window : Window clock limit history queue) (later : clock ≤ now) :
    Window now limit history queue := ⟨window.tracks.later later, window.admitted, window.short⟩

theorem Window.push (window : Window now limit history queue)
    (free : (recent WINDOW now history).length < limit) (room : queue.length < limit) :
    Window now limit (history ++ [now]) (queue ++ [now]) := by
  refine ⟨window.tracks.push, window.admitted.next window.tracks.past free, ?_⟩
  rw [List.length_append]
  exact room

theorem insert_same (key : String × String) : (limiter.insert key queue).inner key = queue := if_pos rfl

theorem insert_other {key other : String × String} (different : other ≠ key) :
    (limiter.insert key queue).inner other = limiter.inner other := if_neg different

theorem allow_settings (clientKey : String) (bucket : RateBucket) :
    (limiter.allow clientKey bucket now).2.settings = limiter.settings := by
  unfold RateLimiter.allow
  dsimp only
  repeat' split
  all_goals rfl

theorem answers_cons (requests : List RateRequest) :
    limiter.answers (request :: requests) =
      (request, (limiter.allow request.clientKey request.bucket request.now).1) ::
        (limiter.allow request.clientKey request.bucket request.now).2.answers requests := rfl

/-- Only the queue of the client's bucket is touched. -/
theorem allow_others {clientKey : String} {bucket : RateBucket} {key : String × String}
    (different : key ≠ (clientKey, bucket.asStr)) :
    (limiter.allow clientKey bucket now).2.inner key = limiter.inner key := by
  unfold RateLimiter.allow
  dsimp only
  repeat' split
  · rfl
  · exact insert_other different
  · exact insert_other different

theorem accepted_append (clientKey : String) (bucket : RateBucket) (later : List (RateRequest × Bool)) :
    accepted clientKey bucket (answered ++ later) =
      accepted clientKey bucket answered ++ accepted clientKey bucket later := List.filterMap_append

theorem accepted_allowed : accepted request.clientKey request.bucket [(request, true)] = [request.now] := by simp [accepted]

theorem accepted_rejected (clientKey : String) (bucket : RateBucket) : accepted clientKey bucket [(request, false)] = [] := by
  simp [accepted]

theorem accepted_other {clientKey : String} {bucket : RateBucket} (allowed : Bool)
    (different : (clientKey, bucket.asStr) ≠ (request.clientKey, request.bucket.asStr)) :
    accepted clientKey bucket [(request, allowed)] = [] := by
  refine List.filterMap_eq_nil_iff.mpr fun answer member => if_neg ?_
  rw [List.mem_singleton.mp member]
  rintro ⟨_, sameClient, sameBucket⟩
  exact different (by rw [← sameClient, ← sameBucket])

/-- The queue is shorter than any length the cast would change. -/
theorem room_iff {limit : UInt32} (short : queue.length ≤ limit.toNat) :
    ¬limit ≤ UInt32.ofNat queue.length ↔ queue.length < limit.toNat := by
  have fits := limit.toNat_lt
  rw [UInt32.le_iff_toNat_le, UInt32.toNat_ofNat', Nat.mod_eq_of_lt (Nat.lt_of_le_of_lt short fits), Nat.not_le]

/-- Another bucket has nothing to do with the request. -/
theorem Accounts.others (accounts : Accounts clock answered limiter) (later : clock ≤ request.now) (allowed : Bool)
    {clientKey : String} {bucket : RateBucket}
    (different : (clientKey, bucket.asStr) ≠ (request.clientKey, request.bucket.asStr))
    (limited : limiter.settings.limitFor bucket ≠ 0) :
    Window request.now (limiter.settings.limitFor bucket).toNat
      (accepted clientKey bucket (answered ++ [(request, allowed)]))
      (limiter.inner (clientKey, bucket.asStr)) := by
  rw [accepted_append, accepted_other allowed different, List.append_nil]
  exact (accounts clientKey bucket limited).later later

theorem Accounts.insert (accounts : Accounts clock answered limiter) (later : clock ≤ request.now) {allowed : Bool}
    (window : Window request.now (limiter.settings.limitFor request.bucket).toNat
      (accepted request.clientKey request.bucket (answered ++ [(request, allowed)])) queue) :
    Accounts request.now (answered ++ [(request, allowed)])
      (limiter.insert (request.clientKey, request.bucket.asStr) queue) := by
  intro clientKey bucket limited
  by_cases same : (clientKey, bucket.asStr) = (request.clientKey, request.bucket.asStr)
  · obtain ⟨rfl, named⟩ := Prod.mk.inj same
    obtain rfl := asStr_injective named
    rw [insert_same]
    exact window
  · rw [insert_other same]
    exact accounts.others later allowed same limited

/-- A bucket without a limit has no queue. -/
theorem Accounts.unlimited (accounts : Accounts clock answered limiter) (later : clock ≤ request.now) {allowed : Bool}
    (unlimited : limiter.settings.limitFor request.bucket = 0) :
    Accounts request.now (answered ++ [(request, allowed)]) limiter := by
  intro clientKey bucket limited
  refine accounts.others later allowed (fun same => limited ?_) limited
  rw [asStr_injective (Prod.mk.inj same).2]
  exact unlimited

/-- A request is let through by what was let through in the last minute, and its queue is
kept up. -/
theorem allow_step (accounts : Accounts clock answered limiter) (later : clock ≤ request.now) :
    ((limiter.allow request.clientKey request.bucket request.now).1 = true ↔
      limiter.settings.limitFor request.bucket = 0 ∨
        (recent WINDOW request.now (accepted request.clientKey request.bucket answered)).length <
          (limiter.settings.limitFor request.bucket).toNat) ∧
    Accounts request.now
      (answered ++ [(request, (limiter.allow request.clientKey request.bucket request.now).1)])
      (limiter.allow request.clientKey request.bucket request.now).2 := by
  by_cases limited : limiter.settings.limitFor request.bucket = 0
  · have answer : limiter.allow request.clientKey request.bucket request.now = (true, limiter) := by
      simp only [RateLimiter.allow, if_pos limited]
    rw [answer]
    exact ⟨⟨fun _ => .inl limited, fun _ => rfl⟩, accounts.unlimited later limited⟩
  · have window := (accounts request.clientKey request.bucket limited).trim later
    have kept := (accounts request.clientKey request.bucket limited).tracks.trim_eq later
    by_cases full : limiter.settings.limitFor request.bucket ≤
        UInt32.ofNat (trim WINDOW request.now (limiter.inner (request.clientKey, request.bucket.asStr))).length
    · have answer : limiter.allow request.clientKey request.bucket request.now =
          (false, limiter.insert (request.clientKey, request.bucket.asStr)
            (trim WINDOW request.now (limiter.inner (request.clientKey, request.bucket.asStr)))) := by
        simp only [RateLimiter.allow, if_neg limited, if_pos full]
      rw [answer]
      refine ⟨⟨fun impossible => (nomatch impossible), fun free => ?_⟩, accounts.insert later ?_⟩
      · rw [← kept, ← room_iff window.short] at free
        exact (free.resolve_left limited full).elim
      · rw [accepted_append, accepted_rejected, List.append_nil]
        exact window
    · have answer : limiter.allow request.clientKey request.bucket request.now =
          (true, limiter.insert (request.clientKey, request.bucket.asStr)
            (trim WINDOW request.now (limiter.inner (request.clientKey, request.bucket.asStr)) ++ [request.now])) := by
        simp only [RateLimiter.allow, if_neg limited, if_neg full]
      have room := (room_iff window.short).mp full
      have free := room
      rw [kept] at free
      rw [answer]
      refine ⟨⟨fun _ => .inr free, fun _ => rfl⟩, accounts.insert later ?_⟩
      rw [accepted_append, accepted_allowed]
      exact window.push free room

/-- An answer depends on the queue of the bucket only. -/
theorem allow_agree {alone : RateLimiter} {clientKey : String} {bucket : RateBucket} (now : Nat)
    (settings : alone.settings = limiter.settings)
    (same : alone.inner (clientKey, bucket.asStr) = limiter.inner (clientKey, bucket.asStr)) :
    (alone.allow clientKey bucket now).1 = (limiter.allow clientKey bucket now).1 ∧
      (alone.allow clientKey bucket now).2.inner (clientKey, bucket.asStr) =
        (limiter.allow clientKey bucket now).2.inner (clientKey, bucket.asStr) := by
  unfold RateLimiter.allow
  dsimp only
  rw [settings, same]
  repeat' split
  · exact ⟨rfl, same⟩
  · exact ⟨rfl, (insert_same ..).trans (insert_same ..).symm⟩
  · exact ⟨rfl, (insert_same ..).trans (insert_same ..).symm⟩

theorem new_accounts (settings : RateLimitSettings) : Accounts clock [] (RateLimiter.new settings) :=
  fun _ _ _ => ⟨.nothing, .none, Nat.zero_le _⟩

end

/-- From a limiter that has its accounts, every further request is answered by the last
minute, and in the end the accounts are those of everything answered. -/
theorem answers_run (settings : RateLimitSettings) (requests : List RateRequest) {clock : Nat}
    {before : List (RateRequest × Bool)} {limiter : RateLimiter} (kept : limiter.settings = settings)
    (accounts : Accounts clock before limiter) (future : ∀ request ∈ requests, clock ≤ request.now)
    (ordered : requests.Pairwise fun request later => request.now ≤ later.now) :
    (∀ earlier request allowed later, limiter.answers requests = earlier ++ (request, allowed) :: later →
      (allowed = true ↔ settings.limitFor request.bucket = 0 ∨
        (recent WINDOW request.now (accepted request.clientKey request.bucket (before ++ earlier))).length <
          (settings.limitFor request.bucket).toNat)) ∧
    ∀ clientKey bucket, settings.limitFor bucket ≠ 0 →
      Admitted WINDOW (settings.limitFor bucket).toNat
        (accepted clientKey bucket (before ++ limiter.answers requests)) := by
  induction requests generalizing clock before limiter with
  | nil =>
    refine ⟨fun earlier _ _ _ split => by simp [RateLimiter.answers] at split, fun clientKey bucket limited => ?_⟩
    rw [RateLimiter.answers, List.append_nil, ← kept]
    exact (accounts clientKey bucket (kept ▸ limited)).admitted
  | cons first rest ih =>
    obtain ⟨next, ordered⟩ := List.pairwise_cons.mp ordered
    have step := allow_step accounts (future first (List.mem_cons_self ..))
    have run := ih ((allow_settings ..).trans kept) step.2 next ordered
    have whole : before ++ limiter.answers (first :: rest) =
        before ++ [(first, (limiter.allow first.clientKey first.bucket first.now).1)] ++
          (limiter.allow first.clientKey first.bucket first.now).2.answers rest := by
      rw [answers_cons, List.append_assoc, List.singleton_append]
    refine ⟨fun earlier request allowed later split => ?_, fun clientKey bucket limited => ?_⟩
    · rw [answers_cons] at split
      cases earlier with
      | nil =>
        obtain ⟨here, _⟩ := List.cons.inj split
        obtain ⟨rfl, answer⟩ := Prod.mk.inj here
        rw [List.append_nil, ← answer, ← kept]
        exact step.1
      | cons head tail =>
        obtain ⟨here, beyond⟩ := List.cons.inj split
        have answered := run.1 tail request allowed later beyond
        rw [List.append_assoc, here] at answered
        exact answered
    · rw [whole]
      exact run.2 clientKey bucket limited

/-- The answers of some of the buckets are those of a limiter that was asked for these only. -/
theorem answers_filter (concerns : RateRequest → Bool)
    (byKey : ∀ request other, request.clientKey = other.clientKey → request.bucket = other.bucket →
      concerns request = concerns other) (requests : List RateRequest) {limiter alone : RateLimiter}
    (settings : alone.settings = limiter.settings)
    (same : ∀ request, concerns request = true →
      alone.inner (request.clientKey, request.bucket.asStr) = limiter.inner (request.clientKey, request.bucket.asStr)) :
    (limiter.answers requests).filter (fun answer => concerns answer.1) = alone.answers (requests.filter concerns) := by
  induction requests generalizing limiter alone with
  | nil => rfl
  | cons first rest ih =>
    rw [answers_cons]
    by_cases concerned : concerns first = true
    · have agree := allow_agree first.now settings (same first concerned)
      simp only [List.filter_cons, concerned, if_true]
      rw [answers_cons, agree.1]
      refine congrArg _ (ih ?_ fun request concernedToo => ?_)
      · rw [allow_settings, allow_settings, settings]
      · by_cases key : (request.clientKey, request.bucket.asStr) = (first.clientKey, first.bucket.asStr)
        · rw [key]
          exact agree.2
        · rw [allow_others key, allow_others key]
          exact same request concernedToo
    · simp only [List.filter_cons, if_neg concerned]
      refine ih ((allow_settings ..).symm ▸ settings) fun request concernedToo => ?_
      have apart : (request.clientKey, request.bucket.asStr) ≠ (first.clientKey, first.bucket.asStr) := by
        intro key
        obtain ⟨client, named⟩ := Prod.mk.inj key
        exact concerned ((byKey request first client (asStr_injective named)).symm.trans concernedToo)
      rw [allow_others apart]
      exact same request concernedToo

/-- Of a bucket with a limit, a request is let through exactly when fewer than the limit of
its client's were in the last minute; no minute has more than the limit, and a client is
answered as if there were no other. -/
theorem limited_exactly (settings : RateLimitSettings) (requests : List RateRequest)
    (ordered : requests.Pairwise fun request later => request.now ≤ later.now) :
    (∀ earlier request allowed later,
      (RateLimiter.new settings).answers requests = earlier ++ (request, allowed) :: later →
      (allowed = true ↔ settings.limitFor request.bucket = 0 ∨
        (recent WINDOW request.now (accepted request.clientKey request.bucket earlier)).length <
          (settings.limitFor request.bucket).toNat)) ∧
    (∀ clientKey bucket start, settings.limitFor bucket ≠ 0 →
      ((accepted clientKey bucket ((RateLimiter.new settings).answers requests)).filter fun moment =>
        start ≤ moment ∧ moment < start + WINDOW).length ≤ (settings.limitFor bucket).toNat) ∧
    ∀ clientKey, ((RateLimiter.new settings).answers requests).filter (fun answer => answer.1.clientKey = clientKey) =
      (RateLimiter.new settings).answers (requests.filter fun request => request.clientKey = clientKey) := by
  have run := answers_run settings requests rfl (@new_accounts 0 settings) (fun _ _ => Nat.zero_le _) ordered
  refine ⟨fun earlier request allowed later split => ?_, fun clientKey bucket start limited => ?_, fun clientKey => ?_⟩
  · have answered := run.1 earlier request allowed later split
    rw [List.nil_append] at answered
    exact answered
  · have admitted := run.2 clientKey bucket limited
    rw [List.nil_append] at admitted
    exact admitted.within start
  · exact answers_filter (fun request => request.clientKey = clientKey)
      (fun request other client _ => by rw [client]) requests rfl fun _ _ => rfl

def second : Nat := 1000000000

/-- Two a minute, and the first is exactly a minute old when the last one comes. -/
def minuteApart : List RateRequest :=
  [⟨"10.0.0.1", .auth, 0⟩, ⟨"10.0.0.1", .auth, 59 * second⟩, ⟨"10.0.0.2", .auth, 59 * second⟩,
    ⟨"10.0.0.1", .auth, 59 * second⟩, ⟨"10.0.0.1", .auth, 60 * second⟩]

theorem minute_apart_limited :
    (accepted "10.0.0.1" .auth ((RateLimiter.new { authPerMinute := 2 }).answers minuteApart)).length = 3 ∧
      ((accepted "10.0.0.1" .auth ((RateLimiter.new { authPerMinute := 2 }).answers minuteApart)).filter fun moment =>
        second ≤ moment ∧ moment < second + WINDOW).length ≤ 2 :=
  ⟨by decide, (limited_exactly { authPerMinute := 2 } minuteApart (by decide)).2.1 "10.0.0.1" .auth second (by decide)⟩

/-- With a limit of none a bucket is not limited. -/
theorem limit_of_none : ¬∀ (settings : RateLimitSettings) (requests : List RateRequest),
    requests.Pairwise (fun request later => request.now ≤ later.now) →
    ∀ earlier request allowed later,
      (RateLimiter.new settings).answers requests = earlier ++ (request, allowed) :: later →
      (allowed = true ↔ (recent WINDOW request.now (accepted request.clientKey request.bucket earlier)).length <
        (settings.limitFor request.bucket).toNat) := by
  intro exactly
  have asked := exactly { authPerMinute := 0 } [⟨"10.0.0.1", .auth, 0⟩] (List.pairwise_singleton ..) []
    ⟨"10.0.0.1", .auth, 0⟩ true [] rfl
  exact absurd (asked.mp rfl) (by decide)

end ApexEdge.Proofs.RateLimiting
