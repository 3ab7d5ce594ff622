import ApexEdge.Library.SlidingWindow

/-! The limit on the requests of one client, by the buckets of the routes. A moment is in
nanoseconds of the hub's clock. -/

namespace ApexEdge.Hub
open Library.SlidingWindow

def WINDOW : Nat := 60 * 1000000000

inductive RateBucket where
  | auth
  | pos
  deriving DecidableEq, Repr

def RateBucket.asStr (self : RateBucket) : String :=
  match self with
  | .auth => "auth"
  | .pos => "pos"

structure RateLimitSettings where
  authPerMinute : UInt32 := 30
  posPerMinute : UInt32 := 120
  deriving DecidableEq, Repr

def RateLimitSettings.limitFor (self : RateLimitSettings) (bucket : RateBucket) : UInt32 :=
  match bucket with
  | .auth => self.authPerMinute
  | .pos => self.posPerMinute

/-- The queues of the clients' buckets. Who has not called yet has an empty one. -/
structure RateLimiter where
  settings : RateLimitSettings
  inner : String × String → List Nat

namespace RateLimiter

def new (settings : RateLimitSettings) : RateLimiter := { settings, inner := fun _ => [] }

def insert (self : RateLimiter) (key : String × String) (queue : List Nat) : RateLimiter :=
  { self with inner := fun other => if other = key then queue else self.inner other }

/-- Whether the request is within its quota, and the limiter after it. -/
def allow (self : RateLimiter) (clientKey : String) (bucket : RateBucket) (now : Nat) : Bool × RateLimiter :=
  let limit := self.settings.limitFor bucket
  if limit = 0 then (true, self)
  else
    let key := (clientKey, bucket.asStr)
    let entry := trim WINDOW now (self.inner key)
    if limit ≤ UInt32.ofNat entry.length then (false, self.insert key entry)
    else (true, self.insert key (entry ++ [now]))

end RateLimiter

structure RateRequest where
  clientKey : String
  bucket : RateBucket
  now : Nat
  deriving DecidableEq, Repr

/-- One request after the other, each with its answer. -/
def RateLimiter.answers (self : RateLimiter) : List RateRequest → List (RateRequest × Bool)
  | [] => []
  | request :: requests =>
    let (allowed, limiter) := self.allow request.clientKey request.bucket request.now
    (request, allowed) :: limiter.answers requests

end ApexEdge.Hub
