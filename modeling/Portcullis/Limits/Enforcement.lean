import Portcullis.Lib.Keyed
import Portcullis.Limits.SlidingWindow

/-!
# Enforcement of the stored policies

A rate-limited request resolves its policy, computes the Redis key from the scope of
that policy and runs the script of its algorithm on the key.  The key is built from the
request and not from the policy, so that two policies can meet in one bucket; policies
whose requests never share a key do not influence each other.
-/

namespace Portcullis.Limits.Enforcement

open Lib Lib.Keyed Lib.Redis Limits.Policies Limits.RedisBucket
open Limits.SlidingWindow (Call)
open Models

/-- What `resolve_policy` and `RateLimiter.check` read of one request; `defaultStr` is
the default limit of the calling layer. -/
structure LimitRequest where
  tenantId : Uuid
  subjectId : String
  subjectType : SubjectType
  serverSlug : String
  toolOrMethod : String
  defaultStr : String
  call : Call

inductive Outcome where
  | allowed
  | denied
  | redisError (failure : RedisError)
  | misconfigured (failure : DefaultError)
  deriving DecidableEq, Repr

/-- The slot a command finds, after the server has had its chance to drop the key. -/
def presentSlot (slot : Slot) (call : Call) : Slot :=
  if call.reaped then lapse slot call.clock else slot

/-- `RateLimiter.check` on the slot of its key. -/
def check (slot : Slot) (policy : EffectivePolicy) (call : Call) :
    Except RedisError (Slot × RateLimitResult) :=
  match policy.algorithm with
  | .tokenBucket => checkTokenBucket slot policy call.now call.clock
  | .slidingWindow => checkSlidingWindow slot policy call.now call.clock call.random

def bucketOf (request : LimitRequest) (policy : EffectivePolicy) : String :=
  checkKey request.tenantId request.subjectId request.serverSlug request.toolOrMethod policy.scope

abbrev Buckets := String → Slot

section Requests

variable (policies : Uuid → List RateLimitPolicy)

def policyFor (request : LimitRequest) : Except DefaultError EffectivePolicy :=
  resolvePolicy (some request.subjectId) (some request.subjectType)
    (some request.serverSlug) (some request.toolOrMethod) (policies request.tenantId)
    request.defaultStr

/-- The request belongs to the tenant and `resolve_policy` takes the fields of this
policy for it. -/
def assignedTo (tenantId : Uuid) (policy : RateLimitPolicy) (request : LimitRequest) :
    Bool :=
  decide (request.tenantId = tenantId ∧
    chosenPolicy (some request.subjectId) (some request.subjectType)
      (some request.serverSlug) (some request.toolOrMethod)
      (policies request.tenantId) = some policy)

def serve (buckets : Buckets) (request : LimitRequest) : Buckets × Outcome :=
  match policyFor policies request with
  | .error failure => (buckets, .misconfigured failure)
  | .ok policy =>
    let key := bucketOf request policy
    match check (presentSlot (buckets key) request.call) policy request.call with
    | .error failure => (buckets, .redisError failure)
    | .ok (slot, result) =>
      (Function.update buckets key slot, if result.allowed then .allowed else .denied)

def serveAll : Buckets → List LimitRequest → List (LimitRequest × Outcome)
  | _, [] => []
  | buckets, request :: rest =>
    (request, (serve policies buckets request).2) ::
      serveAll (serve policies buckets request).1 rest

/-- The outcomes of the requests assigned to one policy, in the order of the run. -/
def outcomesOf (tenantId : Uuid) (policy : RateLimitPolicy) (buckets : Buckets)
    (requests : List LimitRequest) : List Outcome :=
  ((serveAll policies buckets requests).filter fun entry =>
    assignedTo policies tenantId policy entry.1).map Prod.snd

def withoutPolicy (tenantId : Uuid) (policy : RateLimitPolicy)
    (requests : List LimitRequest) : List LimitRequest :=
  requests.filter fun request => !assignedTo policies tenantId policy request

/-! ## One key per request -/

def keyFor (request : LimitRequest) : Option String :=
  match policyFor policies request with
  | .error _ => none
  | .ok policy => some (bucketOf request policy)

def serveSlot (request : LimitRequest) (slot : Slot) : Slot × Outcome :=
  match policyFor policies request with
  | .error failure => (slot, .misconfigured failure)
  | .ok policy =>
    match check (presentSlot slot request.call) policy request.call with
    | .error failure => (slot, .redisError failure)
    | .ok (after, result) => (after, if result.allowed then .allowed else .denied)

def machine : Machine String Slot LimitRequest Outcome where
  keyOf := keyFor policies
  respond := serveSlot policies
  idle request := (serveSlot policies request none).2

theorem serve_eq_step (buckets : Buckets) (request : LimitRequest) :
    serve policies buckets request = (machine policies).step buckets request := by
  cases resolved : policyFor policies request with
  | error failure => simp [serve, Machine.step, machine, keyFor, serveSlot, resolved]
  | ok policy =>
    cases ans : check (presentSlot (buckets (bucketOf request policy)) request.call)
        policy request.call with
    | error failure =>
      simp [serve, Machine.step, machine, keyFor, serveSlot, resolved, ans]
    | ok answer =>
      simp [serve, Machine.step, machine, keyFor, serveSlot, resolved, ans]

theorem serveAll_eq_run (requests : List LimitRequest) : ∀ buckets : Buckets,
    serveAll policies buckets requests = (machine policies).run buckets requests := by
  induction requests with
  | nil =>
    intro buckets
    rfl
  | cons request rest ih =>
    intro buckets
    rw [serveAll, Machine.run, serve_eq_step, ih]

/-- Two policies whose requests never count under one key: the outcomes under the first
are those of the run without any request of the second. -/
theorem outcomes_unaffected (tenantId : Uuid) (policy other : RateLimitPolicy)
    (buckets : Buckets) (requests : List LimitRequest)
    (apart : ∀ mine ∈ requests, ∀ theirs ∈ requests,
      assignedTo policies tenantId policy mine = true →
        assignedTo policies tenantId other theirs = true →
          keyFor policies mine ≠ keyFor policies theirs) :
    outcomesOf policies tenantId policy buckets requests =
      outcomesOf policies tenantId policy buckets
        (withoutPolicy policies tenantId other requests) := by
  let watched : String → Prop := fun key => ∃ mine ∈ requests,
    assignedTo policies tenantId policy mine = true ∧ keyFor policies mine = some key
  unfold outcomesOf withoutPolicy
  rw [serveAll_eq_run, serveAll_eq_run]
  apply congrArg
  apply (machine policies).run_filter_observed watched
  · intro request mem dropped
    rw [Bool.not_eq_false'] at dropped
    constructor
    · by_contra observed
      rw [Bool.not_eq_false] at observed
      exact apart request mem request mem observed dropped rfl
    · rintro key addressed ⟨mine, mineMember, observed, sameKey⟩
      exact apart mine mineMember request mem observed dropped (sameKey.trans addressed.symm)
  · intro request mem observed key addressed
    exact ⟨request, mem, observed, addressed⟩
  · intro key _
    rfl

/-! ## Tenants -/

theorem keyFor_eq_checkKey {request : LimitRequest} {key : String}
    (addressed : keyFor policies request = some key) : ∃ scope, key =
      checkKey request.tenantId request.subjectId request.serverSlug request.toolOrMethod scope := by
  unfold keyFor at addressed
  split at addressed
  · cases addressed
  · exact ⟨_, (Option.some.inj addressed).symm⟩

theorem serveAll_own (tenantId : Uuid) (buckets : Buckets) (requests : List LimitRequest)
    (own : ∀ request ∈ requests, request.tenantId = tenantId) :
    (serveAll policies buckets requests).filter (fun entry => entry.1.tenantId = tenantId) =
      serveAll (fun _ => policies tenantId) buckets requests := by
  induction requests generalizing buckets with
  | nil => rfl
  | cons request rest ih =>
    have here := own request List.mem_cons_self
    have same : serve policies buckets request =
        serve (fun _ => policies tenantId) buckets request := by
      simp only [serve, policyFor, here]
    rw [serveAll, serveAll, List.filter_cons_of_pos (by simpa using here), same,
      ih _ fun other mem => own other (List.mem_cons_of_mem _ mem)]

/-- Whatever other tenants send in between and whatever their policies are, the requests of a
tenant fare as if it had the gateway for itself. -/
theorem tenant_served_alone (tenantId : Uuid) (buckets : Buckets) (requests : List LimitRequest) :
    (serveAll policies buckets requests).filter (fun entry => entry.1.tenantId = tenantId) =
      serveAll (fun _ => policies tenantId) buckets
        (requests.filter fun request => request.tenantId = tenantId) := by
  rw [← serveAll_own policies tenantId buckets _
    fun request mem => of_decide_eq_true (List.mem_filter.mp mem).2,
    serveAll_eq_run, serveAll_eq_run]
  apply (machine policies).run_filter_observed
    (fun key => ∃ subject slug tool scope, key = checkKey tenantId subject slug tool scope)
    (fun request => request.tenantId = tenantId) fun request => request.tenantId = tenantId
  · rintro request - other
    refine ⟨other, ?_⟩
    rintro key addressed ⟨subject, slug, tool, scope, rfl⟩
    obtain ⟨_, same⟩ := keyFor_eq_checkKey policies addressed
    exact of_decide_eq_false other ((checkKey_eq_iff ..).mp same).1.symm
  · intro request _ mine key addressed
    obtain ⟨scope, same⟩ := keyFor_eq_checkKey policies addressed
    rw [of_decide_eq_true mine] at same
    exact ⟨_, _, _, scope, same⟩
  · exact fun _ _ => rfl

end Requests

/-! ## Two global policies on one server -/

def tenantOne : Uuid := ⟨2#128⟩

def toolsPolicy (number : BitVec 128) (pattern : String)
    (algorithm : RateLimitAlgorithm) : RateLimitPolicy where
  id := ⟨number⟩
  tenantId := tenantOne
  subjectId := none
  subjectType := none
  serverPattern := none
  toolPattern := some pattern
  algorithm := algorithm
  requestLimit := 10
  windowSeconds := 60
  burstCapacity := some 10
  priority := 0

def readPolicy : RateLimitPolicy := toolsPolicy 11#128 "read_*" .slidingWindow

def writePolicy : RateLimitPolicy := toolsPolicy 12#128 "write_*" .tokenBucket

def twoPolicies : Uuid → List RateLimitPolicy := fun _ => [readPolicy, writePolicy]

def toolRequest (slug tool : String) (call : Call) : LimitRequest where
  tenantId := tenantOne
  subjectId := "agent-1"
  subjectType := .apiKey
  serverSlug := slug
  toolOrMethod := tool
  defaultStr := "100/minute"
  call := call

def callAt (second : ℚ) : Call := ⟨second, second, 0, false⟩

/-- On different servers the two policies keep apart. -/
theorem outcomes_unaffected_sample : outcomesOf twoPolicies tenantOne readPolicy (fun _ => none)
        [toolRequest "jira" "write_issue" (callAt 1), toolRequest "github" "read_file" (callAt 2)] =
      outcomesOf twoPolicies tenantOne readPolicy (fun _ => none)
        (withoutPolicy twoPolicies tenantOne writePolicy
          [toolRequest "jira" "write_issue" (callAt 1),
            toolRequest "github" "read_file" (callAt 2)]) :=
  outcomes_unaffected twoPolicies tenantOne readPolicy writePolicy (fun _ => none)
    [toolRequest "jira" "write_issue" (callAt 1),
      toolRequest "github" "read_file" (callAt 2)] (by decide +kernel)

/-- On one server the token bucket of the write tools leaves a hash under the key, and
the sliding window of the read tools fails on it. -/
theorem write_policy_breaks_read_policy :
    outcomesOf twoPolicies tenantOne readPolicy (fun _ => none)
        [toolRequest "github" "write_file" (callAt 1),
          toolRequest "github" "read_file" (callAt 2)] = [.redisError .wrongType] ∧
      outcomesOf twoPolicies tenantOne readPolicy (fun _ => none)
        (withoutPolicy twoPolicies tenantOne writePolicy
          [toolRequest "github" "write_file" (callAt 1),
            toolRequest "github" "read_file" (callAt 2)]) = [.allowed] := by
  decide +kernel

end Portcullis.Limits.Enforcement
