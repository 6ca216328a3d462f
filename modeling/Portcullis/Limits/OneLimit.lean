import Portcullis.Limits.Enforcement
import Portcullis.Limits.Precedence

/-!
# What one sliding-window policy admits

All requests of a run are followed on one key.  Whatever else is counted there, the
sorted set under the key keeps at least the admitted requests of the policy's window: a
hash is only ever written where no set is, and other sliding windows evict nothing of it
as long as they are no shorter.  The policy therefore bounds each of the buckets that its
scope documents, but not their sum.
-/

namespace Portcullis.Limits.OneLimit

open Lib Lib.Keyed Lib.Redis Limits.Enforcement Limits.Policies List
open Limits.Precedence (OwnLevel scopeForLevel_global_iff subjectPolicy)
open Limits.RedisBucket Limits.SlidingWindow Models

/-- The slot as a sorted-set command sees it: any other type counts nothing. -/
def zsetPart (slot : Slot) : Slot :=
  match asZSet slot with
  | .ok _ => slot
  | .error _ => none

variable (slot : Slot)

theorem zsetPart_of_ok (set : ZSet) (held : asZSet slot = .ok set) : zsetPart slot = slot := by
  rw [zsetPart, held]

theorem zsetPart_of_error (failure : RedisError) (held : asZSet slot = .error failure) :
    zsetPart slot = none := by
  rw [zsetPart, held]

theorem zsetPart_lapse (clock : ℚ) : zsetPart (lapse slot clock) = lapse (zsetPart slot) clock := by
  cases held : asZSet slot with
  | ok set =>
    rw [zsetPart_of_ok slot set held]
    unfold lapse
    split
    · rfl
    · exact zsetPart_of_ok slot set held
  | error failure =>
    rw [zsetPart_of_error slot failure held]
    unfold lapse
    split
    · rfl
    · exact zsetPart_of_error slot failure held

theorem zsetPart_presentSlot (admitted : List ℚ) (call : Call) :
    zsetPart (presentSlot slot call) = slotAt ⟨zsetPart slot, admitted⟩ call := by
  unfold presentSlot SlidingWindow.slotAt
  cases call.reaped with
  | false => rfl
  | true => exact zsetPart_lapse slot call.clock

theorem zsetPart_checkTokenBucket (after : Slot) (policy : EffectivePolicy) (now clock : ℚ)
    (result : RateLimitResult)
    (ran : checkTokenBucket slot policy now clock = .ok (after, result)) :
    zsetPart slot = none ∧ zsetPart after = none := by
  rcases slot with _ | ⟨_ | _ | _, deadline⟩
  case none | some.hash =>
    refine ⟨rfl, ?_⟩
    simp only [checkTokenBucket, tokenBucketScript, hmget, hset, asHash, bind, Except.bind,
      pure, Except.pure, Except.ok.injEq, Prod.mk.injEq] at ran
    rw [← ran.1, expire]
    split <;> rfl
  case some.text | some.zset =>
    simp [checkTokenBucket, tokenBucketScript, hmget, asHash, bind, Except.bind] at ran

/-! ## One request on the key -/

section Step

variable (policies : Uuid → List RateLimitPolicy) (policy : EffectivePolicy)
  (request : LimitRequest) (slot : Slot) (other : EffectivePolicy)

/-- A sliding window with room adds a member that the set does not hold. -/
def FreshMember : Prop :=
  ∀ set, other.algorithm = .slidingWindow → asZSet (presentSlot slot request.call) = .ok set →
      ((evictedAt other request.call set).card : Int) < other.requestLimit →
        (evictedAt other request.call set).contains
          (slidingMember request.call.now request.call.random) = false

/-- The admitted requests of the policy after one more request on the key. -/
def admittedAfter (mine : Bool) (admitted : List ℚ) : List ℚ :=
  if mine = true ∧ (serveSlot policies request slot).2 = .allowed then
    request.call.now :: admitted
  else admitted

theorem serveSlot_of_ok (after : Slot) (result : RateLimitResult)
    (resolved : policyFor policies request = .ok other)
    (ans : check (presentSlot slot request.call) other request.call = .ok (after, result)) :
    serveSlot policies request slot = (after, if result.allowed then .allowed else .denied) := by
  simp [serveSlot, resolved, ans]

theorem check_sliding_wrongType (failure : RedisError)
    (sliding : other.algorithm = .slidingWindow) (held : asZSet slot = .error failure) :
    check slot other request.call = .error failure := by
  simp [check, sliding, checkSlidingWindow, slidingWindowScript, zremrangebyscore, held,
    bind, Except.bind]

theorem check_sliding_admits (set : ZSet) (sliding : other.algorithm = .slidingWindow)
    (held : asZSet slot = .ok set) (pos : 0 < other.windowSeconds)
    (room : ((evictedAt other request.call set).card : Int) < other.requestLimit) :
    ∃ after result, check slot other request.call = .ok (after, result) ∧ result.allowed = true ∧
      asZSet after = .ok ((evictedAt other request.call set).add request.call.now
        (slidingMember request.call.now request.call.random)) ∧
      ∀ deadline, deadlineOf after = some deadline →
        deadline = request.call.clock + other.windowSeconds := by
  obtain ⟨after, reply, ran, allowed, holds, expiry⟩ :=
    slidingWindowScript_admits slot set other.requestLimit other.windowSeconds
      request.call.now request.call.clock
      (slidingMember request.call.now request.call.random) held pos room
  exact ⟨after, _, by
    simp [check, sliding, checkSlidingWindow, ran];
    rfl, allowed, holds, expiry⟩

theorem check_sliding_refuses (set : ZSet) (sliding : other.algorithm = .slidingWindow)
    (held : asZSet slot = .ok set)
    (full : other.requestLimit ≤ (evictedAt other request.call set).card) :
    ∃ after result, check slot other request.call = .ok (after, result) ∧ result.allowed = false ∧
      asZSet after = .ok (evictedAt other request.call set) ∧
      ∀ deadline, deadlineOf after = some deadline → deadlineOf slot = some deadline := by
  obtain ⟨after, reply, ran, refused, holds, expiry⟩ :=
    slidingWindowScript_refuses slot set other.requestLimit other.windowSeconds
      request.call.now request.call.clock
      (slidingMember request.call.now request.call.random) held full
  exact ⟨after, _, by
    simp [check, sliding, checkSlidingWindow, ran];
    rfl, refused, holds, expiry⟩

theorem serveSlot_sliding_counted (mine : Bool) (admitted : List ℚ) (set : ZSet)
    (resolved : policyFor policies request = .ok other)
    (sliding : other.algorithm = .slidingWindow)
    (own : mine = true → other = policy)
    (pos : 0 < policy.windowSeconds)
    (longer : policy.windowSeconds ≤ other.windowSeconds)
    (fresh : FreshMember request slot other)
    (held : asZSet (presentSlot slot request.call) = .ok set)
    (counted : Counted policy request.call.now request.call.clock
      ⟨presentSlot slot request.call, admitted⟩) :
    Counted policy request.call.now request.call.clock
      ⟨zsetPart (serveSlot policies request slot).1,
        admittedAfter policies request slot mine admitted⟩ := by
  have counts : ∀ threshold, request.call.now - policy.windowSeconds ≤ threshold →
      admittedAbove ⟨presentSlot slot request.call, admitted⟩ threshold ≤
        set.countAbove threshold := by
    obtain ⟨actual, actualHeld, actualCounts⟩ := counted.held
    obtain rfl : set = actual := Except.ok.inj (held.symm.trans actualHeld)
    exact actualCounts
  have wide : (policy.windowSeconds : ℚ) ≤ other.windowSeconds := by exact_mod_cast longer
  have evictedCounts : ∀ threshold, request.call.now - policy.windowSeconds ≤ threshold →
      (evictedAt other request.call set).countAbove threshold = set.countAbove threshold := by
    intro threshold recent
    exact ZSet.countAbove_removeUpTo set _ _ (by linarith)
  by_cases room : ((evictedAt other request.call set).card : Int) < other.requestLimit
  · obtain ⟨after, result, ans, allowed, added, expiry⟩ :=
      check_sliding_admits request _ other set sliding held (by omega) room
    have served := serveSlot_of_ok policies request slot other after result resolved ans
    rw [allowed, if_pos rfl] at served
    rw [admittedAfter, served, zsetPart_of_ok after _ added]
    have newMember := fresh set sliding held room
    cases mine with
    | true =>
      obtain rfl := own rfl
      exact counted.admit after set counts room newMember added expiry
    | false =>
      refine counted.replace after _ added ?_ ?_
      · intro threshold recent
        rw [ZSet.countAbove_add_of_fresh _ _ _ _ newMember, evictedCounts threshold recent]
        exact le_trans (counts threshold recent) (Nat.le_add_right _ _)
      · intro deadline stored
        rw [expiry deadline stored]
        exact .inr (by linarith)
  · obtain ⟨after, result, ans, refused, kept, expiry⟩ :=
      check_sliding_refuses request _ other set sliding held (not_lt.mp room)
    have served := serveSlot_of_ok policies request slot other after result resolved ans
    rw [refused, if_neg Bool.false_ne_true] at served
    rw [admittedAfter, served, zsetPart_of_ok after _ kept, if_neg (by simp)]
    refine counted.replace after _ kept ?_ (fun deadline stored => .inl (expiry deadline stored))
    intro threshold recent
    rw [evictedCounts threshold recent]
    exact counts threshold recent

theorem serveSlot_counted (mine : Bool) (admitted : List ℚ)
    (resolved : policyFor policies request = .ok other)
    (ownSliding : policy.algorithm = .slidingWindow)
    (own : mine = true → other = policy)
    (pos : 0 < policy.windowSeconds)
    (longer : other.algorithm = .slidingWindow → policy.windowSeconds ≤ other.windowSeconds)
    (fresh : FreshMember request slot other)
    (counted : Counted policy request.call.now request.call.clock ⟨zsetPart slot, admitted⟩) :
    Counted policy request.call.now request.call.clock
      ⟨zsetPart (serveSlot policies request slot).1,
        admittedAfter policies request slot mine admitted⟩ := by
  have present := counted.slotAt
  rw [← zsetPart_presentSlot] at present
  have unchanged : ∀ failure,
      check (presentSlot slot request.call) other request.call = .error failure →
        Counted policy request.call.now request.call.clock
          ⟨zsetPart (serveSlot policies request slot).1,
            admittedAfter policies request slot mine admitted⟩ := by
    intro failure failed
    have served : serveSlot policies request slot = (slot, .redisError failure) := by
      simp [serveSlot, resolved, failed]
    rw [admittedAfter, served, if_neg (by simp)]
    exact counted
  cases algorithm : other.algorithm with
  | slidingWindow =>
    cases held : asZSet (presentSlot slot request.call) with
    | error failure =>
      exact unchanged failure (check_sliding_wrongType request _ other failure algorithm held)
    | ok set =>
      rw [zsetPart_of_ok _ set held] at present
      exact serveSlot_sliding_counted policies policy request slot other mine admitted set
        resolved algorithm own pos (longer algorithm) fresh held present
  | tokenBucket =>
    have foreign : mine = false := by
      cases mine with
      | false => rfl
      | true =>
        rw [own rfl, ownSliding] at algorithm
        cases algorithm
    cases ans : check (presentSlot slot request.call) other request.call with
    | error failure => exact unchanged failure ans
    | ok answer =>
      obtain ⟨after, result⟩ := answer
      have served :=
        serveSlot_of_ok policies request slot other after result resolved ans
      rw [check, algorithm] at ans
      obtain ⟨before, left⟩ := zsetPart_checkTokenBucket _ after other _ _ result ans
      have uncounted : admittedAfter policies request slot mine admitted = admitted := by
        simp [admittedAfter, foreign]
      rw [uncounted, served, left, ← before]
      exact present

end Step

/-! ## Whole runs on one key -/

section Runs

variable (policies : Uuid → List RateLimitPolicy)

/-- Admitted requests of one kind with timestamps in `(final - window, final]`. -/
def admittedIn (counts : LimitRequest → Bool) (window : Int) (final : ℚ)
    (served : List (LimitRequest × Outcome)) : Nat :=
  served.countP fun entry => counts entry.1 && decide (entry.2 = .allowed) &&
    decide (final - window < entry.1.call.now ∧ entry.1.call.now ≤ final)

/-- Every admission of the run by a sliding window adds a new member. -/
def FreshRun : Buckets → List LimitRequest → Prop
  | _, [] => True
  | buckets, request :: rest =>
    (∀ other, policyFor policies request = .ok other →
      FreshMember request (buckets (bucketOf request other)) other) ∧
    FreshRun (serve policies buckets request).1 rest

/-- No sliding window shorter than `window` counts under the key. -/
def NoShorterWindow (window : Int) (key : String) (requests : List LimitRequest) : Prop :=
  ∀ request ∈ requests, ∀ other, policyFor policies request = .ok other →
    bucketOf request other = key → other.algorithm = .slidingWindow → window ≤ other.windowSeconds

variable (policy : EffectivePolicy) (key : String) (mine : LimitRequest → Bool)

theorem keyFor_eq_some_iff (request : LimitRequest) : keyFor policies request = some key ↔
      ∃ other, policyFor policies request = .ok other ∧ bucketOf request other = key := by
  unfold keyFor
  cases policyFor policies request with
  | error failure => simp
  | ok other => simp

theorem admittedIn_cons (window : Int) (final : ℚ) (request : LimitRequest)
    (slot before after : Slot) (admitted : List ℚ)
    (served : List (LimitRequest × Outcome)) :
    admittedIn mine window final ((request, (serveSlot policies request slot).2) :: served) +
        admittedWithin ⟨before, admitted⟩ window final =
      admittedIn mine window final served + admittedWithin ⟨after,
          admittedAfter policies request slot (mine request) admitted⟩ window final := by
  unfold admittedAfter
  split
  · rename_i admits
    rw [admittedWithin_cons after request.call.now ⟨before, admitted⟩, admittedIn,
      countP_cons, admittedIn]
    simp only [admits.1, admits.2, decide_true, Bool.true_and, decide_eq_true_eq]
    omega
  · rename_i skips
    have unseen : (mine request && decide ((serveSlot policies request slot).2 = .allowed))
        = false := by
      simpa using skips
    rw [admittedIn, countP_cons, admittedIn]
    simp only [unseen]
    rfl

theorem serve_counted (sliding : policy.algorithm = .slidingWindow)
    (pos : 0 < policy.windowSeconds) (request : LimitRequest) (buckets : Buckets)
    (admitted : List ℚ)
    (own : mine request = true →
      policyFor policies request = .ok policy ∧ bucketOf request policy = key)
    (longer : ∀ other, policyFor policies request = .ok other → bucketOf request other = key →
      other.algorithm = .slidingWindow → policy.windowSeconds ≤ other.windowSeconds)
    (fresh : ∀ other, policyFor policies request = .ok other →
      FreshMember request (buckets (bucketOf request other)) other)
    (counted : Counted policy request.call.now request.call.clock
      ⟨zsetPart (buckets key), admitted⟩) :
    ∃ nowAdmitted, Counted policy request.call.now request.call.clock
        ⟨zsetPart ((serve policies buckets request).1 key), nowAdmitted⟩ ∧
      ∀ final served, admittedIn mine policy.windowSeconds final
          ((request, (serve policies buckets request).2) :: served) +
          admittedWithin ⟨zsetPart (buckets key), admitted⟩ policy.windowSeconds final =
        admittedIn mine policy.windowSeconds final served +
          admittedWithin ⟨zsetPart ((serve policies buckets request).1 key), nowAdmitted⟩
            policy.windowSeconds final := by
  by_cases here : keyFor policies request = some key
  · obtain ⟨other, resolved, sameKey⟩ := (keyFor_eq_some_iff policies key request).mp here
    have slotFresh := fresh other resolved
    rw [sameKey] at slotFresh
    have ownPolicy : mine request = true → other = policy :=
      fun isMine => Except.ok.inj (resolved.symm.trans (own isMine).1)
    have next := serveSlot_counted policies policy request (buckets key) other
      (mine request) admitted resolved sliding ownPolicy pos
      (longer other resolved sameKey) slotFresh counted
    obtain ⟨cell, reply⟩ := (machine policies).step_same_key buckets request key here
    rw [← serve_eq_step] at cell reply
    rw [cell, reply]
    exact ⟨_, next, fun final served => admittedIn_cons policies mine policy.windowSeconds
      final request (buckets key) _ _ admitted served⟩
  · have notMine : mine request = false := by
      by_contra isMine
      rw [Bool.not_eq_false] at isMine
      obtain ⟨resolved, sameKey⟩ := own isMine
      exact here ((keyFor_eq_some_iff policies key request).mpr ⟨policy, resolved, sameKey⟩)
    have cell := (machine policies).step_other_key buckets request key here
    rw [← serve_eq_step] at cell
    rw [cell]
    refine ⟨admitted, counted, ?_⟩
    simp [admittedIn, notMine]

theorem serveAll_bounded (sliding : policy.algorithm = .slidingWindow)
    (pos : 0 < policy.windowSeconds) :
    ∀ (requests : List LimitRequest) (previous : Call) (buckets : Buckets) (admitted : List ℚ),
      (∀ request ∈ requests, mine request = true →
        policyFor policies request = .ok policy ∧ bucketOf request policy = key) →
      NoShorterWindow policies policy.windowSeconds key requests →
      (previous :: requests.map (·.call)).Pairwise Follows →
      FreshRun policies buckets requests →
      Counted policy previous.now previous.clock ⟨zsetPart (buckets key), admitted⟩ →
        ∀ final, (admittedIn mine policy.windowSeconds final (serveAll policies buckets requests) +
          admittedWithin ⟨zsetPart (buckets key), admitted⟩ policy.windowSeconds final : Int) ≤
            policy.requestLimit := by
  intro requests
  induction requests with
  | nil =>
    intro previous buckets admitted _ _ _ _ counted final
    simpa [serveAll, admittedIn] using counted.bounded final
  | cons request rest ih =>
    intro previous buckets admitted own longer ordered fresh counted final
    obtain ⟨follows, restOrdered⟩ := pairwise_cons.mp ordered
    obtain ⟨later, paced⟩ := follows request.call mem_cons_self
    have arrived := counted.advance request.call.now request.call.clock later paced
    obtain ⟨nowAdmitted, next, counts⟩ := serve_counted policies policy key mine sliding
      pos request buckets admitted (own request mem_cons_self)
      (longer request mem_cons_self) fresh.1 arrived
    have bound := ih request.call (serve policies buckets request).1 nowAdmitted
      (fun one mem => own one (mem_cons_of_mem _ mem))
      (fun one mem => longer one (mem_cons_of_mem _ mem)) restOrdered fresh.2
      next final
    rw [serveAll]
    rw [← Nat.cast_add] at bound ⊢
    rw [counts]
    exact bound

theorem freshRun_of_limits (requests : List LimitRequest)
    (single : ∀ request ∈ requests, ∀ other, policyFor policies request = .ok other →
      other.requestLimit = 1) : ∀ buckets, FreshRun policies buckets requests := by
  induction requests with
  | nil =>
    intro buckets
    trivial
  | cons request rest ih =>
    intro buckets
    refine ⟨?_, ih (fun one mem => single one (mem_cons_of_mem _ mem)) _⟩
    intro other resolved set _ _ room
    exact new_member_of_limit_one other request.call set _
      (single request mem_cons_self other resolved) room

end Runs

/-! ## The documented buckets -/

section Documented

variable (policies : Uuid → List RateLimitPolicy) (tenantId : Uuid)
  (policy : RateLimitPolicy) (slug tool : String)

/-- The scope mapping in the docstring of `RateLimiter.check`: a tool policy has a bucket
for each server and tool, a server policy for each server, a subject policy a single one,
and a global policy one for each server when it names servers. -/
def sameBucket (request : LimitRequest) : Bool :=
  match scopeForLevel (selectorLevel policy) with
  | .tool => decide (request.serverSlug = slug ∧ request.toolOrMethod = tool)
  | .server => decide (request.serverSlug = slug)
  | .subject => true
  | .global => !policy.serverPattern.isSome || decide (request.serverSlug = slug)

def bucketKey : String :=
  checkKey tenantId (policy.subjectId.getD "") slug tool (scopeForLevel (selectorLevel policy))

theorem assignedTo_spec (request : LimitRequest)
    (assigned : assignedTo policies tenantId policy request = true) :
    request.tenantId = tenantId ∧ policyFor policies request = .ok (effectiveOf policy) ∧
      (policy.subjectId.isSome = true → policy.subjectId = some request.subjectId) := by
  rw [assignedTo, decide_eq_true_eq] at assigned
  obtain ⟨tenant, chosen⟩ := assigned
  refine ⟨tenant, resolvePolicy_of_chosen _ _ _ _ _ _ policy chosen, ?_⟩
  obtain ⟨_, matched, _⟩ := chosenPolicy_spec _ _ _ _ _ policy chosen
  rw [policyMatches, Bool.and_eq_true, Bool.and_eq_true] at matched
  have subject := matched.1.1
  unfold subjectApplies at subject
  cases named : policy.subjectId with
  | none => simp
  | some wanted =>
    intro _
    by_contra ne
    have refused : some request.subjectId ≠ some wanted := fun same => ne same.symm
    simp only [named, if_pos refused] at subject
    cases subject

theorem bucketOf_assigned (request : LimitRequest)
    (documented : OwnLevel policy ∨ policy.serverPattern.isSome = true)
    (assigned : assignedTo policies tenantId policy request = true)
    (inside : sameBucket policy slug tool request = true) :
    bucketOf request (effectiveOf policy) = bucketKey tenantId policy slug tool := by
  obtain ⟨tenant, _, subject⟩ := assignedTo_spec policies tenantId policy request assigned
  unfold bucketOf bucketKey effectiveOf
  rw [tenant]
  by_cases own : OwnLevel policy
  · have subjectEq : policy.subjectId.getD "" = request.subjectId := by
      rw [subject own.1, Option.getD_some]
    rw [subjectEq]
    unfold sameBucket at inside
    cases scope : scopeForLevel (selectorLevel policy) with
    | tool =>
      rw [scope, decide_eq_true_eq] at inside
      rw [inside.1, inside.2]
    | server =>
      rw [scope, decide_eq_true_eq] at inside
      rw [inside]
      rfl
    | subject => rfl
    | global => exact absurd own ((scopeForLevel_global_iff policy).mp scope)
  · have scope := (scopeForLevel_global_iff policy).mpr own
    have servers := documented.resolve_left own
    unfold sameBucket at inside
    rw [scope] at inside ⊢
    simp only [servers, Bool.not_true, Bool.false_or, decide_eq_true_eq] at inside
    rw [inside]
    rfl

/-- In each documented bucket of a stored sliding-window policy at most the limit is
admitted in any window, when the timestamps do not go back, every admission adds a new
member, and no shorter sliding window counts under the same key. -/
theorem documented_bucket_bound (sliding : policy.algorithm = .slidingWindow)
    (limitPositive : 0 < policy.requestLimit) (windowPositive : 0 < policy.windowSeconds)
    (documented : OwnLevel policy ∨ policy.serverPattern.isSome = true)
    (requests : List LimitRequest)
    (ordered : (requests.map (·.call)).Pairwise Follows)
    (fresh : FreshRun policies (fun _ => none) requests)
    (longer : NoShorterWindow policies policy.windowSeconds
      (bucketKey tenantId policy slug tool) requests) (final : ℚ) :
    (admittedIn (fun request => assignedTo policies tenantId policy request &&
        sameBucket policy slug tool request) policy.windowSeconds final
      (serveAll policies (fun _ => none) requests) : Int) ≤ policy.requestLimit := by
  cases requests with
  | nil => exact le_of_lt limitPositive
  | cons first rest =>
    have bound := serveAll_bounded policies (effectiveOf policy)
      (bucketKey tenantId policy slug tool)
      (fun request => assignedTo policies tenantId policy request &&
        sameBucket policy slug tool request) sliding windowPositive (first :: rest)
      first.call (fun _ => none) []
      (by
        intro request _ counted
        rw [Bool.and_eq_true] at counted
        exact ⟨(assignedTo_spec policies tenantId policy request counted.1).2.1,
          bucketOf_assigned policies tenantId policy slug tool request documented
            counted.1 counted.2⟩)
      longer (pairwise_follows_first first.call _ ordered) fresh
      (Counted.start (effectiveOf policy) first.call.now first.call.clock limitPositive)
      final
    simpa [admittedWithin, effectiveOf] using bound

end Documented

def oncePolicy : RateLimitPolicy :=
  { subjectPolicy (some "github-*") (some "*") with requestLimit := 1 }

def oncePolicies : Uuid → List RateLimitPolicy := fun _ => [oncePolicy]

def onceRequests (first second : String) : List LimitRequest :=
  [toolRequest "github-mcp" first (callAt 1), toolRequest "github-mcp" second (callAt 2)]

theorem freshRun_onceRequests (first second : String) (buckets : Buckets)
    (firstOnce : policyFor oncePolicies (toolRequest "github-mcp" first (callAt 1)) =
      .ok (effectiveOf oncePolicy))
    (secondOnce : policyFor oncePolicies (toolRequest "github-mcp" second (callAt 2)) =
      .ok (effectiveOf oncePolicy)) :
    FreshRun oncePolicies buckets (onceRequests first second) := by
  apply freshRun_of_limits
  intro request mem other resolved
  rcases mem_pair.mp mem with rfl | rfl
  · rw [firstOnce] at resolved
    rw [← Except.ok.inj resolved]
    rfl
  · rw [secondOnce] at resolved
    rw [← Except.ok.inj resolved]
    rfl

theorem documented_bucket_bound_sample :
    (admittedIn (fun request => assignedTo oncePolicies tenantOne oncePolicy request &&
        sameBucket oncePolicy "github-mcp" "read_file" request) 60 2
      (serveAll oncePolicies (fun _ => none) (onceRequests "read_file" "read_file")) : Int)
      ≤ 1 :=
  documented_bucket_bound oncePolicies tenantOne oncePolicy "github-mcp" "read_file" rfl
    (by decide) (by decide) (.inr rfl) (onceRequests "read_file" "read_file")
    (by simp [onceRequests, toolRequest, callAt, Follows])
    (freshRun_onceRequests "read_file" "read_file" _ (by decide +kernel) (by decide +kernel))
    (by
      intro request mem other resolved _ _
      have once : policyFor oncePolicies request = .ok (effectiveOf oncePolicy) := by
        rcases mem_pair.mp mem with rfl | rfl
        · decide +kernel
        · decide +kernel
      rw [once] at resolved
      rw [← Except.ok.inj resolved]
      rfl) 2

/-- Spread over two tools, two requests are admitted in one minute. -/
theorem once_policy_admits_two :
    ((onceRequests "read_file" "write_file").map (·.call)).Pairwise Follows ∧
      FreshRun oncePolicies (fun _ => none) (onceRequests "read_file" "write_file") ∧
      ¬ (admittedIn (assignedTo oncePolicies tenantOne oncePolicy) oncePolicy.windowSeconds
          2 (serveAll oncePolicies (fun _ => none)
            (onceRequests "read_file" "write_file")) : Int) ≤ oncePolicy.requestLimit :=
  ⟨by simp [onceRequests, toolRequest, callAt, Follows],
    freshRun_onceRequests "read_file" "write_file" _ (by decide +kernel) (by decide +kernel),
    by decide +kernel⟩

end Portcullis.Limits.OneLimit
