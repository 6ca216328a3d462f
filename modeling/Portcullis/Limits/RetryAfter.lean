import Portcullis.Gateway.AuthContext
import Portcullis.Limits.Enforcement
import Portcullis.Limits.TokenBucket

/-!
# What `Retry-After` promises

A refused request is told to wait for the whole seconds of what the script reports: the time
until the bucket is full, or until the oldest call leaves the window.  A token is there
earlier than a full bucket, but the fraction of a second that the header drops may be the one
in which the token, or the room in the window, comes.
-/

namespace Portcullis.Limits.RetryAfter

open Gateway Lib.Redis Limits.Enforcement Limits.Policies Limits.RedisBucket Limits.SlidingWindow
  Limits.TokenBucket Models

/-- What the check constraints of a stored policy and the validator of the default ask. -/
structure Positive (policy : EffectivePolicy) : Prop where
  limit : 0 < policy.requestLimit
  window : 0 < policy.windowSeconds
  capacity : 0 < bucketCapacity policy

/-- `int(rl_result.retry_after_seconds)`. -/
def advertised (result : RateLimitResult) : Int :=
  result.retryAfterSeconds.num.tdiv result.retryAfterSeconds.den

/-- The same request after a pause in which nothing else touched the key. -/
def again (call : Call) (wait random : ℚ) : Call :=
  ⟨call.now + wait, call.clock + wait, random, true⟩

def Admitted (policy : EffectivePolicy) (slot : Slot) (call : Call) : Prop :=
  ∃ after result, check (presentSlot slot call) policy call = .ok (after, result) ∧
    result.allowed = true

/-- The whole seconds that are reported reach to the moment of the next admission, or to the
expiry of the key.  A bucket with `tokens` reports the time until it is full and admits once a
token is there; a window reports when its oldest entry leaves and admits once fewer entries
than the limit are left. -/
def Sufficient (policy : EffectivePolicy) (slot : Slot) (call : Call) : Prop :=
  match policy.algorithm with
  | .tokenBucket => ∀ tokens, level policy slot call.now = .ok tokens →
      min ⌈(1 - tokens) / refillRate policy⌉ (bucketTtl policy) ≤
        luaRounded ((bucketCapacity policy - tokens) / refillRate policy)
  | .slidingWindow => ∀ set, asZSet slot = .ok set →
      let pause := ⌊luaRounded (resetAfter (evictedAt policy call set).oldest
        policy.windowSeconds call.now)⌋
      set.countAbove (call.now + pause - policy.windowSeconds) < policy.requestLimit ∨
        ∃ deadline ∈ deadlineOf slot, deadline ≤ call.clock + pause

/-! ## Numbers -/

theorem luaRounded_nonneg {value : ℚ} (nonneg : 0 ≤ value) : 0 ≤ luaRounded value := by
  rw [luaRounded]
  split
  · exact le_refl 0
  · dsimp only
    rw [if_neg (not_lt.mpr nonneg), one_mul]
    positivity

theorem tdiv_eq_floor {value : ℚ} (nonneg : 0 ≤ value) : value.num.tdiv value.den = ⌊value⌋ := by
  rw [Int.tdiv_eq_ediv_of_nonneg (Rat.num_nonneg.mpr nonneg), Rat.floor_def']

theorem forall_later_iff {Random : Type} [Inhabited Random] {admitted : ℚ → Random → Prop}
    {ready : ℚ → Prop} (start : ℚ) (stays : ∀ wait, start ≤ wait → ready start → ready wait)
    (same : ∀ wait random, start ≤ wait → (admitted wait random ↔ ready wait)) :
    (∀ wait random, start ≤ wait → admitted wait random) ↔ ready start := by
  constructor
  · exact fun always => (same start default (le_refl start)).mp (always _ _ (le_refl start))
  · exact fun now wait random later => (same wait random later).mpr (stays wait later now)

/-! ## The token bucket -/

section Bucket

variable {policy : EffectivePolicy} (positive : Positive policy)

include positive

theorem Positive.rate : 0 < refillRate policy :=
  div_pos (Int.cast_pos.mpr positive.limit) (Int.cast_pos.mpr positive.window)

theorem Positive.ttl : 0 < bucketTtl policy :=
  bucketTtl_pos policy (Int.cast_nonneg (le_of_lt positive.capacity)) (le_of_lt positive.rate)

theorem Positive.one_le_capacity : (1 : ℚ) ≤ bucketCapacity policy := by
  have whole : 1 ≤ bucketCapacity policy := positive.capacity
  exact_mod_cast whole

variable (bucket : policy.algorithm = .tokenBucket)

include bucket

variable {call : Call} {slot : Slot}

theorem check_bucket {tokens : ℚ} (found : level policy slot call.now = .ok tokens) :
    ∃ after fields, check slot policy call = .ok (after, resultAt policy tokens) ∧
      asHash after = .ok fields ∧ getField "tokens" fields = some (leftAfter tokens) ∧
      getField "last_refill" fields = some call.now ∧
      deadlineOf after = some (call.clock + bucketTtl policy) := by
  rw [check, bucket]
  exact checkTokenBucket_spec policy slot call.now call.clock tokens positive.ttl found

theorem admitted_bucket_iff {tokens : ℚ}
    (found : level policy (presentSlot slot call) call.now = .ok tokens) :
    Admitted policy slot call ↔ 1 ≤ tokens := by
  obtain ⟨after, fields, ans, -⟩ := check_bucket positive bucket found
  constructor
  · rintro ⟨other, result, replied, allowed⟩
    rw [ans] at replied
    cases replied
    exact of_decide_eq_true allowed
  · exact fun enough => ⟨after, _, ans, decide_eq_true enough⟩

theorem bucket_again_iff {after : Slot} {fields : Fields} {tokens : ℚ}
    (held : asHash after = .ok fields) (stored : getField "tokens" fields = some tokens)
    (refilled : getField "last_refill" fields = some call.now)
    (expires : deadlineOf after = some (call.clock + bucketTtl policy)) (wait random : ℚ) :
    Admitted policy after (again call wait random) ↔
      (1 - tokens) / refillRate policy ≤ wait ∨ (bucketTtl policy : ℚ) ≤ wait := by
  have due : (∃ deadline ∈ deadlineOf after, deadline ≤ call.clock + wait) ↔
      (bucketTtl policy : ℚ) ≤ wait := by
    rw [expires]
    simp
  rcases lapse_eq after (call.clock + wait) with ⟨gone, passed⟩ | ⟨kept, early⟩
  · have full : level policy (presentSlot after (again call wait random))
        (again call wait random).now = .ok (bucketCapacity policy : ℚ) := by
      show level policy (lapse after (call.clock + wait)) _ = _
      rw [gone, level_none]
    rw [admitted_bucket_iff positive bucket full]
    exact ⟨fun _ => .inr (due.mp passed), fun _ => positive.one_le_capacity⟩
  · have partly : level policy (presentSlot after (again call wait random))
        (again call wait random).now =
          .ok (min (bucketCapacity policy : ℚ) (tokens + wait * refillRate policy)) := by
      show level policy (lapse after (call.clock + wait)) (call.now + wait) = _
      rw [kept, level_eq policy after fields held, stored, refilled, Option.getD_some,
        Option.getD_some, add_sub_cancel_left]
    rw [admitted_bucket_iff positive bucket partly, le_min_iff, div_le_iff₀ positive.rate,
      sub_le_iff_le_add']
    constructor
    · exact fun enough => .inl enough.2
    · rintro (enough | passed)
      · exact ⟨positive.one_le_capacity, enough⟩
      · exact absurd (due.mpr passed) early

omit positive in
theorem level_of_check {after : Slot} {result : RateLimitResult}
    (ans : check slot policy call = .ok (after, result)) :
    ∃ tokens, level policy slot call.now = .ok tokens := by
  rw [check, bucket] at ans
  cases held : asHash slot with
  | error failure =>
    simp [checkTokenBucket, tokenBucketScript, hmget, held, bind, Except.bind] at ans
  | ok fields => exact ⟨_, level_eq policy slot fields held call.now⟩

theorem bucket_retry_iff {after : Slot} {result : RateLimitResult}
    (ans : check slot policy call = .ok (after, result)) (denied : result.allowed = false) :
    (∀ wait random, (advertised result : ℚ) ≤ wait →
      Admitted policy after (again call wait random)) ↔ Sufficient policy slot call := by
  obtain ⟨tokens, found⟩ := level_of_check bucket ans
  obtain ⟨_, fields, replied, held, stored, refilled, expires⟩ :=
    check_bucket positive bucket found
  rw [ans] at replied
  cases replied
  have short : ¬ 1 ≤ tokens := of_decide_eq_false denied
  rw [leftAfter, if_neg short] at stored
  have reported : (resultAt policy tokens).retryAfterSeconds =
      luaRounded ((bucketCapacity policy - tokens) / refillRate policy) := by
    rw [resultAt, if_neg short, leftAfter, if_neg short]
  have unfilled : 0 ≤ (bucketCapacity policy - tokens) / refillRate policy :=
    div_nonneg (sub_nonneg.mpr (level_le policy slot call.now tokens found))
      (le_of_lt positive.rate)
  have whole : advertised (resultAt policy tokens) =
      ⌊luaRounded ((bucketCapacity policy - tokens) / refillRate policy)⌋ := by
    rw [advertised, reported, tdiv_eq_floor (luaRounded_nonneg unfilled)]
  have ready := bucket_again_iff positive bucket held stored refilled expires
  have suffices_iff : Sufficient policy slot call ↔
      min ⌈(1 - tokens) / refillRate policy⌉ (bucketTtl policy) ≤
        luaRounded ((bucketCapacity policy - tokens) / refillRate policy) := by
    rw [Sufficient, bucket]
    exact ⟨fun enough => enough tokens found,
      fun enough other same => by rwa [← Except.ok.inj (found.symm.trans same)]⟩
  rw [forall_later_iff _ (fun wait later => Or.imp later.trans' later.trans')
    (fun wait random _ => ready wait random), suffices_iff, whole, ← Int.ceil_le, Int.cast_le,
    ← min_le_iff, Int.le_floor]

end Bucket

/-! ## The sliding window -/

section Window

variable {policy : EffectivePolicy} (positive : Positive policy)
  (sliding : policy.algorithm = .slidingWindow)

include sliding

variable {call : Call} {slot : Slot}

theorem set_of_check {after : Slot} {result : RateLimitResult}
    (ans : check slot policy call = .ok (after, result)) :
    ∃ set, asZSet slot = .ok set := by
  rw [check, sliding] at ans
  cases held : asZSet slot with
  | error failure =>
    simp [checkSlidingWindow, slidingWindowScript, zremrangebyscore, held, bind,
      Except.bind] at ans
  | ok set => exact ⟨set, rfl⟩

theorem check_window_refuses {slot : Slot} {call : Call} {set : ZSet} (held : asZSet slot = .ok set)
    (full : policy.requestLimit ≤ (evictedAt policy call set).card) :
    ∃ result, check slot policy call =
        .ok (storeZSet slot (evictedAt policy call set), result) ∧ result.allowed = false ∧
      result.retryAfterSeconds = luaRounded (resetAfter (evictedAt policy call set).oldest
        policy.windowSeconds call.now) := by
  have noRoom : ¬ ((set.removeUpTo (call.now - policy.windowSeconds)).card : Int) <
      policy.requestLimit := not_lt.mpr full
  rw [check, sliding]
  simp only [checkSlidingWindow, slidingWindowScript, zremrangebyscore, zcard, zrangeFirst, held,
    asZSet_storeZSet, bind, Except.bind, pure, Except.pure, if_neg noRoom, decide_eq_false noRoom]
  exact ⟨_, rfl, rfl, rfl⟩

include positive

theorem check_window_admits {set : ZSet} (held : asZSet slot = .ok set)
    (room : ((evictedAt policy call set).card : Int) < policy.requestLimit) :
    ∃ after result, check slot policy call = .ok (after, result) ∧ result.allowed = true := by
  obtain ⟨after, reply, ran, allowed, -⟩ := slidingWindowScript_admits slot set
    policy.requestLimit policy.windowSeconds call.now call.clock
    (slidingMember call.now call.random) held positive.window room
  rw [check, sliding]
  simp only [checkSlidingWindow, ran]
  exact ⟨after, _, rfl, allowed⟩

theorem admitted_window_iff {set : ZSet} (held : asZSet (presentSlot slot call) = .ok set) :
    Admitted policy slot call ↔
      (set.countAbove (call.now - policy.windowSeconds) : Int) < policy.requestLimit := by
  have counted : (evictedAt policy call set).card =
      set.countAbove (call.now - policy.windowSeconds) := by
    rw [ZSet.card, evictedAt, ZSet.removeUpTo, ZSet.countAbove, List.countP_eq_length_filter]
  rw [← counted]
  constructor
  · rintro ⟨after, result, ans, allowed⟩
    by_contra full
    obtain ⟨refusal, refused, denied, -⟩ := check_window_refuses sliding held (not_lt.mp full)
    rw [ans] at refused
    cases refused
    rw [allowed] at denied
    cases denied
  · exact check_window_admits positive sliding held

theorem window_again_iff (slot : Slot) {set : ZSet}
    (full : policy.requestLimit ≤ (evictedAt policy call set).card) {wait : ℚ} (later : 0 ≤ wait)
    (random : ℚ) :
    Admitted policy (storeZSet slot (evictedAt policy call set)) (again call wait random) ↔
      (set.countAbove (call.now + wait - policy.windowSeconds) : Int) < policy.requestLimit ∨
        ∃ deadline ∈ deadlineOf slot, deadline ≤ call.clock + wait := by
  have limit := positive.limit
  have stored : storeZSet slot (evictedAt policy call set) =
      some ⟨.zset (evictedAt policy call set), deadlineOf slot⟩ := by
    rw [storeZSet, if_neg]
    rw [List.isEmpty_iff_length_eq_zero]
    rw [ZSet.card] at full
    omega
  have above : (evictedAt policy call set).countAbove (call.now + wait - policy.windowSeconds) =
        set.countAbove (call.now + wait - policy.windowSeconds) :=
    ZSet.countAbove_removeUpTo _ _ _ (by linarith)
  rw [stored]
  rcases lapse_eq (some ⟨.zset (evictedAt policy call set), deadlineOf slot⟩)
    (call.clock + wait) with ⟨gone, passed⟩ | ⟨kept, early⟩
  · have vacant : asZSet (presentSlot (some ⟨.zset (evictedAt policy call set),
        deadlineOf slot⟩) (again call wait random)) = .ok ZSet.empty := by
      show asZSet (lapse _ (call.clock + wait)) = _
      rw [gone]
      rfl
    rw [admitted_window_iff positive sliding vacant]
    exact ⟨fun _ => .inr passed, fun _ => limit⟩
  · have holds : asZSet (presentSlot (some ⟨.zset (evictedAt policy call set),
        deadlineOf slot⟩) (again call wait random)) = .ok (evictedAt policy call set) := by
      show asZSet (lapse _ (call.clock + wait)) = _
      rw [kept]
      rfl
    rw [admitted_window_iff positive sliding holds]
    show ((evictedAt policy call set).countAbove
      (call.now + wait - policy.windowSeconds) : Int) < _ ↔ _
    rw [above]
    exact ⟨.inl, fun either => either.resolve_right early⟩

theorem window_retry_iff {after : Slot} {result : RateLimitResult}
    (ans : check slot policy call = .ok (after, result)) (denied : result.allowed = false) :
    (∀ wait random, (advertised result : ℚ) ≤ wait →
      Admitted policy after (again call wait random)) ↔ Sufficient policy slot call := by
  obtain ⟨set, held⟩ := set_of_check sliding ans
  have full : policy.requestLimit ≤ (evictedAt policy call set).card := by
    by_contra room
    obtain ⟨_, _, admits, allowed⟩ :=
      check_window_admits positive sliding held (not_le.mp room)
    rw [ans] at admits
    cases admits
    rw [allowed] at denied
    cases denied
  obtain ⟨_, refused, -, reported⟩ := check_window_refuses sliding held full
  rw [ans] at refused
  cases refused
  have nonneg : 0 ≤ resetAfter (evictedAt policy call set).oldest policy.windowSeconds
      call.now := by
    unfold resetAfter
    split
    · exact le_refl 0
    · exact le_max_left 0 _
  have whole : advertised result = ⌊luaRounded (resetAfter (evictedAt policy call set).oldest
      policy.windowSeconds call.now)⌋ := by
    rw [advertised, reported, tdiv_eq_floor (luaRounded_nonneg nonneg)]
  have waits : (0 : ℚ) ≤ advertised result := by
    rw [whole]
    exact Int.cast_nonneg (Int.floor_nonneg.mpr (luaRounded_nonneg nonneg))
  rw [forall_later_iff _ ?stays (fun wait random later =>
    window_again_iff positive sliding slot full (waits.trans later) random)]
  case stays =>
    intro wait later
    refine Or.imp (fun room => ?_) (fun ⟨deadline, stored, passed⟩ => ⟨deadline, stored, ?_⟩)
    · have fewer := set.countAbove_anti (show call.now + advertised result - policy.windowSeconds ≤
          call.now + wait - policy.windowSeconds by linarith)
      omega
    · linarith
  rw [Sufficient, sliding, whole]
  exact ⟨fun enough other same => by rwa [← Except.ok.inj (held.symm.trans same)],
    fun enough => enough set held⟩

end Window

/-- Waiting as long as `Retry-After` asks is enough just if the whole seconds reach to the next
admission. -/
theorem retry_admitted_iff (policy : EffectivePolicy) (positive : Positive policy) (slot : Slot)
    (call : Call) (after : Slot) (result : RateLimitResult)
    (answered : check (presentSlot slot call) policy call = .ok (after, result))
    (denied : result.allowed = false) :
    (∀ wait random, (advertised result : ℚ) ≤ wait →
      Admitted policy after (again call wait random)) ↔
        Sufficient policy (presentSlot slot call) call := by
  cases algorithm : policy.algorithm with
  | tokenBucket => exact bucket_retry_iff positive algorithm answered denied
  | slidingWindow => exact window_retry_iff positive algorithm answered denied

/-! ## One call a minute -/

def oncePerMinute (algorithm : RateLimitAlgorithm) : EffectivePolicy where
  algorithm := algorithm
  requestLimit := 1
  windowSeconds := 60
  burstCapacity := some 1
  scope := .tool

def answers (policy : EffectivePolicy) : Slot → List Call → List (Bool × Int)
  | _, [] => []
  | slot, call :: rest =>
    match check (presentSlot slot call) policy call with
    | .error _ => []
    | .ok (after, result) =>
      (result.allowed, advertised result) :: answers policy after rest

/-- Half a second after the admitted call 59 seconds are advertised where 59.5 are left. -/
theorem retry_half_a_second_early : answers (oncePerMinute .slidingWindow) none
        [callAt 0, callAt (1 / 2), again (callAt (1 / 2)) 59 0] =
          [(true, 0), (false, 59), (false, 0)] ∧
      answers (oncePerMinute .tokenBucket) none
        [callAt 0, callAt (1 / 2), again (callAt (1 / 2)) 59 0] =
          [(true, 0), (false, 59), (false, 0)] := by
  decide +kernel

def calledAtZero : Slot := some ⟨.zset ⟨[("00", 0)], List.nodup_singleton _⟩, some 60⟩

/-- A whole second after the admitted call the advertised 59 seconds are enough. -/
theorem retry_admitted_on_whole_seconds :
    ∃ after result, check (presentSlot calledAtZero (callAt 1)) (oncePerMinute .slidingWindow)
        (callAt 1) = .ok (after, result) ∧ result.allowed = false ∧
      ∀ wait random, (advertised result : ℚ) ≤ wait →
        Admitted (oncePerMinute .slidingWindow) after (again (callAt 1) wait random) := by
  obtain ⟨result, ans, denied, -⟩ :=
    @check_window_refuses (oncePerMinute .slidingWindow) rfl calledAtZero (callAt 1) _ rfl
      (by decide +kernel)
  refine ⟨_, result, ans, denied, ?_⟩
  refine (retry_admitted_iff (oncePerMinute .slidingWindow) ⟨Int.one_pos, by decide, Int.one_pos⟩
    calledAtZero (callAt 1) _ result ans denied).mpr ?_
  intro set held
  rw [← Except.ok.inj held]
  exact .inl (by decide +kernel)

end Portcullis.Limits.RetryAfter
