import Portcullis.Lib.Trace
import Portcullis.Limits.Enforcement
import Portcullis.Limits.TokenBucket

/-!
# The limiter scripts before they print

Both scripts of `app/limits/redis_bucket.py` return the time until the reset as text.  Here
the printing is a parameter: with `luaRounded` the scripts are those of the limiter, and with
the identity they return the number itself.  Admission, the remaining calls and the key do
not depend on it.
-/

namespace Portcullis.Limits.ExactScripts

open Lib.Redis
open Limits.Enforcement (presentSlot)
open Limits.Policies Limits.RedisBucket
open Limits.SlidingWindow (Call evictedAt slotAt_cases)
open Limits.TokenBucket (leftAfter ttlOf)

section Scripts

variable (print : ℚ → ℚ)

/-- `_SLIDING_WINDOW_LUA`. -/
def slidingWindowScriptBy (slot : Slot) (limit window : Int) (now clock : ℚ)
    (member : String) : Except RedisError (Slot × SlidingReply) := do
  let windowStart := now - window
  let slot ← zremrangebyscore slot windowStart
  let count ← zcard slot
  let remaining := max 0 (limit - count - 1)
  let slot ←
    if (count : Int) < limit then do
      let slot ← zadd slot now member
      pure (expire slot clock window)
    else pure slot
  let oldest ← zrangeFirst slot
  return (slot, ⟨decide ((count : Int) < limit), remaining, print (resetAfter oldest window now)⟩)

/-- `check_sliding_window`. -/
def checkSlidingWindowBy (slot : Slot) (policy : EffectivePolicy) (now clock random : ℚ) :
    Except RedisError (Slot × RateLimitResult) := do
  let (slot, reply) ← slidingWindowScriptBy print slot policy.requestLimit policy.windowSeconds
    now clock (slidingMember now random)
  return (slot,
    { allowed := reply.allowed
      limit := policy.requestLimit
      remaining := reply.remaining
      resetAfterSeconds := reply.resetAfter
      retryAfterSeconds := if reply.allowed then 0 else reply.resetAfter })

/-- `_TOKEN_BUCKET_LUA`. -/
def tokenBucketScriptBy (slot : Slot) (capacity rate now cost clock : ℚ) :
    Except RedisError (Slot × TokenReply) := do
  let (storedTokens, storedRefill) ← hmget slot "tokens" "last_refill"
  let elapsed := now - storedRefill.getD now
  let tokens := min capacity (storedTokens.getD capacity + elapsed * rate)
  let remaining := max 0 (tokens - cost)
  let left := if cost ≤ tokens then tokens - cost else tokens
  let slot ← hset slot "tokens" left "last_refill" now
  let ttl := ⌈capacity / rate⌉ + 1
  return (expire slot clock ttl, ⟨decide (cost ≤ tokens), ⌊remaining⌋,
    print ((capacity - left) / rate)⟩)

end Scripts

theorem checkSlidingWindow_eq : checkSlidingWindow = checkSlidingWindowBy luaRounded := rfl

theorem presentSlot_cases (slot : Slot) (call : Call) : presentSlot slot call = slot ∨
      presentSlot slot call = none ∧
        ∃ deadline, deadlineOf slot = some deadline ∧ deadline ≤ call.clock :=
  slotAt_cases ⟨slot, []⟩ call

def admittedMembers {Input : Type} (memberOf : Input → String)
    (entries : List (Input × RateLimitResult)) : List String :=
  (entries.filter fun entry => entry.2.allowed).map fun entry => memberOf entry.1

theorem admittedMembers_cons {Input : Type} (memberOf : Input → String) (input : Input)
    (result : RateLimitResult) (entries : List (Input × RateLimitResult)) :
    admittedMembers memberOf ((input, result) :: entries) =
      if result.allowed then memberOf input :: admittedMembers memberOf entries
      else admittedMembers memberOf entries := by
  cases decision : result.allowed with
  | false => simp [admittedMembers, decision]
  | true => simp [admittedMembers, decision]

theorem admittedMembers_append {Input : Type} (memberOf : Input → String)
    (front back : List (Input × RateLimitResult)) :
    admittedMembers memberOf (front ++ back) =
      admittedMembers memberOf front ++ admittedMembers memberOf back := by
  simp [admittedMembers]

/-! ## One execution on a sorted set -/

section Window

variable (print : ℚ → ℚ) {slot : Slot} {set : ZSet} {policy : EffectivePolicy} {call : Call}

/-- The answer to a call that counts `counted` entries and leaves `after`. -/
def windowResult (policy : EffectivePolicy) (now : ℚ) (allowed : Bool) (counted : Nat)
    (after : ZSet) : RateLimitResult :=
  let reset := print (resetAfter after.oldest policy.windowSeconds now)
  { allowed := allowed
    limit := policy.requestLimit
    remaining := max 0 (policy.requestLimit - counted - 1)
    resetAfterSeconds := reset
    retryAfterSeconds := if allowed then 0 else reset }

/-- The set after an admission. -/
def enteredAt (policy : EffectivePolicy) (call : Call) (set : ZSet) : ZSet :=
  (evictedAt policy call set).add call.now (slidingMember call.now call.random)

theorem window_admits (held : asZSet slot = .ok set) (pos : 0 < policy.windowSeconds)
    (room : ((evictedAt policy call set).card : Int) < policy.requestLimit) :
    ∃ after, checkSlidingWindowBy print slot policy call.now call.clock call.random =
        .ok (after, windowResult print policy call.now true (evictedAt policy call set).card
          (enteredAt policy call set)) ∧
      asZSet after = .ok (enteredAt policy call set) ∧
      deadlineOf after = some (call.clock + policy.windowSeconds) := by
  have entered : ∀ deadline, storeZSet deadline (enteredAt policy call set) =
      some ⟨.zset (enteredAt policy call set), deadlineOf deadline⟩ := fun _ => rfl
  have fits : ((set.removeUpTo (call.now - policy.windowSeconds)).card : Int) <
      policy.requestLimit := room
  refine ⟨some ⟨.zset (enteredAt policy call set), some (call.clock + policy.windowSeconds)⟩,
    ?_, rfl, rfl⟩
  simp only [checkSlidingWindowBy, slidingWindowScriptBy, zremrangebyscore, zcard, zadd, held,
    asZSet_storeZSet, fits, if_true, bind, Except.bind, pure, Except.pure]
  rw [show (set.removeUpTo (call.now - policy.windowSeconds)).add call.now
    (slidingMember call.now call.random) = enteredAt policy call set from rfl, entered, expire,
    if_neg (by omega)]
  rfl

theorem window_refuses (held : asZSet slot = .ok set)
    (full : policy.requestLimit ≤ (evictedAt policy call set).card) :
    checkSlidingWindowBy print slot policy call.now call.clock call.random =
      .ok (storeZSet slot (evictedAt policy call set), windowResult print policy call.now false
        (evictedAt policy call set).card (evictedAt policy call set)) := by
  have crowded : ¬ ((set.removeUpTo (call.now - policy.windowSeconds)).card : Int) <
      policy.requestLimit := not_lt.mpr full
  simp only [checkSlidingWindowBy, slidingWindowScriptBy, zremrangebyscore, zcard, zrangeFirst,
    held, asZSet_storeZSet, bind, Except.bind, pure, Except.pure, if_neg crowded,
    decide_eq_false crowded]
  rfl

end Window

/-! ## One execution on a bucket -/

section Bucket

variable (print : ℚ → ℚ) (capacity rate : ℚ)

/-- The tokens a call at `now` finds in a key with these fields, refill included. -/
def refilled (stored : Option ℚ × Option ℚ) (now : ℚ) : ℚ :=
  min capacity (stored.1.getD capacity + (now - stored.2.getD now) * rate)

def tokenReply (tokens : ℚ) : TokenReply :=
  ⟨decide (1 ≤ tokens), ⌊max 0 (tokens - 1)⌋, print ((capacity - leftAfter tokens) / rate)⟩

theorem leftAfter_add (tokens : ℚ) :
    leftAfter tokens + (if (tokenReply print capacity rate tokens).allowed then 1 else 0) =
      tokens := by
  by_cases enough : 1 ≤ tokens
  · simp [leftAfter, tokenReply, enough]
  · simp [leftAfter, tokenReply, enough]

theorem refilled_le (stored : Option ℚ × Option ℚ) (now : ℚ) :
    refilled capacity rate stored now ≤ capacity :=
  min_le_left _ _

theorem bucket_spec {slot : Slot} {stored : Option ℚ × Option ℚ}
    (found : hmget slot "tokens" "last_refill" = .ok stored) (now clock : ℚ) :
    ∃ after, tokenBucketScriptBy print slot capacity rate now 1 clock =
        .ok (after, tokenReply print capacity rate (refilled capacity rate stored now)) ∧
      (ttlOf capacity rate ≤ 0 → after = none) ∧
      (0 < ttlOf capacity rate → hmget after "tokens" "last_refill" =
            .ok (some (leftAfter (refilled capacity rate stored now)), some now) ∧
          deadlineOf after = some (clock + ttlOf capacity rate)) := by
  cases held : asHash slot with
  | error failure => simp [hmget, held] at found
  | ok fields =>
    let written : Fields := setField "last_refill" now
      (setField "tokens" (leftAfter (refilled capacity rate stored now)) fields)
    refine ⟨expire (some ⟨.hash written, deadlineOf slot⟩) clock (ttlOf capacity rate), ?_,
      fun short => if_pos short, fun persists => ?_⟩
    · simp only [tokenBucketScriptBy, found, hset, held]
      rfl
    · rw [expire, if_neg (not_le.mpr persists)]
      refine ⟨?_, rfl⟩
      simp [hmget, asHash, written, getField_setField, bind, Except.bind, pure, Except.pure]

end Bucket

end Portcullis.Limits.ExactScripts
