import Portcullis.Limits.SlidingWindow

/-!
# Runs of the token-bucket limiter

A run is a sequence of calls on one key.  What counts is the level of the bucket at an
instant, refill included.  The calls admitted since any start and the level together
never exceed the capacity and what was refilled since that start; a key that outlives
its deadline is full by then, so that losing it changes no level.
-/

namespace Portcullis.Limits.TokenBucket

open Lib.Redis Limits.Policies Limits.RedisBucket List
open Limits.SlidingWindow (Call Log Follows pairwise_follows_first slotAt)

def stepCall (policy : EffectivePolicy) (log : Log) (call : Call) :
    Except RedisError Log := do
  let (slot, result) ← checkTokenBucket (slotAt log call) policy call.now call.clock
  return ⟨slot, if result.allowed then call.now :: log.admitted else log.admitted⟩

def runCalls (policy : EffectivePolicy) : List Call → Log → Except RedisError Log
  | [], log => .ok log
  | call :: rest, log => do
    let next ← stepCall policy log call
    runCalls policy rest next

/-- The token count a key holds, if it holds one. -/
def storedTokens (slot : Slot) : Option ℚ :=
  match asHash slot with
  | .ok fields => getField "tokens" fields
  | .error _ => none

def admittedBetween (log : Log) (start final : ℚ) : Nat :=
  log.admitted.countP fun stamp => decide (start ≤ stamp ∧ stamp ≤ final)

def admittedSince (log : Log) (start : ℚ) : Nat :=
  log.admitted.countP fun stamp => decide (start ≤ stamp)

theorem admittedSince_cons (slot : Slot) (stamp : ℚ) (log : Log) (start : ℚ) :
    admittedSince ⟨slot, stamp :: log.admitted⟩ start =
      admittedSince log start + if start ≤ stamp then 1 else 0 := by
  simp only [admittedSince, countP_cons, decide_eq_true_eq]

theorem admittedBetween_cons (slot : Slot) (stamp : ℚ) (log : Log) (start final : ℚ) :
    admittedBetween ⟨slot, stamp :: log.admitted⟩ start final = admittedBetween log start final +
        if start ≤ stamp ∧ stamp ≤ final then 1 else 0 := by
  simp only [admittedBetween, countP_cons, decide_eq_true_eq]

theorem admittedBetween_le_since (log : Log) (start final : ℚ) :
    admittedBetween log start final ≤ admittedSince log start := by
  apply countP_mono_left
  intro stamp _ within
  rw [decide_eq_true_eq] at within ⊢
  exact within.1

theorem admittedSince_eq_zero (log : Log) (start : ℚ)
    (past : ∀ stamp ∈ log.admitted, stamp < start) : admittedSince log start = 0 := by
  rw [admittedSince, countP_eq_zero]
  intro stamp mem
  rw [decide_eq_true_eq, not_le]
  exact past stamp mem

/-! ## The time to live -/

section TimeToLive

variable (capacity rate : ℚ)

def ttlOf : Int := ⌈capacity / rate⌉ + 1

variable {capacity rate}

theorem ttl_pos (capacityNonneg : 0 ≤ capacity) (rateNonneg : 0 ≤ rate) :
    0 < ttlOf capacity rate := by
  have ceilNonneg : 0 ≤ ⌈capacity / rate⌉ :=
    Int.ceil_nonneg (div_nonneg capacityNonneg rateNonneg)
  unfold ttlOf
  omega

variable (capacity) in
theorem capacity_le_refill (ratePositive : 0 < rate) : capacity ≤ ttlOf capacity rate * rate := by
  have ceiling : capacity / rate ≤ ⌈capacity / rate⌉ := Int.le_ceil _
  have shorter : capacity / rate ≤ ttlOf capacity rate := by
    unfold ttlOf
    push_cast
    linarith
  exact (div_le_iff₀ ratePositive).mp shorter

end TimeToLive

/-! ## The level of a bucket -/

section Level

variable (policy : EffectivePolicy)

variable (slot : Slot)

/-- The tokens a call at `now` finds, refill included. -/
def level (now : ℚ) : Except RedisError ℚ := do
  let (tokens, refill) ← hmget slot "tokens" "last_refill"
  return min (bucketCapacity policy : ℚ)
    (tokens.getD (bucketCapacity policy) + (now - refill.getD now) * refillRate policy)

theorem level_none (now : ℚ) : level policy none now = .ok (bucketCapacity policy : ℚ) := by
  simp [level, hmget, asHash, getField, bind, Except.bind, pure, Except.pure]

theorem level_eq (fields : Fields) (held : asHash slot = .ok fields) (now : ℚ) :
    level policy slot now = .ok (min (bucketCapacity policy : ℚ)
      ((getField "tokens" fields).getD (bucketCapacity policy) +
        (now - (getField "last_refill" fields).getD now) * refillRate policy)) := by
  simp [level, hmget, held, bind, Except.bind, pure, Except.pure]

theorem level_le (now tokens : ℚ) (found : level policy slot now = .ok tokens) :
    tokens ≤ bucketCapacity policy := by
  cases held : asHash slot with
  | error failure =>
    simp [level, hmget, held] at found
  | ok fields =>
    rw [level_eq policy slot fields held] at found
    rw [← Except.ok.inj found]
    exact min_le_left _ _

theorem level_later (now later tokens : ℚ) (rateNonneg : 0 ≤ refillRate policy)
    (waited : now ≤ later) (found : level policy slot now = .ok tokens) :
    ∃ more, level policy slot later = .ok more ∧ tokens ≤ more ∧
      more ≤ tokens + (later - now) * refillRate policy := by
  have refilled : 0 ≤ (later - now) * refillRate policy :=
    mul_nonneg (sub_nonneg.mpr waited) rateNonneg
  cases held : asHash slot with
  | error failure =>
    simp [level, hmget, held] at found
  | ok fields =>
    rw [level_eq policy slot fields held] at found
    refine ⟨_, level_eq policy slot fields held later, ?_⟩
    rw [← Except.ok.inj found]
    cases getField "last_refill" fields with
    | none =>
      simp only [Option.getD_none, sub_self, le_refl, true_and]
      linarith
    | some refill =>
      simp only [Option.getD_some]
      have split : (later - refill) * refillRate policy =
          (now - refill) * refillRate policy + (later - now) * refillRate policy := by
        ring
      constructor
      · exact min_le_min_left _ (by linarith)
      · rw [← min_add_add_right]
        exact min_le_min (by linarith) (by linarith)

/-! ## What one script execution does -/

def leftAfter (tokens : ℚ) : ℚ := if 1 ≤ tokens then tokens - 1 else tokens

def bucketTtl : Int := ⌈(bucketCapacity policy : ℚ) / refillRate policy⌉ + 1

theorem bucketTtl_pos (capacityNonneg : (0 : ℚ) ≤ bucketCapacity policy)
    (rateNonneg : 0 ≤ refillRate policy) : 0 < bucketTtl policy :=
  ttl_pos capacityNonneg rateNonneg

def resultAt (tokens : ℚ) : RateLimitResult :=
  let resetAfter := luaRounded ((bucketCapacity policy - leftAfter tokens) / refillRate policy)
  { allowed := decide (1 ≤ tokens)
    limit := bucketCapacity policy
    remaining := ⌊max 0 (tokens - 1)⌋
    resetAfterSeconds := resetAfter
    retryAfterSeconds := if 1 ≤ tokens then 0 else resetAfter }

theorem checkTokenBucket_spec (now clock tokens : ℚ) (ttlPositive : 0 < bucketTtl policy)
    (found : level policy slot now = .ok tokens) :
    ∃ slotAfter fields,
      checkTokenBucket slot policy now clock = .ok (slotAfter, resultAt policy tokens) ∧
        asHash slotAfter = .ok fields ∧
        getField "tokens" fields = some (leftAfter tokens) ∧
        getField "last_refill" fields = some now ∧
        deadlineOf slotAfter = some (clock + bucketTtl policy) := by
  cases held : asHash slot with
  | error failure =>
    simp [level, hmget, held] at found
  | ok fields =>
    rw [level_eq policy slot fields held] at found
    have tokensEq := Except.ok.inj found
    let after : Fields := setField "last_refill" now
      (setField "tokens" (leftAfter tokens) fields)
    refine ⟨expire (some ⟨.hash after, deadlineOf slot⟩) clock (bucketTtl policy), after,
      ?_, ?_, ?_, ?_, ?_⟩
    · simp only [checkTokenBucket, tokenBucketScript, hmget, hset, held, tokensEq, bind,
        Except.bind, pure, Except.pure, decide_eq_true_eq]
      rfl
    · rw [expire, if_neg (by omega)]
      rfl
    · simp [after, getField_setField]
    · simp [after, getField_setField]
    · rw [expire, if_neg (by omega)]
      rfl

end Level

/-! ## The invariant of a run -/

/-- After a call at `now`, with the server's clock at `clock`: whatever the start, the
admitted calls since then and the level stay within the capacity and the refill, and
when the deadline comes the bucket is full. -/
structure Supplied (policy : EffectivePolicy) (now clock : ℚ) (log : Log) : Prop where
  supply : ∃ tokens, level policy log.slot now = .ok tokens ∧ 0 ≤ tokens ∧
    ∀ start, start ≤ now → (admittedSince log start : ℚ) + tokens ≤
      bucketCapacity policy + (now - start) * refillRate policy
  stored : ∀ tokens, storedTokens log.slot = some tokens →
    0 ≤ tokens ∧ tokens ≤ bucketCapacity policy
  past : ∀ stamp ∈ log.admitted, stamp ≤ now
  fullAtDeadline : ∀ deadline, deadlineOf log.slot = some deadline → ∀ later,
    now + (deadline - clock) ≤ later → level policy log.slot later = .ok (bucketCapacity policy : ℚ)
  bounded : ∀ start final, start ≤ final → (admittedBetween log start final : ℚ) ≤
    bucketCapacity policy + (final - start) * refillRate policy

theorem Supplied.start (policy : EffectivePolicy) (now clock : ℚ)
    (capacityNonneg : (0 : ℚ) ≤ bucketCapacity policy) (rateNonneg : 0 ≤ refillRate policy) :
    Supplied policy now clock Log.start where
  supply := by
    refine ⟨_, level_none policy now, capacityNonneg, ?_⟩
    intro start before
    have refilled := mul_nonneg (sub_nonneg.mpr before) rateNonneg
    simpa [admittedSince, Log.start] using refilled
  stored _ absent := by cases absent
  past _ member := absurd member not_mem_nil
  fullAtDeadline _ absent := by cases absent
  bounded start final ordered := by
    have refilled := mul_nonneg (sub_nonneg.mpr ordered) rateNonneg
    simpa [admittedBetween, Log.start] using add_nonneg capacityNonneg refilled

theorem Supplied.advance {policy : EffectivePolicy} {log : Log} {now clock : ℚ}
    (supplied : Supplied policy now clock log) (rateNonneg : 0 ≤ refillRate policy)
    (laterNow laterClock : ℚ) (later : now ≤ laterNow)
    (paced : laterClock - clock ≤ laterNow - now) :
    Supplied policy laterNow laterClock log where
  supply := by
    obtain ⟨tokens, found, nonneg, within⟩ := supplied.supply
    obtain ⟨more, foundLater, atLeast, atMost⟩ :=
      level_later policy log.slot now laterNow tokens rateNonneg later found
    refine ⟨more, foundLater, le_trans nonneg atLeast, ?_⟩
    intro start before
    by_cases prev : start ≤ now
    · have held := within start prev
      linarith
    · -- nothing was admitted after the last call
      have noneSince : admittedSince log start = 0 := by
        apply admittedSince_eq_zero
        intro stamp member
        exact lt_of_le_of_lt (supplied.past stamp member) (not_le.mp prev)
      have refilled := mul_nonneg (sub_nonneg.mpr before) rateNonneg
      have capped := level_le policy log.slot laterNow more foundLater
      rw [noneSince, Nat.cast_zero]
      linarith
  stored := supplied.stored
  past stamp member := le_trans (supplied.past stamp member) later
  fullAtDeadline deadline stored instant reached :=
    supplied.fullAtDeadline deadline stored instant (by linarith)
  bounded := supplied.bounded

theorem Supplied.slotAt {policy : EffectivePolicy} {log : Log} {call : Call}
    (supplied : Supplied policy call.now call.clock log) :
    Supplied policy call.now call.clock ⟨SlidingWindow.slotAt log call, log.admitted⟩ := by
  rcases SlidingWindow.slotAt_cases log call with kept | ⟨vanished, deadline, stored, passed⟩
  · rw [kept]
    exact supplied
  rw [vanished]
  obtain ⟨tokens, found, nonneg, within⟩ := supplied.supply
  have full := supplied.fullAtDeadline deadline stored call.now (by linarith)
  obtain rfl : tokens = bucketCapacity policy := Except.ok.inj (found.symm.trans full)
  exact
    { supply := ⟨_, level_none policy call.now, nonneg, within⟩
      stored := fun _ absent => by cases absent
      past := supplied.past
      fullAtDeadline := fun _ absent => by cases absent
      bounded := supplied.bounded }

section Step

variable (policy : EffectivePolicy) (ratePositive : 0 < refillRate policy)
  (capacityNonneg : (0 : ℚ) ≤ bucketCapacity policy)

include ratePositive in
theorem supplied_after (slot : Slot) (fields : Fields) (admitted : List ℚ)
    (now clock left : ℚ) (held : asHash slot = .ok fields)
    (tokensHeld : getField "tokens" fields = some left)
    (refillHeld : getField "last_refill" fields = some now)
    (renewed : deadlineOf slot = some (clock + bucketTtl policy))
    (nonneg : 0 ≤ left) (capped : left ≤ bucketCapacity policy)
    (within : ∀ start, start ≤ now → (admittedSince ⟨slot, admitted⟩ start : ℚ) + left ≤
      bucketCapacity policy + (now - start) * refillRate policy)
    (past : ∀ stamp ∈ admitted, stamp ≤ now)
    (bounded : ∀ start final, start ≤ final → (admittedBetween ⟨slot, admitted⟩ start final : ℚ) ≤
        bucketCapacity policy + (final - start) * refillRate policy) :
    Supplied policy now clock ⟨slot, admitted⟩ where
  supply := by
    refine ⟨left, ?_, nonneg, within⟩
    rw [level_eq policy slot fields held, tokensHeld, refillHeld]
    simp [capped]
  stored tokens stored := by
    rw [storedTokens, held] at stored
    obtain rfl := Option.some.inj (tokensHeld.symm.trans stored)
    exact ⟨nonneg, capped⟩
  past := past
  fullAtDeadline deadline stored later reached := by
    obtain rfl := Option.some.inj (renewed.symm.trans stored)
    rw [level_eq policy slot fields held, tokensHeld, refillHeld]
    have waited : (bucketTtl policy : ℚ) ≤ later - now := by linarith
    have refilled : (bucketTtl policy : ℚ) * refillRate policy ≤
        (later - now) * refillRate policy :=
      mul_le_mul_of_nonneg_right waited (le_of_lt ratePositive)
    have enough : (bucketCapacity policy : ℚ) ≤ bucketTtl policy * refillRate policy :=
      capacity_le_refill _ ratePositive
    simp only [Option.getD_some]
    rw [min_eq_left (by linarith)]
  bounded := bounded

include ratePositive capacityNonneg in
theorem stepCall_supplied (log : Log) (call : Call)
    (supplied : Supplied policy call.now call.clock log) :
    ∃ next, stepCall policy log call = .ok next ∧ Supplied policy call.now call.clock next := by
  have present := supplied.slotAt
  obtain ⟨tokens, found, nonneg, within⟩ := present.supply
  have capped := level_le policy _ call.now tokens found
  obtain ⟨slot, fields, ran, held, tokensHeld, refillHeld, renewed⟩ :=
    checkTokenBucket_spec policy (slotAt log call) call.now call.clock tokens
      (bucketTtl_pos policy capacityNonneg (le_of_lt ratePositive)) found
  by_cases admitted : 1 ≤ tokens
  · refine ⟨⟨slot, call.now :: log.admitted⟩, ?_, ?_⟩
    · simp [stepCall, ran, resultAt, admitted, bind, Except.bind, pure, Except.pure]
    rw [leftAfter, if_pos admitted] at tokensHeld
    have since : ∀ start, start ≤ call.now →
        (admittedSince ⟨slot, call.now :: log.admitted⟩ start : ℚ) + (tokens - 1) ≤
          bucketCapacity policy + (call.now - start) * refillRate policy := by
      intro start before
      have held := within start before
      rw [admittedSince_cons, if_pos before]
      push_cast
      have same : admittedSince ⟨slotAt log call, log.admitted⟩ start =
        admittedSince log start := rfl
      rw [same] at held
      linarith
    apply supplied_after policy ratePositive slot fields _ call.now call.clock (tokens - 1)
      held tokensHeld refillHeld renewed (by linarith) (by linarith) since
    · intro stamp mem
      rcases mem_cons.mp mem with latest | earlier
      · exact le_of_eq latest
      · exact supplied.past stamp earlier
    · intro start final ordered
      by_cases inside : start ≤ call.now ∧ call.now ≤ final
      · have counted := since start inside.1
        have fewer : (admittedBetween ⟨slot, call.now :: log.admitted⟩ start final : ℚ) ≤
            admittedSince ⟨slot, call.now :: log.admitted⟩ start := by
          exact_mod_cast admittedBetween_le_since _ start final
        have longer : (call.now - start) * refillRate policy ≤
            (final - start) * refillRate policy :=
          mul_le_mul_of_nonneg_right (by linarith [inside.2]) (le_of_lt ratePositive)
        linarith
      · rw [admittedBetween_cons, if_neg inside]
        exact supplied.bounded start final ordered
  · refine ⟨⟨slot, log.admitted⟩, ?_, ?_⟩
    · simp [stepCall, ran, resultAt, admitted, bind, Except.bind, pure, Except.pure]
    rw [leftAfter, if_neg admitted] at tokensHeld
    exact supplied_after policy ratePositive slot fields _ call.now call.clock tokens
      held tokensHeld refillHeld renewed nonneg capped within supplied.past
      supplied.bounded

end Step

/-! ## Whole runs -/

theorem runCalls_supplied (policy : EffectivePolicy) (ratePositive : 0 < refillRate policy)
    (capacityNonneg : (0 : ℚ) ≤ bucketCapacity policy) :
    ∀ (calls : List Call) (now clock : ℚ) (log : Log), Supplied policy now clock log →
      (∀ call ∈ calls, now ≤ call.now ∧ call.clock - clock ≤ call.now - now) →
        calls.Pairwise Follows → ∃ final lastNow lastClock, runCalls policy calls log = .ok final ∧
            Supplied policy lastNow lastClock final := by
  intro calls
  induction calls with
  | nil =>
    intro now clock log supplied _ _
    exact ⟨log, now, clock, rfl, supplied⟩
  | cons call rest ih =>
    intro now clock log supplied after ordered
    obtain ⟨follows, restOrdered⟩ := pairwise_cons.mp ordered
    obtain ⟨later, paced⟩ := after call mem_cons_self
    obtain ⟨next, stepped, nextSupplied⟩ := stepCall_supplied policy ratePositive
      capacityNonneg log call
      (supplied.advance (le_of_lt ratePositive) call.now call.clock later paced)
    obtain ⟨final, lastNow, lastClock, ran, finalSupplied⟩ :=
      ih call.now call.clock next nextSupplied follows restOrdered
    refine ⟨final, lastNow, lastClock, ?_, finalSupplied⟩
    rw [runCalls, stepped]
    exact ran

/-- In every run the stored count stays within the capacity, and no interval admits
more calls than the capacity and the refill of its length.  A key may vanish once its
deadline has passed on a clock that is no faster than the timestamps. -/
theorem tokenBucket_bound (policy : EffectivePolicy)
    (capacityPositive : 1 ≤ bucketCapacity policy) (limitPositive : 1 ≤ policy.requestLimit)
    (windowPositive : 1 ≤ policy.windowSeconds) (calls : List Call)
    (ordered : calls.Pairwise Follows) :
    ∃ log, runCalls policy calls Log.start = .ok log ∧
      (∀ tokens, storedTokens log.slot = some tokens →
        0 ≤ tokens ∧ tokens ≤ bucketCapacity policy) ∧
      ∀ start final, start ≤ final → (admittedBetween log start final : ℚ) ≤ bucketCapacity policy +
          (policy.requestLimit / policy.windowSeconds : ℚ) * (final - start) := by
  have ratePositive : 0 < refillRate policy := by
    have limit : (0 : ℚ) < policy.requestLimit := by exact_mod_cast limitPositive
    have window : (0 : ℚ) < policy.windowSeconds := by exact_mod_cast windowPositive
    exact div_pos limit window
  have capacityNonneg : (0 : ℚ) ≤ bucketCapacity policy := by
    exact_mod_cast (by omega : (0 : Int) ≤ bucketCapacity policy)
  have reached : ∃ now clock final, runCalls policy calls Log.start = .ok final ∧
      Supplied policy now clock final := by
    cases calls with
    | nil =>
      exact ⟨0, 0, Log.start, rfl, Supplied.start policy 0 0 capacityNonneg (le_of_lt ratePositive)⟩
    | cons first rest =>
      obtain ⟨final, now, clock, ran, supplied⟩ := runCalls_supplied policy ratePositive
        capacityNonneg (first :: rest) first.now first.clock Log.start
        (Supplied.start policy first.now first.clock capacityNonneg (le_of_lt ratePositive))
        (pairwise_cons.mp (pairwise_follows_first first rest ordered)).1 ordered
      exact ⟨now, clock, final, ran, supplied⟩
  obtain ⟨now, clock, log, ran, supplied⟩ := reached
  refine ⟨log, ran, supplied.stored, ?_⟩
  intro start final before
  rw [mul_comm]
  exact supplied.bounded start final before

def sampleBucket : EffectivePolicy where
  algorithm := .tokenBucket
  requestLimit := 60
  windowSeconds := 60
  burstCapacity := some 2
  scope := .tool

def sampleCalls : List Call :=
  [⟨0, 0, 0, false⟩, ⟨0, 0, 0, false⟩, ⟨0, 0, 0, false⟩, ⟨10, 10, 0, true⟩]

theorem tokenBucket_bound_sample : ∃ log, runCalls sampleBucket sampleCalls Log.start = .ok log ∧
      (∀ tokens, storedTokens log.slot = some tokens →
        0 ≤ tokens ∧ tokens ≤ bucketCapacity sampleBucket) ∧
      ∀ start final, start ≤ final → (admittedBetween log start final : ℚ) ≤
        bucketCapacity sampleBucket +
          (sampleBucket.requestLimit / sampleBucket.windowSeconds : ℚ) * (final - start) :=
  tokenBucket_bound sampleBucket (by decide) (by decide) (by decide) sampleCalls
    (by simp [sampleCalls, Follows])

end Portcullis.Limits.TokenBucket
