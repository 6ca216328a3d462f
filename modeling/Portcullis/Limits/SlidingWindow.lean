import Portcullis.Limits.RedisBucket

/-!
# Runs of the sliding-window limiter

A run is a sequence of calls on one key.  The admitted timestamps are compared with
the sorted set the script keeps: as long as every admission adds a member that the
set does not hold yet, the set counts every admitted call of the current window.
-/

namespace Portcullis.Limits.SlidingWindow

open Lib.Redis Limits.Policies Limits.RedisBucket List

/-- One call: the caller's timestamp, the server's clock, what `math.random()`
returns, and whether the server reaps a key whose deadline has passed. -/
structure Call where
  now : ℚ
  clock : ℚ
  random : ℚ
  reaped : Bool

/-- The slot of the key and the timestamps of the admitted calls, latest first. -/
structure Log where
  slot : Slot
  admitted : List ℚ

def Log.start : Log := ⟨none, []⟩

def slotAt (log : Log) (call : Call) : Slot :=
  if call.reaped then lapse log.slot call.clock else log.slot

def stepCall (policy : EffectivePolicy) (log : Log) (call : Call) :
    Except RedisError Log := do
  let (slot, result) ←
    checkSlidingWindow (slotAt log call) policy call.now call.clock call.random
  return ⟨slot, if result.allowed then call.now :: log.admitted else log.admitted⟩

def runCalls (policy : EffectivePolicy) : List Call → Log → Except RedisError Log
  | [], log => .ok log
  | call :: rest, log => do
    let next ← stepCall policy log call
    runCalls policy rest next

def admittedWithin (log : Log) (window : Int) (final : ℚ) : Nat :=
  log.admitted.countP fun stamp => decide (final - window < stamp ∧ stamp ≤ final)

def admittedAbove (log : Log) (threshold : ℚ) : Nat :=
  log.admitted.countP fun stamp => decide (threshold < stamp)

/-! ## What one script execution does -/

section Script

variable (slot : Slot) (set : ZSet) (limit window : Int) (now clock : ℚ) (member : String)

theorem slidingWindowScript_admits (held : asZSet slot = .ok set) (pos : 0 < window)
    (room : ((set.removeUpTo (now - window)).card : Int) < limit) :
    ∃ slotAfter reply,
      slidingWindowScript slot limit window now clock member = .ok (slotAfter, reply) ∧
        reply.allowed = true ∧
        asZSet slotAfter = .ok ((set.removeUpTo (now - window)).add now member) ∧
        ∀ deadline, deadlineOf slotAfter = some deadline → deadline = clock + window := by
  let evicted := set.removeUpTo (now - window)
  let slotAfter := expire (storeZSet (storeZSet slot evicted) (evicted.add now member))
    clock window
  have addedHolds : asZSet slotAfter = .ok (evicted.add now member) := by
    rw [asZSet_expire _ _ _ pos, asZSet_storeZSet]
  refine ⟨slotAfter, ⟨true, max 0 (limit - evicted.card - 1),
    luaRounded (resetAfter (evicted.add now member).oldest window now)⟩, ?_, rfl,
    addedHolds, deadlineOf_expire _ _ _⟩
  have firstOf : zrangeFirst slotAfter = .ok (evicted.add now member).oldest := by
    rw [zrangeFirst, addedHolds]
    rfl
  simp only [slidingWindowScript, zremrangebyscore, zcard, zadd, held, asZSet_storeZSet,
    room, if_true, decide_true, bind, Except.bind, pure, Except.pure]
  rw [firstOf]

theorem slidingWindowScript_refuses (held : asZSet slot = .ok set)
    (full : limit ≤ (set.removeUpTo (now - window)).card) :
    ∃ slotAfter reply,
      slidingWindowScript slot limit window now clock member = .ok (slotAfter, reply) ∧
        reply.allowed = false ∧
        asZSet slotAfter = .ok (set.removeUpTo (now - window)) ∧
        ∀ deadline, deadlineOf slotAfter = some deadline → deadlineOf slot = some deadline := by
  let evicted := set.removeUpTo (now - window)
  have noRoom : ¬ (evicted.card : Int) < limit := not_lt.mpr full
  refine ⟨storeZSet slot evicted, ⟨false, max 0 (limit - evicted.card - 1),
    luaRounded (resetAfter evicted.oldest window now)⟩, ?_, rfl,
    asZSet_storeZSet slot evicted, deadlineOf_storeZSet slot evicted⟩
  simp only [slidingWindowScript, zremrangebyscore, zcard, zrangeFirst, held,
    asZSet_storeZSet, bind, Except.bind, pure, Except.pure]
  rw [if_neg noRoom, decide_eq_false noRoom]

end Script

section Steps

variable (policy : EffectivePolicy) (log : Log) (call : Call) (set : ZSet)

/-- The set a call counts: what is left of the window at its timestamp. -/
def evictedAt : ZSet := set.removeUpTo (call.now - policy.windowSeconds)

theorem stepCall_admits (held : asZSet (slotAt log call) = .ok set)
    (pos : 0 < policy.windowSeconds)
    (room : ((evictedAt policy call set).card : Int) < policy.requestLimit) :
    ∃ next, stepCall policy log call = .ok next ∧ next.admitted = call.now :: log.admitted ∧
      asZSet next.slot = .ok ((evictedAt policy call set).add call.now
        (slidingMember call.now call.random)) ∧
      ∀ deadline, deadlineOf next.slot = some deadline →
        deadline = call.clock + policy.windowSeconds := by
  obtain ⟨slotAfter, reply, ran, allowed, holds, expiry⟩ :=
    slidingWindowScript_admits (slotAt log call) set policy.requestLimit
      policy.windowSeconds call.now call.clock (slidingMember call.now call.random)
      held pos room
  refine ⟨⟨slotAfter, call.now :: log.admitted⟩, ?_, rfl, holds, expiry⟩
  simp [stepCall, checkSlidingWindow, ran, allowed, bind, Except.bind, pure, Except.pure]

theorem stepCall_refuses (held : asZSet (slotAt log call) = .ok set)
    (full : policy.requestLimit ≤ (evictedAt policy call set).card) :
    ∃ next, stepCall policy log call = .ok next ∧ next.admitted = log.admitted ∧
      asZSet next.slot = .ok (evictedAt policy call set) ∧
      ∀ deadline, deadlineOf next.slot = some deadline →
        deadlineOf (slotAt log call) = some deadline := by
  obtain ⟨slotAfter, reply, ran, refused, holds, expiry⟩ :=
    slidingWindowScript_refuses (slotAt log call) set policy.requestLimit
      policy.windowSeconds call.now call.clock (slidingMember call.now call.random)
      held full
  refine ⟨⟨slotAfter, log.admitted⟩, ?_, rfl, holds, expiry⟩
  simp [stepCall, checkSlidingWindow, ran, refused, bind, Except.bind, pure, Except.pure]

end Steps

/-! ## The invariant of a run -/

variable (policy : EffectivePolicy) (log : Log) (call : Call)

/-- After a call at `now`, with the server's clock at `clock`: the sorted set counts
at least the admitted calls of the window, and the key outlives all of them. -/
structure Counted (now clock : ℚ) (log : Log) : Prop where
  held : ∃ set, asZSet log.slot = .ok set ∧ ∀ threshold, now - policy.windowSeconds ≤ threshold →
      admittedAbove log threshold ≤ set.countAbove threshold
  past : ∀ stamp ∈ log.admitted, stamp ≤ now
  outlives : ∀ deadline, deadlineOf log.slot = some deadline →
    ∀ stamp ∈ log.admitted, stamp + policy.windowSeconds - now ≤ deadline - clock
  bounded : ∀ final, (admittedWithin log policy.windowSeconds final : Int) ≤ policy.requestLimit

/-- The next call is not earlier, and the server's clock has not run faster than
the timestamps. -/
def Follows (earlier later : Call) : Prop :=
  earlier.now ≤ later.now ∧ later.clock - earlier.clock ≤ later.now - earlier.now

theorem pairwise_follows_first (first : Call) (rest : List Call)
    (ordered : (first :: rest).Pairwise Follows) : (first :: first :: rest).Pairwise Follows := by
  refine pairwise_cons.mpr ⟨?_, ordered⟩
  intro call member
  rcases mem_cons.mp member with same | later
  · rw [same]
    exact ⟨le_refl _, by simp⟩
  · exact (pairwise_cons.mp ordered).1 call later

theorem Counted.start (now clock : ℚ) (pos : 0 < policy.requestLimit) :
    Counted policy now clock Log.start where
  held := ⟨ZSet.empty, rfl, fun _ _ => Nat.zero_le _⟩
  past _ member := absurd member not_mem_nil
  outlives _ _ _ member := absurd member not_mem_nil
  bounded _ := le_of_lt pos

theorem Counted.advance {policy : EffectivePolicy} {log : Log} {now clock : ℚ}
    (counted : Counted policy now clock log) (laterNow laterClock : ℚ)
    (later : now ≤ laterNow) (paced : laterClock - clock ≤ laterNow - now) :
    Counted policy laterNow laterClock log where
  held := by
    obtain ⟨set, holds, counts⟩ := counted.held
    refine ⟨set, holds, ?_⟩
    intro threshold recent
    exact counts threshold (by linarith)
  past stamp member := le_trans (counted.past stamp member) later
  outlives deadline stored stamp member := by
    have before := counted.outlives deadline stored stamp member
    linarith
  bounded := counted.bounded

theorem slotAt_cases : slotAt log call = log.slot ∨ slotAt log call = none ∧
        ∃ deadline, deadlineOf log.slot = some deadline ∧ deadline ≤ call.clock := by
  unfold slotAt lapse
  split
  · split
    · rename_i expired
      rw [Option.any_eq_true] at expired
      obtain ⟨deadline, stored, passed⟩ := expired
      exact .inr ⟨rfl, deadline, stored, of_decide_eq_true passed⟩
    · exact .inl rfl
  · exact .inl rfl

theorem Counted.slotAt {policy : EffectivePolicy} {log : Log} {call : Call}
    (counted : Counted policy call.now call.clock log) :
    Counted policy call.now call.clock ⟨slotAt log call, log.admitted⟩ := by
  rcases slotAt_cases log call with kept | ⟨vanished, deadline, stored, passed⟩
  · rw [kept]
    exact counted
  rw [vanished]
  -- every admitted call has left the window, so the empty set still counts them
  refine ⟨⟨ZSet.empty, rfl, ?_⟩, counted.past, ?_, counted.bounded⟩
  · intro threshold recent
    have nothingAbove : admittedAbove log threshold = 0 := by
      rw [admittedAbove, countP_eq_zero]
      intro stamp member
      have before := counted.outlives deadline stored stamp member
      rw [decide_eq_true_eq, not_lt]
      linarith
    exact le_of_eq nothingAbove
  · intro _ absent
    cases absent

theorem admittedAbove_cons (slot : Slot) (stamp : ℚ) (log : Log) (threshold : ℚ) :
    admittedAbove ⟨slot, stamp :: log.admitted⟩ threshold =
      admittedAbove log threshold + if threshold < stamp then 1 else 0 := by
  simp only [admittedAbove, countP_cons, decide_eq_true_eq]

theorem admittedWithin_cons (slot : Slot) (stamp : ℚ) (log : Log) (window : Int) (final : ℚ) :
    admittedWithin ⟨slot, stamp :: log.admitted⟩ window final = admittedWithin log window final +
        if final - window < stamp ∧ stamp ≤ final then 1 else 0 := by
  simp only [admittedWithin, countP_cons, decide_eq_true_eq]

theorem admittedWithin_le_above (window : Int) (final : ℚ) :
    admittedWithin log window final ≤ admittedAbove log (final - window) := by
  apply countP_mono_left
  intro stamp _ within
  rw [decide_eq_true_eq] at within ⊢
  exact within.1

/-- With room left in the window of a call, one more admission keeps the bound for
every interval: an interval that ends before the call does not contain it, and all
others lie above what was evicted. -/
theorem bounded_after_admission (set : ZSet) (slot : Slot)
    (counted : Counted policy call.now call.clock log)
    (counts : ∀ threshold, call.now - policy.windowSeconds ≤ threshold →
      admittedAbove log threshold ≤ set.countAbove threshold)
    (room : ((evictedAt policy call set).card : Int) < policy.requestLimit) (final : ℚ) :
    (admittedWithin ⟨slot, call.now :: log.admitted⟩ policy.windowSeconds final : Int) ≤
      policy.requestLimit := by
  rw [admittedWithin_cons]
  by_cases inside : final - policy.windowSeconds < call.now ∧ call.now ≤ final
  · have recent : call.now - policy.windowSeconds ≤ final - policy.windowSeconds := by
      linarith [inside.2]
    have before : admittedWithin log policy.windowSeconds final ≤
        (evictedAt policy call set).card :=
      calc admittedWithin log policy.windowSeconds final
          ≤ admittedAbove log (final - policy.windowSeconds) :=
            admittedWithin_le_above log policy.windowSeconds final
        _ ≤ set.countAbove (final - policy.windowSeconds) := counts _ recent
        _ = (evictedAt policy call set).countAbove (final - policy.windowSeconds) :=
            (ZSet.countAbove_removeUpTo set _ _ recent).symm
        _ ≤ (evictedAt policy call set).card := List.countP_le_length
    rw [if_pos inside]
    omega
  · rw [if_neg inside]
    exact counted.bounded final

/-- A call that the window has room for adds a member the set does not hold. -/
def FreshStep (call : Call) : Prop :=
  ∀ set, asZSet (slotAt log call) = .ok set →
    ((evictedAt policy call set).card : Int) < policy.requestLimit →
      (evictedAt policy call set).contains (slidingMember call.now call.random) = false

/-- The slot may change under a call that is not counted: by an eviction outside the
window, or by a member more with a deadline a window away. -/
theorem Counted.replace {policy : EffectivePolicy} {now clock : ℚ} {log : Log}
    (counted : Counted policy now clock log) (slot : Slot) (set : ZSet)
    (held : asZSet slot = .ok set)
    (counts : ∀ threshold, now - policy.windowSeconds ≤ threshold →
      admittedAbove log threshold ≤ set.countAbove threshold)
    (deadlines : ∀ deadline, deadlineOf slot = some deadline →
      deadlineOf log.slot = some deadline ∨ clock + policy.windowSeconds ≤ deadline) :
    Counted policy now clock ⟨slot, log.admitted⟩ where
  held := ⟨set, held, counts⟩
  past := counted.past
  outlives deadline stored stamp member := by
    rcases deadlines deadline stored with kept | renewed
    · exact counted.outlives deadline kept stamp member
    · have stampPast := counted.past stamp member
      linarith
  bounded := counted.bounded

theorem Counted.admit {policy : EffectivePolicy} {call : Call} {log : Log}
    (counted : Counted policy call.now call.clock log) (slot : Slot) (set : ZSet)
    (counts : ∀ threshold, call.now - policy.windowSeconds ≤ threshold →
      admittedAbove log threshold ≤ set.countAbove threshold)
    (room : ((evictedAt policy call set).card : Int) < policy.requestLimit)
    (fresh : (evictedAt policy call set).contains (slidingMember call.now call.random) = false)
    (held : asZSet slot = .ok ((evictedAt policy call set).add call.now
      (slidingMember call.now call.random)))
    (renewed : ∀ deadline, deadlineOf slot = some deadline →
      deadline = call.clock + policy.windowSeconds) :
    Counted policy call.now call.clock ⟨slot, call.now :: log.admitted⟩ := by
  have past : ∀ stamp ∈ call.now :: log.admitted, stamp ≤ call.now := by
    intro stamp member
    rcases mem_cons.mp member with latest | earlier
    · exact le_of_eq latest
    · exact counted.past stamp earlier
  refine ⟨⟨_, held, ?_⟩, past, ?_, ?_⟩
  · intro threshold recent
    rw [admittedAbove_cons, ZSet.countAbove_add_of_fresh _ _ _ _ fresh, evictedAt,
      ZSet.countAbove_removeUpTo set _ _ recent]
    exact Nat.add_le_add_right (counts threshold recent) _
  · intro deadline stored stamp member
    have stampPast := past stamp member
    rw [renewed deadline stored]
    linarith
  · intro final
    exact bounded_after_admission policy log call set slot counted counts room final

theorem stepCall_counted (pos : 0 < policy.windowSeconds)
    (counted : Counted policy call.now call.clock log) (fresh : FreshStep policy log call) :
    ∃ next, stepCall policy log call = .ok next ∧ Counted policy call.now call.clock next := by
  have present := counted.slotAt
  obtain ⟨set, holds, counts⟩ := present.held
  by_cases room : ((evictedAt policy call set).card : Int) < policy.requestLimit
  · obtain ⟨⟨slot, admitted⟩, stepped, logged, added, expiry⟩ :=
      stepCall_admits policy log call set holds pos room
    subst logged
    exact ⟨_, stepped, counted.admit slot set counts room (fresh set holds room) added expiry⟩
  · obtain ⟨⟨slot, admitted⟩, stepped, logged, kept, expiry⟩ :=
      stepCall_refuses policy log call set holds (not_lt.mp room)
    subst logged
    refine ⟨_, stepped, present.replace slot _ kept ?_
      (fun deadline stored => .inl (expiry deadline stored))⟩
    intro threshold recent
    rw [evictedAt, ZSet.countAbove_removeUpTo set _ _ recent]
    exact counts threshold recent

/-! ## Whole runs -/

def FreshRun (policy : EffectivePolicy) : List Call → Log → Prop
  | [], _ => True
  | call :: rest, log =>
    FreshStep policy log call ∧
      ∀ next, stepCall policy log call = .ok next → FreshRun policy rest next

theorem runCalls_bounded (pos : 0 < policy.windowSeconds) :
    ∀ (calls : List Call) (previous : Call)
    (log : Log), Counted policy previous.now previous.clock log →
      (previous :: calls).Pairwise Follows → FreshRun policy calls log →
        ∃ final, runCalls policy calls log = .ok final ∧
          ∀ instant, (admittedWithin final policy.windowSeconds instant : Int) ≤
            policy.requestLimit := by
  intro calls
  induction calls with
  | nil =>
    intro previous log counted _ _
    exact ⟨log, rfl, counted.bounded⟩
  | cons call rest ih =>
    intro previous log counted ordered fresh
    obtain ⟨follows, restOrdered⟩ := pairwise_cons.mp ordered
    obtain ⟨later, paced⟩ := follows call mem_cons_self
    obtain ⟨next, stepped, nextCounted⟩ := stepCall_counted policy log call pos
      (counted.advance call.now call.clock later paced) fresh.1
    obtain ⟨final, ran, bounded⟩ :=
      ih call next nextCounted restOrdered (fresh.2 next stepped)
    refine ⟨final, ?_, bounded⟩
    rw [runCalls, stepped]
    exact ran

/-- No interval of one window holds more admitted calls than the limit, when every
admission of the run adds a new member and the server's clock keeps pace with the
timestamps. -/
theorem slidingWindow_bound_of_fresh (policy : EffectivePolicy)
    (limitPositive : 1 ≤ policy.requestLimit) (windowPositive : 1 ≤ policy.windowSeconds)
    (calls : List Call) (ordered : calls.Pairwise Follows)
    (fresh : FreshRun policy calls Log.start) :
    ∃ log, runCalls policy calls Log.start = .ok log ∧
      ∀ final, (admittedWithin log policy.windowSeconds final : Int) ≤ policy.requestLimit := by
  cases calls with
  | nil =>
    refine ⟨Log.start, rfl, ?_⟩
    exact (Counted.start policy 0 0 limitPositive).bounded
  | cons first rest =>
    exact runCalls_bounded policy windowPositive (first :: rest) first Log.start
      (Counted.start policy first.now first.clock limitPositive)
      (pairwise_follows_first first rest ordered) fresh

theorem new_member_of_limit_one (set : ZSet) (member : String) (single : policy.requestLimit = 1)
    (room : ((evictedAt policy call set).card : Int) < policy.requestLimit) :
    (evictedAt policy call set).contains member = false := by
  have vacant : (evictedAt policy call set).members = [] := by
    apply eq_nil_of_length_eq_zero
    unfold ZSet.card at room
    omega
  simp [ZSet.contains, vacant]

theorem freshRun_of_limit_one (single : policy.requestLimit = 1) (calls : List Call) :
    ∀ log, FreshRun policy calls log := by
  induction calls with
  | nil =>
    intro log
    trivial
  | cons call rest ih =>
    intro log
    refine ⟨?_, fun next _ => ih next⟩
    intro set _ room
    exact new_member_of_limit_one policy call set _ single room

def samplePolicy (requestLimit : Int) : EffectivePolicy where
  algorithm := .slidingWindow
  requestLimit := requestLimit
  windowSeconds := 60
  burstCapacity := none
  scope := .tool

def sampleCall (second : ℚ) : Call :=
  ⟨1700000000 + second, 1700000000 + second, 17082803611217 / 10 ^ 14, false⟩

theorem slidingWindow_bound_of_fresh_sample :
    ∃ log, runCalls (samplePolicy 1) [sampleCall 0, sampleCall 30, sampleCall 70]
        Log.start = .ok log ∧
      ∀ final, (admittedWithin log (samplePolicy 1).windowSeconds final : Int) ≤
        (samplePolicy 1).requestLimit :=
  slidingWindow_bound_of_fresh (samplePolicy 1) (by decide) (by decide)
    [sampleCall 0, sampleCall 30, sampleCall 70]
    (by simp [Follows, sampleCall]; norm_num)
    (freshRun_of_limit_one (samplePolicy 1) rfl _ Log.start)

/-! ## Bursts with one timestamp -/

/-- Three calls in one instant under a limit of two per minute: all are admitted. -/
theorem burst_of_three_exceeds_two : (List.replicate 3 (sampleCall 0)).Pairwise Follows ∧
      ∃ log, runCalls (samplePolicy 2) (List.replicate 3 (sampleCall 0)) Log.start = .ok log ∧
        ¬ (admittedWithin log (samplePolicy 2).windowSeconds 1700000000 : Int) ≤
          (samplePolicy 2).requestLimit := by
  refine ⟨by simp [List.replicate, Follows], ?_⟩
  have exceeds : (match runCalls (samplePolicy 2) (List.replicate 3 (sampleCall 0)) Log.start with
      | .ok log => decide (¬ (admittedWithin log (samplePolicy 2).windowSeconds 1700000000 : Int) ≤
          (samplePolicy 2).requestLimit)
      | .error _ => false) = true := by
    decide +kernel
  split at exceeds
  · exact ⟨_, ‹_›, of_decide_eq_true exceeds⟩
  · cases exceeds

end Portcullis.Limits.SlidingWindow
