import Portcullis.Limits.ExactScripts
import Portcullis.Limits.RetryAfter

/-!
# What `RateLimit-Remaining` promises

Both scripts report how many calls are left.  The sliding window counts before it adds its own
entry, the token bucket rounds down what is left of its tokens.  As long as the time stands
still, the reported number is what the key still admits, and each admission takes one from it.
-/

namespace Portcullis.Limits.Remaining

open Lib.Redis Lib.Trace Limits.Enforcement Limits.ExactScripts Limits.Policies Limits.RedisBucket
  Limits.RetryAfter List
open Limits.SlidingWindow (Call evictedAt)
open Limits.TokenBucket Models

def memberOf (call : Call) : String := slidingMember call.now call.random

def answer (policy : EffectivePolicy) (slot : Slot) (call : Call) :
    Except RedisError (Slot × RateLimitResult) :=
  check (presentSlot slot call) policy call

section Policy

variable (policy : EffectivePolicy)

/-- The key holds what the algorithm reads, and no member besides those in `history`. -/
def Sound (history : List String) (slot : Slot) : Prop :=
  match policy.algorithm with
  | .tokenBucket => ∃ fields, asHash slot = .ok fields
  | .slidingWindow => ∃ set, asZSet slot = .ok set ∧ ∀ item ∈ set.members, item.1 ∈ history

/-- At the moment of `call` the key admits `left` more calls. -/
def Ready (call : Call) (left : Nat) (history : List String) (slot : Slot) : Prop :=
  match policy.algorithm with
  | .tokenBucket => ∃ fields tokens, asHash slot = .ok fields ∧
      getField "tokens" fields = some tokens ∧
      getField "last_refill" fields = some call.now ∧
      deadlineOf slot = some (call.clock + bucketTtl policy) ∧
      tokens ≤ bucketCapacity policy ∧ (left = 0 ∨ (left : ℚ) ≤ tokens) ∧ tokens < left + 1
  | .slidingWindow => ∃ set, asZSet slot = .ok set ∧ (∀ item ∈ set.members, item.1 ∈ history) ∧
      (∀ item ∈ set.members, call.now - policy.windowSeconds < item.2) ∧
      (∀ deadline ∈ deadlineOf slot, call.clock < deadline) ∧
      ((set.card + left : Int) = policy.requestLimit ∨ left = 0 ∧ policy.requestLimit ≤ set.card)

/-- The member of a call that is admitted to a window is a new one. -/
def Fresh (history : List String) (call : Call) (result : RateLimitResult) : Prop :=
  policy.algorithm = .slidingWindow → result.allowed = true → memberOf call ∉ history

def grown (history : List String) (call : Call) (result : RateLimitResult) : List String :=
  if result.allowed then memberOf call :: history else history

variable {policy}

theorem Sound.mono {history larger : List String} {slot : Slot} (sound : Sound policy history slot)
    (subset : ∀ mem ∈ history, mem ∈ larger) : Sound policy larger slot := by
  unfold Sound at *
  cases algorithm : policy.algorithm with
  | tokenBucket =>
    rw [algorithm] at sound
    exact sound
  | slidingWindow =>
    rw [algorithm] at sound
    obtain ⟨set, held, known⟩ := sound
    exact ⟨set, held, fun item mem => subset _ (known item mem)⟩

theorem sound_none (history : List String) : Sound policy history none := by
  unfold Sound
  cases policy.algorithm with
  | tokenBucket => exact ⟨[], rfl⟩
  | slidingWindow => exact ⟨ZSet.empty, rfl, fun item absent => absurd absent not_mem_nil⟩

theorem Sound.present {history : List String} {slot : Slot} (sound : Sound policy history slot)
    (call : Call) : Sound policy history (presentSlot slot call) := by
  rcases presentSlot_cases slot call with kept | ⟨gone, -⟩
  · rwa [kept]
  · rw [gone]
    exact sound_none history

/-! ## The token bucket -/

section Bucket

variable (positive : Positive policy) (bucket : policy.algorithm = .tokenBucket)

include bucket

include positive in
theorem bucket_answers {slot : Slot} {call : Call} {tokens : ℚ} (history : List String)
    (found : level policy slot call.now = .ok tokens) :
    ∃ next, check slot policy call = .ok (next, resultAt policy tokens) ∧
      Ready policy call (resultAt policy tokens).remaining.toNat history next := by
  obtain ⟨next, fields, ran, held, stored, refilled, expires⟩ := check_bucket positive bucket found
  have capped := level_le policy slot call.now tokens found
  refine ⟨next, ran, ?_⟩
  rw [Ready, bucket]
  by_cases enough : 1 ≤ tokens
  · have nonneg : 0 ≤ tokens - 1 := sub_nonneg.mpr enough
    have whole : ((resultAt policy tokens).remaining.toNat : ℚ) = ⌊tokens - 1⌋ := by
      rw [resultAt, max_eq_right nonneg]
      exact_mod_cast Int.toNat_of_nonneg (Int.floor_nonneg.mpr nonneg)
    rw [leftAfter, if_pos enough] at stored
    refine ⟨fields, _, held, stored, refilled, expires, by linarith, .inr ?_, ?_⟩
    · rw [whole]
      exact Int.floor_le _
    · rw [whole]
      exact Int.lt_floor_add_one _
  · have nothing : (resultAt policy tokens).remaining.toNat = 0 := by
      rw [resultAt, max_eq_left (by linarith)]
      rfl
    rw [leftAfter, if_neg enough] at stored
    refine ⟨fields, _, held, stored, refilled, expires, capped, .inl nothing, ?_⟩
    rw [nothing, Nat.cast_zero, zero_add]
    exact not_le.mp enough

theorem bucket_ready {slot : Slot} {call : Call} {left : Nat} {history : List String}
    (ready : Ready policy call left history slot) :
    ∃ tokens, level policy slot call.now = .ok tokens ∧
      (resultAt policy tokens).allowed = decide (0 < left) ∧
      (resultAt policy tokens).remaining.toNat = left - 1 := by
  rw [Ready, bucket] at ready
  obtain ⟨fields, tokens, held, stored, refilled, -, capped, enough, short⟩ := ready
  refine ⟨tokens, ?_, ?_⟩
  · rw [level_eq policy slot fields held, stored, refilled]
    simp [capped]
  cases left with
  | zero =>
    have few : ¬ 1 ≤ tokens := by
      rw [Nat.cast_zero, zero_add] at short
      exact not_le.mpr short
    refine ⟨decide_eq_false few, ?_⟩
    rw [resultAt, max_eq_left (by linarith)]
    rfl
  | succ others =>
    have least := enough.resolve_left (Nat.succ_ne_zero others)
    push_cast at least short
    have floored : ⌊tokens - 1⌋ = others := by
      rw [Int.floor_eq_iff]
      exact ⟨by push_cast; linarith, by push_cast; linarith⟩
    refine ⟨decide_eq_true (show 1 ≤ tokens by linarith), ?_⟩
    rw [resultAt, max_eq_right (by linarith), floored]
    rfl

end Bucket

/-! ## The sliding window -/

section Window

variable (positive : Positive policy) (sliding : policy.algorithm = .slidingWindow)

include sliding

theorem check_window (slot : Slot) (call : Call) : check slot policy call =
    checkSlidingWindowBy luaRounded slot policy call.now call.clock call.random := by
  rw [check, sliding]
  rfl

include positive

theorem window_answers {slot : Slot} {call : Call} {history : List String}
    (sound : Sound policy history slot) :
    ∃ next result, check slot policy call = .ok (next, result) ∧ 0 ≤ result.remaining ∧
      Sound policy (grown history call result) next ∧
      ((∀ deadline ∈ deadlineOf slot, call.clock < deadline) → Fresh policy history call result →
          Ready policy call result.remaining.toNat (grown history call result) next) := by
  rw [Sound, sliding] at sound
  obtain ⟨set, held, known⟩ := sound
  have window : (0 : ℚ) < policy.windowSeconds := Int.cast_pos.mpr positive.window
  have recent : ∀ item ∈ (evictedAt policy call set).members,
      call.now - policy.windowSeconds < item.2 :=
    fun item member => of_decide_eq_true (mem_filter.mp member).2
  have knownEvicted : ∀ item ∈ (evictedAt policy call set).members, item.1 ∈ history :=
    fun item member => known item (mem_filter.mp member).1
  simp only [check_window sliding, Sound, Ready, sliding]
  by_cases room : ((evictedAt policy call set).card : Int) < policy.requestLimit
  · obtain ⟨next, ran, entered, renewed⟩ := window_admits luaRounded held positive.window room
    have members : ∀ item ∈ (enteredAt policy call set).members,
        item = (memberOf call, call.now) ∨ item ∈ (evictedAt policy call set).members := by
      intro item member
      exact (mem_cons.mp member).imp_right fun older => (mem_filter.mp older).1
    have knownEntered : ∀ item ∈ (enteredAt policy call set).members,
        item.1 ∈ memberOf call :: history := by
      intro item member
      rcases members item member with rfl | older
      · exact mem_cons_self
      · exact mem_cons_of_mem _ (knownEvicted item older)
    refine ⟨next, _, ran, le_max_left 0 _, ⟨_, entered, knownEntered⟩, fun _ fresh => ?_⟩
    refine ⟨_, entered, knownEntered, ?_, ?_, .inl ?_⟩
    · intro item member
      rcases members item member with rfl | older
      · exact sub_lt_self _ window
      · exact recent item older
    · intro deadline stored
      obtain rfl := Option.some.inj (renewed.symm.trans stored)
      exact lt_add_of_pos_right _ window
    · have new : (evictedAt policy call set).contains (memberOf call) = false := by
        rw [ZSet.contains, contains_eq_mem, decide_eq_false_iff_not]
        intro present
        obtain ⟨item, member, same⟩ := mem_map.mp present
        exact fresh sliding rfl (same ▸ knownEvicted item member)
      have counted : (enteredAt policy call set).card = (evictedAt policy call set).card + 1 :=
        congrArg List.length (ZSet.members_add_of_fresh _ call.now _ new)
      have reported : (windowResult luaRounded policy call.now true
          (evictedAt policy call set).card (enteredAt policy call set)).remaining =
            policy.requestLimit - (evictedAt policy call set).card - 1 :=
        max_eq_right (by omega)
      omega
  · have full := not_lt.mp room
    have ran := window_refuses luaRounded held full
    have reported : (windowResult luaRounded policy call.now false
        (evictedAt policy call set).card (evictedAt policy call set)).remaining = 0 :=
      max_eq_left (by omega)
    refine ⟨_, _, ran, le_max_left 0 _, ⟨_, asZSet_storeZSet _ _, knownEvicted⟩, fun live _ => ?_⟩
    refine ⟨_, asZSet_storeZSet _ _, knownEvicted, recent, ?_, .inr ⟨?_, full⟩⟩
    · exact fun deadline stored => live deadline (deadlineOf_storeZSet _ _ _ stored)
    · rw [reported]
      rfl

theorem window_ready {slot : Slot} {call : Call} {left : Nat} {history : List String}
    (ready : Ready policy call left history slot) :
    ∃ next result, check slot policy call = .ok (next, result) ∧
      result.allowed = decide (0 < left) ∧ result.remaining.toNat = left - 1 := by
  rw [Ready, sliding] at ready
  obtain ⟨set, held, -, recent, -, counted⟩ := ready
  have whole : evictedAt policy call set = set := by
    apply ZSet.ext
    exact filter_eq_self.mpr fun item mem => decide_eq_true (recent item mem)
  rw [check_window sliding]
  cases left with
  | zero =>
    have full : policy.requestLimit ≤ (evictedAt policy call set).card := by
      rw [whole]
      omega
    have ran := window_refuses luaRounded held full
    refine ⟨_, _, ran, rfl, ?_⟩
    have reported : (windowResult luaRounded policy call.now false
        (evictedAt policy call set).card (evictedAt policy call set)).remaining = 0 :=
      max_eq_left (by omega)
    rw [reported]
    rfl
  | succ others =>
    have room : ((evictedAt policy call set).card : Int) < policy.requestLimit := by
      rw [whole]
      omega
    obtain ⟨next, ran, -⟩ := window_admits luaRounded held positive.window room
    refine ⟨next, _, ran, rfl, ?_⟩
    have reported : (windowResult luaRounded policy call.now true
        (evictedAt policy call set).card (enteredAt policy call set)).remaining =
          policy.requestLimit - (evictedAt policy call set).card - 1 :=
      max_eq_right (by omega)
    rw [reported, whole]
    omega

end Window

/-! ## Both algorithms -/

section Answers

variable {slot : Slot} {call : Call} {left : Nat} {history : List String}

theorem live_of_reaped (reaped : call.reaped = true) :
    ∀ deadline ∈ deadlineOf (presentSlot slot call), call.clock < deadline := by
  rw [presentSlot, if_pos reaped]
  rcases lapse_eq slot call.clock with ⟨gone, -⟩ | ⟨kept, early⟩
  · rw [gone]
    exact fun deadline absent => by cases absent
  · rw [kept]
    exact fun deadline stored => not_le.mp fun passed => early ⟨deadline, stored, passed⟩

theorem Ready.sound (ready : Ready policy call left history slot) : Sound policy history slot := by
  unfold Ready at ready
  unfold Sound
  cases algorithm : policy.algorithm with
  | tokenBucket =>
    rw [algorithm] at ready
    obtain ⟨fields, tokens, held, -⟩ := ready
    exact ⟨fields, held⟩
  | slidingWindow =>
    rw [algorithm] at ready
    obtain ⟨set, held, known, -⟩ := ready
    exact ⟨set, held, known⟩

variable (positive : Positive policy)

include positive

theorem Ready.live (ready : Ready policy call left history slot) :
    ∀ deadline ∈ deadlineOf slot, call.clock < deadline := by
  unfold Ready at ready
  cases algorithm : policy.algorithm with
  | tokenBucket =>
    rw [algorithm] at ready
    obtain ⟨fields, tokens, -, -, -, expires, -⟩ := ready
    intro deadline stored
    obtain rfl := Option.some.inj (expires.symm.trans stored)
    exact lt_add_of_pos_right _ (Int.cast_pos.mpr positive.ttl)
  | slidingWindow =>
    rw [algorithm] at ready
    obtain ⟨set, -, -, -, live, -⟩ := ready
    exact live

theorem answer_spec (sound : Sound policy history slot) (call : Call) :
    ∃ next result, answer policy slot call = .ok (next, result) ∧ 0 ≤ result.remaining ∧
      Sound policy (grown history call result) next ∧
      ((∀ deadline ∈ deadlineOf (presentSlot slot call), call.clock < deadline) →
        Fresh policy history call result →
          Ready policy call result.remaining.toNat (grown history call result) next) := by
  have present := sound.present call
  cases algorithm : policy.algorithm with
  | tokenBucket =>
    rw [Sound, algorithm] at present
    obtain ⟨fields, held⟩ := present
    have found := level_eq policy (presentSlot slot call) fields held call.now
    obtain ⟨next, ran, ready⟩ := bucket_answers positive algorithm
      (grown history call (resultAt policy _)) found
    refine ⟨next, _, ran, Int.floor_nonneg.mpr (le_max_left 0 _), ?_, fun _ _ => ready⟩
    rw [Ready, algorithm] at ready
    obtain ⟨written, -, kept, -⟩ := ready
    rw [Sound, algorithm]
    exact ⟨written, kept⟩
  | slidingWindow => exact window_answers positive algorithm present

theorem answer_ready (ready : Ready policy call left history slot) :
    ∃ next result, answer policy slot call = .ok (next, result) ∧
      result.allowed = decide (0 < left) ∧ result.remaining.toNat = left - 1 ∧
      (Fresh policy history call result →
        Ready policy call (left - 1) (grown history call result) next) := by
  have live := ready.live positive
  have present : presentSlot slot call = slot := by
    rcases presentSlot_cases slot call with kept | ⟨-, deadline, stored, passed⟩
    · exact kept
    · exact absurd passed (not_le.mpr (live deadline stored))
  have counted : ∃ next result, check slot policy call = .ok (next, result) ∧
      result.allowed = decide (0 < left) ∧ result.remaining.toNat = left - 1 := by
    cases algorithm : policy.algorithm with
    | tokenBucket =>
      obtain ⟨tokens, found, allowed, remaining⟩ := bucket_ready algorithm ready
      obtain ⟨next, ran, -⟩ := bucket_answers positive algorithm history found
      exact ⟨next, _, ran, allowed, remaining⟩
    | slidingWindow => exact window_ready positive algorithm ready
  obtain ⟨next, result, ran, allowed, remaining⟩ := counted
  obtain ⟨_, _, ans, -, -, onward⟩ := answer_spec positive ready.sound call
  have same : answer policy slot call = .ok (next, result) := by rw [answer, present, ran]
  cases same.symm.trans ans
  refine ⟨next, result, ans, allowed, remaining, fun fresh => ?_⟩
  rw [← remaining]
  exact onward (by rwa [present]) fresh

omit positive in
theorem ready_congr {other : Call} (now : other.now = call.now) (clock : other.clock = call.clock)
    (ready : Ready policy call left history slot) : Ready policy other left history slot := by
  unfold Ready at *
  rwa [now, clock]

end Answers

/-! ## Runs -/

section Runs

variable (positive : Positive policy)

include positive

theorem exists_trace_answer {slot : Slot} {history : List String}
    (sound : Sound policy history slot) (calls : List Call) :
    ∃ after entries, trace (answer policy) slot calls = .ok (after, entries) := by
  obtain ⟨after, entries, ran, -⟩ := exists_trace (fun slot => ∃ history, Sound policy history slot)
    (fun slot call ⟨history, sound⟩ => by
      obtain ⟨next, result, ran, -, kept, -⟩ := answer_spec positive sound call
      exact ⟨next, result, ran, _, kept⟩) calls ⟨history, sound⟩
  exact ⟨after, entries, ran⟩

theorem sound_of_trace {after : Slot} : ∀ (calls : List Call) (slot : Slot)
    (history : List String) (entries : List (Call × RateLimitResult)),
    Sound policy history slot → trace (answer policy) slot calls = .ok (after, entries) →
      Sound policy (admittedMembers memberOf entries ++ history) after := by
  intro calls
  induction calls with
  | nil =>
    intro slot history entries sound ran
    cases ran
    exact sound
  | cons call rest ih =>
    intro slot history entries sound ran
    obtain ⟨next, result, others, stepped, onward, rfl⟩ := of_trace_cons ran
    obtain ⟨_, _, ans, -, kept, -⟩ := answer_spec positive sound call
    cases stepped.symm.trans ans
    refine (ih next _ others kept onward).mono ?_
    intro member inside
    rw [admittedMembers_cons]
    unfold grown at inside
    split at inside
    · rename_i allowed
      rw [if_pos allowed]
      exact perm_middle.subset inside
    · rename_i denied
      rw [if_neg denied]
      exact inside

theorem countdown {after : Slot} {moment : Call} : ∀ (left : Nat) (calls : List Call) (slot : Slot)
    (history : List String) (entries : List (Call × RateLimitResult)),
    Ready policy moment left history slot → calls.length = left + 1 →
      (∀ call ∈ calls, call.now = moment.now ∧ call.clock = moment.clock) →
        trace (answer policy) slot calls = .ok (after, entries) →
          (policy.algorithm = .slidingWindow →
            (admittedMembers memberOf entries ++ history).Nodup) →
              (entries.map fun entry => entry.2.allowed) = List.replicate left true ++ [false] := by
  intro left
  induction left with
  | zero =>
    intro calls slot history entries ready length same ran distinct
    obtain ⟨call, rfl⟩ := length_eq_one_iff.mp length
    obtain ⟨now, clock⟩ := same call (mem_singleton_self call)
    obtain ⟨next, result, others, stepped, onward, rfl⟩ := of_trace_cons ran
    obtain ⟨_, _, ans, denied, -⟩ := answer_ready positive (ready_congr now clock ready)
    cases stepped.symm.trans ans
    cases onward
    rw [map_singleton, denied]
    rfl
  | succ left ih =>
    intro calls slot history entries ready length same ran distinct
    obtain ⟨call, rest, rfl⟩ := exists_cons_of_length_eq_add_one length
    obtain ⟨now, clock⟩ := same call mem_cons_self
    obtain ⟨next, result, others, stepped, onward, rfl⟩ := of_trace_cons ran
    obtain ⟨_, _, ans, allowed, -, onwards⟩ :=
      answer_ready positive (ready_congr now clock ready)
    cases stepped.symm.trans ans
    have admitted : result.allowed = true := allowed.trans (decide_eq_true left.succ_pos)
    rw [admittedMembers_cons, if_pos admitted] at distinct
    have fresh : Fresh policy history call result := fun sliding _ member =>
      (nodup_cons.mp (distinct sliding)).1 (mem_append_right _ member)
    have nextReady := ready_congr now.symm clock.symm (onwards fresh)
    rw [grown, if_pos admitted] at nextReady
    have restDecided := ih rest next (memberOf call :: history) others nextReady
      (Nat.succ.inj length) (fun other member => same other (mem_cons_of_mem _ member))
      onward (fun sliding => perm_middle.symm.nodup (distinct sliding))
    rw [map_cons, restDecided, admitted]
    rfl

end Runs

end Policy

/-- After a check that reports `r` calls, `r` more checks at the same time are admitted and the
next one is refused.  The key may have any history. -/
theorem remaining_exact (policy : EffectivePolicy) (positive : Positive policy)
    (calls : List Call) (last : Call) (further : List Call) (expires : last.reaped = true)
    (same : ∀ call ∈ further, call.now = last.now ∧ call.clock = last.clock) :
    ∃ slot front after result final back, trace (answer policy) none calls = .ok (slot, front) ∧
      answer policy slot last = .ok (after, result) ∧ 0 ≤ result.remaining ∧
      trace (answer policy) after further = .ok (final, back) ∧
      (further.length = result.remaining.toNat + 1 → (policy.algorithm = .slidingWindow →
          (admittedMembers memberOf (front ++ (last, result) :: back)).Nodup) →
            (back.map fun entry => entry.2.allowed) =
              List.replicate result.remaining.toNat true ++ [false]) := by
  obtain ⟨slot, front, before⟩ := exists_trace_answer positive (sound_none []) calls
  have reached := sound_of_trace positive calls none [] front (sound_none []) before
  rw [append_nil] at reached
  obtain ⟨after, result, ans, nonneg, kept, ready⟩ := answer_spec positive reached last
  obtain ⟨final, back, ran⟩ := exists_trace_answer positive kept further
  refine ⟨slot, front, after, result, final, back, before, ans, nonneg, ran, ?_⟩
  intro length distinct
  simp only [admittedMembers_append, admittedMembers_cons] at distinct
  have fresh : Fresh policy (admittedMembers memberOf front) last result := by
    intro sliding allowed member
    have once := distinct sliding
    rw [if_pos allowed] at once
    exact disjoint_of_nodup_append once member mem_cons_self
  refine countdown positive _ further after _ back (ready (live_of_reaped expires) fresh) length
    same ran fun sliding => ?_
  have once := perm_append_comm.nodup (distinct sliding)
  unfold grown
  split
  · rename_i allowed
    rw [if_pos allowed] at once
    exact perm_middle.symm.nodup once
  · rename_i denied
    rwa [if_neg denied] at once

def threeTokens : EffectivePolicy where
  algorithm := .tokenBucket
  requestLimit := 60
  windowSeconds := 60
  burstCapacity := some 3
  scope := .tool

/-- Half a second after the first call one and a half tokens are left: one more call is admitted
at that time, and the next one is refused. -/
theorem remaining_exact_half_token : ∃ slot front after result final back,
      trace (answer threeTokens) none [⟨0, 0, 0, true⟩] = .ok (slot, front) ∧
      answer threeTokens slot ⟨1 / 2, 1 / 2, 0, true⟩ = .ok (after, result) ∧
      result.remaining = 1 ∧
      trace (answer threeTokens) after [⟨1 / 2, 1 / 2, 0, true⟩, ⟨1 / 2, 1 / 2, 0, true⟩] =
        .ok (final, back) ∧
      (back.map fun entry => entry.2.allowed) = [true, false] := by
  obtain ⟨slot, front, after, result, final, back, before, ans, -, ran, spec⟩ :=
    remaining_exact threeTokens ⟨by decide, by decide, by decide⟩ [⟨0, 0, 0, true⟩]
      ⟨1 / 2, 1 / 2, 0, true⟩ [⟨1 / 2, 1 / 2, 0, true⟩, ⟨1 / 2, 1 / 2, 0, true⟩] rfl (by simp)
  have computed : ((trace (answer threeTokens) none [⟨0, 0, 0, true⟩]).bind fun found =>
      (answer threeTokens found.1 ⟨1 / 2, 1 / 2, 0, true⟩).map fun next => next.2.remaining) =
        .ok 1 := by
    decide +kernel
  simp only [before, ans, Except.bind, Except.map, Except.ok.injEq] at computed
  rw [computed] at spec
  exact ⟨slot, front, after, result, final, back, before, ans, computed, ran,
    spec rfl fun sliding => by cases sliding⟩

end Portcullis.Limits.Remaining
