import Portcullis.Limits.ExactScripts

/-!
# The token bucket and its clocks

The key of a bucket expires when the bucket would be full again, so that no answer tells
whether an expired key is still there.  Every gateway replica passes its own timestamp; a
timestamp that lies back debits the bucket by as much as the next one can credit it, so that
the admissions between two calls are paid for by the capacity and the time between the two.
-/

namespace Portcullis.Limits.BucketClock

open Lib.Redis Lib.Trace List
open Limits.Enforcement (presentSlot)
open Limits.ExactScripts Limits.RedisBucket
open Limits.SlidingWindow (Call)
open Limits.TokenBucket (capacity_le_refill leftAfter ttlOf ttl_pos)

variable (print : ℚ → ℚ) (capacity rate : ℚ)

def bucketCall (slot : Slot) (call : Call) : Except RedisError (Slot × TokenReply) :=
  tokenBucketScriptBy print (presentSlot slot call) capacity rate call.now 1 call.clock

def Readable (slot : Slot) : Prop :=
  ∃ stored, hmget slot "tokens" "last_refill" = .ok stored

theorem readable_none : Readable none := ⟨(none, none), rfl⟩

theorem bucketCall_total {slot : Slot} (readable : Readable slot) (call : Call) :
    ∃ after tokens, bucketCall print capacity rate slot call =
      .ok (after, tokenReply print capacity rate tokens) ∧ Readable after ∧ tokens ≤ capacity := by
  have present : Readable (presentSlot slot call) := by
    rcases presentSlot_cases slot call with kept | ⟨gone, -⟩
    · rwa [kept]
    · rw [gone]
      exact readable_none
  obtain ⟨stored, found⟩ := present
  obtain ⟨after, ran, dropped, written⟩ :=
    bucket_spec print capacity rate found call.now call.clock
  refine ⟨after, _, ran, ?_, refilled_le capacity rate stored call.now⟩
  by_cases persists : 0 < ttlOf capacity rate
  · exact ⟨_, (written persists).1⟩
  · rw [dropped (not_lt.mp persists)]
    exact readable_none

theorem exists_answers {slot : Slot} (readable : Readable slot) (calls : List Call) :
    ∃ after entries, trace (bucketCall print capacity rate) slot calls = .ok (after, entries) ∧
      Readable after := by
  apply exists_trace Readable _ calls readable
  intro slot call readable
  obtain ⟨next, tokens, ran, kept, -⟩ := bucketCall_total print capacity rate readable call
  exact ⟨next, _, ran, kept⟩

theorem one_le_capacity {slot after : Slot} {calls : List Call}
    {entries : List (Call × TokenReply)} (readable : Readable slot)
    (ran : trace (bucketCall print capacity rate) slot calls = .ok (after, entries)) :
    ∀ entry ∈ entries, entry.2.allowed = true → 1 ≤ capacity := by
  refine forall_of_trace Readable (fun _ reply => reply.allowed = true → 1 ≤ capacity) ?_
    readable ran
  intro slot call next reply readable ans
  obtain ⟨after, tokens, replied, kept, within⟩ :=
    bucketCall_total print capacity rate readable call
  cases ans.symm.trans replied
  exact ⟨kept, fun allowed => le_trans (of_decide_eq_true allowed) within⟩

/-! ## Clocks that disagree -/

/-- What a call leaves pays for all later ones: whatever time the next call passes, it finds at
most what is left and the refill between the two timestamps. -/
theorem refilled_after (left now later : ℚ) :
    refilled capacity rate (some left, some now) later ≤ left + rate * (later - now) := by
  have held : refilled capacity rate (some left, some now) later ≤ left + (later - now) * rate :=
    min_le_right _ _
  linarith

theorem admitted_le_supply (persists : 0 < ttlOf capacity rate) {after : Slot} :
    ∀ (entries : List (Call × TokenReply)) (slot : Slot) (stored : Option ℚ × Option ℚ)
      (supply : ℚ), hmget slot "tokens" "last_refill" = .ok stored →
      (∀ entry ∈ entries, entry.1.reaped = false) →
      (∀ first ∈ entries.head?, refilled capacity rate stored first.1.now ≤
        supply + rate * first.1.now) →
      trace (bucketCall print capacity rate) slot (entries.map Prod.fst) = .ok (after, entries) →
      ∀ final ∈ entries.getLast?, final.2.allowed = true →
        (entries.countP (fun entry => entry.2.allowed) : ℚ) ≤ supply + rate * final.1.now := by
  intro entries
  induction entries with
  | nil => exact fun _ _ _ _ _ _ _ final last => by cases last
  | cons entry rest ih =>
    intro slot stored supply found kept enough ran final last allowed
    obtain ⟨call, answer⟩ := entry
    obtain ⟨next, reply, later, stepped, onward, same⟩ := of_trace_cons ran
    cases same
    have present : presentSlot slot call = slot := by
      rw [presentSlot, kept _ mem_cons_self, if_neg Bool.false_ne_true]
    obtain ⟨written, replied, -, holds⟩ :=
      bucket_spec print capacity rate found call.now call.clock
    rw [bucketCall, present, replied] at stepped
    cases stepped
    have level := enough _ rfl
    have paid := leftAfter_add print capacity rate (refilled capacity rate stored call.now)
    rw [countP_cons]
    push_cast
    cases rest with
    | nil =>
      rw [List.getLast?_singleton] at last
      cases last
      have token : 1 ≤ refilled capacity rate stored call.now := of_decide_eq_true allowed
      rw [if_pos allowed, countP_nil]
      push_cast
      linarith
    | cons second others =>
      -- the supply of the later calls is what this call has not taken
      have rest := ih next _ (supply - if (tokenReply print capacity rate
          (refilled capacity rate stored call.now)).allowed then 1 else 0)
        (holds persists).1 (fun entry mem => kept entry (mem_cons_of_mem _ mem))
        (fun first atFirst => by
          have found := refilled_after capacity rate
            (leftAfter (refilled capacity rate stored call.now)) call.now first.1.now
          linarith)
        onward final last allowed
      linarith

/-- The admissions among consecutive calls on a persisting key are at most the capacity and the
refill between the timestamps of the first and the last, when the last is admitted.  The
timestamps come in any order. -/
theorem skew_mints_no_tokens (lasting : 0 < rate ∨ 0 < ttlOf capacity rate)
    (calls : List Call) (kept : ∀ call ∈ calls, call.reaped = false) :
    ∃ after entries, trace (bucketCall print capacity rate) none calls = .ok (after, entries) ∧
      ∀ front segment back, entries = front ++ (segment ++ back) →
        ∀ first ∈ segment.head?, ∀ final ∈ segment.getLast?, final.2.allowed = true →
          (segment.countP (fun entry => entry.2.allowed) : ℚ) ≤
            capacity + rate * (final.1.now - first.1.now) := by
  obtain ⟨after, entries, ran, -⟩ := exists_answers print capacity rate readable_none calls
  refine ⟨after, entries, ran, ?_⟩
  rintro front segment back rfl first atFirst final atLast allowed
  have inside : final ∈ front ++ (segment ++ back) :=
    mem_append_right _ (mem_append_left _ (mem_of_getLast? atLast))
  have holdsOne := one_le_capacity print capacity rate readable_none ran final inside allowed
  have persists : 0 < ttlOf capacity rate := by
    rcases lasting with refills | pos
    · exact ttl_pos (by linarith) (le_of_lt refills)
    · exact pos
  obtain ⟨middle, upTo, onward⟩ := of_trace_append ran
  obtain ⟨_, within, -⟩ := of_trace_append onward
  obtain ⟨_, _, again, stored, found⟩ :=
    exists_answers print capacity rate readable_none (front.map Prod.fst)
  cases upTo.symm.trans again
  have segmentKept : ∀ entry ∈ segment, entry.1.reaped = false := by
    intro entry mem
    apply kept
    rw [← map_fst_of_trace ran]
    exact mem_map_of_mem (mem_append_right _ (mem_append_left _ mem))
  have bound := admitted_le_supply print capacity rate persists segment middle stored
    (capacity - rate * first.1.now) found segmentKept (fun other atOther => by
      obtain rfl := Option.some.inj (atFirst.symm.trans atOther)
      linarith [refilled_le capacity rate stored first.1.now]) within final atLast allowed
  linarith

/-- Three replicas a minute apart, the middle one behind: what its timestamp takes away comes
back with the next. -/
theorem skew_mints_no_tokens_sample : ∃ after entries, trace (bucketCall id 2 1) none
        [⟨60, 0, 0, false⟩, ⟨0, 0, 0, false⟩, ⟨60, 0, 0, false⟩] = .ok (after, entries) ∧
      ∀ front segment back, entries = front ++ (segment ++ back) →
        ∀ first ∈ segment.head?, ∀ final ∈ segment.getLast?, final.2.allowed = true →
          (segment.countP (fun entry => entry.2.allowed) : ℚ) ≤
            2 + 1 * (final.1.now - first.1.now) :=
  skew_mints_no_tokens id 2 1 (.inl one_pos)
    [⟨60, 0, 0, false⟩, ⟨0, 0, 0, false⟩, ⟨60, 0, 0, false⟩] (by decide)

/-! ## Keys that expire -/

def undisturbed (call : Call) : Call := { call with reaped := false }

/-- Two keys that no call from `now` on tells apart; the first may have a deadline, and by then
the bucket is full. -/
def Alike (now : ℚ) (expiring lasting : Slot) : Prop :=
  ∃ first second, hmget expiring "tokens" "last_refill" = .ok first ∧
    hmget lasting "tokens" "last_refill" = .ok second ∧
    ∀ later, now ≤ later →
      refilled capacity rate first later = refilled capacity rate second later ∧
      0 ≤ refilled capacity rate second later ∧
      ∀ deadline ∈ deadlineOf expiring, deadline ≤ later →
        refilled capacity rate second later = capacity

theorem refilled_none (now : ℚ) : refilled capacity rate (none, none) now = capacity := by
  simp [refilled]

theorem alike_none (nonneg : 0 ≤ capacity) (now : ℚ) : Alike capacity rate now none none := by
  refine ⟨(none, none), (none, none), rfl, rfl, ?_⟩
  intro later _
  rw [refilled_none]
  exact ⟨rfl, nonneg, fun deadline absent => by cases absent⟩

section Positive

variable {capacity rate} (holdsOne : 1 ≤ capacity) (refills : 0 < rate)

include holdsOne refills

theorem alike_after {expiring lasting : Slot} {left now : ℚ} (nonneg : 0 ≤ left)
    (first : hmget expiring "tokens" "last_refill" = .ok (some left, some now))
    (second : hmget lasting "tokens" "last_refill" = .ok (some left, some now))
    (renewed : deadlineOf expiring = some (now + ttlOf capacity rate)) :
    Alike capacity rate now expiring lasting := by
  refine ⟨_, _, first, second, fun later after => ⟨rfl, ?_, ?_⟩⟩
  · have grown : 0 ≤ (later - now) * rate :=
      mul_nonneg (sub_nonneg.mpr after) (le_of_lt refills)
    exact le_min (by linarith) (add_nonneg nonneg grown)
  · intro deadline stored passed
    obtain rfl := Option.some.inj (renewed.symm.trans stored)
    have waited : (ttlOf capacity rate : ℚ) ≤ later - now := by linarith
    have grown : (ttlOf capacity rate : ℚ) * rate ≤ (later - now) * rate :=
      mul_le_mul_of_nonneg_right waited (le_of_lt refills)
    have enough := capacity_le_refill capacity refills
    exact min_eq_left (show capacity ≤ left + (later - now) * rate by linarith)

theorem bucketCall_alike {expiring lasting : Slot} {now : ℚ}
    (alike : Alike capacity rate now expiring lasting) (call : Call)
    (oneClock : call.clock = call.now) (later : now ≤ call.now) :
    ∃ expiring' lasting' reply,
      bucketCall print capacity rate expiring call = .ok (expiring', reply) ∧
      bucketCall print capacity rate lasting (undisturbed call) = .ok (lasting', reply) ∧
      Alike capacity rate call.now expiring' lasting' := by
  obtain ⟨first, second, firstFound, secondFound, same⟩ := alike
  obtain ⟨equal, nonneg, full⟩ := same call.now later
  obtain ⟨stored, found, level⟩ : ∃ stored,
      hmget (presentSlot expiring call) "tokens" "last_refill" = .ok stored ∧
        refilled capacity rate stored call.now = refilled capacity rate second call.now := by
    rcases presentSlot_cases expiring call with kept | ⟨gone, deadline, due, passed⟩
    · rw [kept]
      exact ⟨first, firstFound, equal⟩
    · rw [gone]
      refine ⟨(none, none), rfl, ?_⟩
      rw [refilled_none, full deadline due (oneClock ▸ passed)]
  obtain ⟨expiring', ran, -, written⟩ := bucket_spec print capacity rate found call.now call.clock
  obtain ⟨lasting', ran', -, written'⟩ :=
    bucket_spec print capacity rate secondFound call.now call.clock
  have persists : 0 < ttlOf capacity rate := ttl_pos (by linarith) (le_of_lt refills)
  rw [level] at ran written
  refine ⟨expiring', lasting', _, ran, ran', ?_⟩
  have left : 0 ≤ leftAfter (refilled capacity rate second call.now) := by
    unfold leftAfter
    split
    · linarith
    · exact nonneg
  exact alike_after holdsOne refills left (written persists).1 (written' persists).1
    (oneClock ▸ (written persists).2)

theorem answers_alike : ∀ (calls : List Call) (expiring lasting : Slot) (now : ℚ),
    Alike capacity rate now expiring lasting →
      (∀ call ∈ calls, now ≤ call.now ∧ call.clock = call.now) →
        (calls.map Call.now).Pairwise (· ≤ ·) → ∃ gone kept entries others,
            trace (bucketCall print capacity rate) expiring calls = .ok (gone, entries) ∧
            trace (bucketCall print capacity rate) lasting (calls.map undisturbed) =
              .ok (kept, others) ∧
            entries.map Prod.snd = others.map Prod.snd := by
  intro calls
  induction calls with
  | nil => exact fun expiring lasting _ _ _ _ => ⟨expiring, lasting, [], [], rfl, rfl, rfl⟩
  | cons call rest ih =>
    intro expiring lasting now alike after ordered
    obtain ⟨follows, restOrdered⟩ := pairwise_cons.mp ordered
    obtain ⟨later, oneClock⟩ := after call mem_cons_self
    obtain ⟨next, next', reply, ran, ran', nextAlike⟩ :=
      bucketCall_alike print holdsOne refills alike call oneClock later
    obtain ⟨gone, kept, entries, others, onward, onward', same⟩ :=
      ih next next' call.now nextAlike (fun other mem =>
        ⟨follows _ (mem_map_of_mem mem), (after other (mem_cons_of_mem _ mem)).2⟩)
        restOrdered
    refine ⟨gone, kept, _, _, trace_cons ran onward, trace_cons ran' onward', ?_⟩
    rw [map_cons, map_cons, same]

/-- No answer depends on whether an expired key has been deleted. -/
theorem expiry_unobservable (calls : List Call) (oneClock : ∀ call ∈ calls, call.clock = call.now)
    (ordered : (calls.map Call.now).Pairwise (· ≤ ·)) :
    ∃ gone kept entries others,
      trace (bucketCall print capacity rate) none calls = .ok (gone, entries) ∧
      trace (bucketCall print capacity rate) none (calls.map undisturbed) = .ok (kept, others) ∧
      entries.map Prod.snd = others.map Prod.snd := by
  have nonneg : 0 ≤ capacity := by linarith
  cases calls with
  | nil => exact ⟨none, none, [], [], rfl, rfl, rfl⟩
  | cons first rest =>
    refine answers_alike print holdsOne refills (first :: rest) none none first.now
      (alike_none capacity rate nonneg first.now) ?_ ordered
    exact fun call mem => ⟨le_of_ordered_cons ordered call mem, oneClock call mem⟩

end Positive

/-- A burst of three on a bucket of two, and a call after the key has expired. -/
theorem expiry_unobservable_sample : ∃ gone kept entries others,
      trace (bucketCall id 2 1) none [⟨0, 0, 0, true⟩, ⟨0, 0, 0, true⟩, ⟨0, 0, 0, true⟩,
        ⟨3, 3, 0, true⟩] = .ok (gone, entries) ∧
      trace (bucketCall id 2 1) none [⟨0, 0, 0, false⟩, ⟨0, 0, 0, false⟩, ⟨0, 0, 0, false⟩,
        ⟨3, 3, 0, false⟩] = .ok (kept, others) ∧
      entries.map Prod.snd = others.map Prod.snd :=
  expiry_unobservable id one_le_two one_pos [⟨0, 0, 0, true⟩, ⟨0, 0, 0, true⟩, ⟨0, 0, 0, true⟩,
    ⟨3, 3, 0, true⟩] (by simp) (by simp)

end Portcullis.Limits.BucketClock
