import Portcullis.Limits.ExactScripts

/-!
# The sliding window is a log of admissions

The limiter stands for a log: a call is admitted if the log holds fewer than the limit of
admissions in the window that ends with the call.  The script keeps of that log what the last
call left in the window, and nothing once the key has expired.
-/

namespace Portcullis.Limits.WindowLog

open Lib.Redis Lib.Trace List
open Limits.Enforcement (presentSlot)
open Limits.ExactScripts Limits.Policies Limits.RedisBucket
open Limits.SlidingWindow (Call evictedAt)

/-- A call under one clock: its time, and what `math.random()` returns. -/
structure Visit where
  now : ℚ
  random : ℚ

/-- Redis drops the key as soon as its deadline has passed. -/
def Visit.call (visit : Visit) : Call := ⟨visit.now, visit.now, visit.random, true⟩

def Visit.member (visit : Visit) : String := slidingMember visit.now visit.random

def Visit.entry (visit : Visit) : String × ℚ := (visit.member, visit.now)

section Policy

variable (print : ℚ → ℚ) (policy : EffectivePolicy)

def visitKey (slot : Slot) (visit : Visit) : Except RedisError (Slot × RateLimitResult) :=
  checkSlidingWindowBy print (presentSlot slot visit.call) policy visit.now visit.now visit.random

/-! ## The log -/

/-- Logged admissions in `(now - window, now]`. -/
def recent (now : ℚ) (log : List ℚ) : Nat :=
  log.countP fun stamp => decide (now - policy.windowSeconds < stamp ∧ stamp ≤ now)

def decisions : List ℚ → List ℚ → List Bool
  | _, [] => []
  | log, now :: rest =>
    if (recent policy now log : Int) < policy.requestLimit then
      true :: decisions (now :: log) rest
    else false :: decisions log rest

/-- What is left of the admissions in the window that ends at `now`. -/
def inWindow (now : ℚ) (history : List (String × ℚ)) : List (String × ℚ) :=
  history.filter fun entry => decide (now - policy.windowSeconds < entry.2)

theorem inWindow_inWindow {now later : ℚ} (after : now ≤ later) (history : List (String × ℚ)) :
    inWindow policy later (inWindow policy now history) = inWindow policy later history := by
  rw [inWindow, inWindow, inWindow, filter_filter]
  apply filter_congr
  intro entry _
  simp only [decide_eq_true_eq, Bool.and_eq_left_iff_imp]
  intro inside
  linarith

theorem recent_eq {now : ℚ} {history : List (String × ℚ)}
    (past : ∀ entry ∈ history, entry.2 ≤ now) :
    recent policy now (history.map Prod.snd) = (inWindow policy now history).length := by
  rw [recent, countP_map, inWindow, ← countP_eq_length_filter]
  apply countP_congr
  intro entry mem
  simp [past entry mem]

/-- No window of the log holds more admissions than the limit. -/
def Sparse (log : List ℚ) : Prop := ∀ final, (recent policy final log : Int) ≤ policy.requestLimit

theorem recent_cons (final now : ℚ) (log : List ℚ) :
    recent policy final (now :: log) = recent policy final log +
      if final - policy.windowSeconds < now ∧ now ≤ final then 1 else 0 := by
  simp only [recent, countP_cons, decide_eq_true_eq]

variable {policy} in
theorem Sparse.cons {now : ℚ} {log : List ℚ} (sparse : Sparse policy log)
    (past : ∀ stamp ∈ log, stamp ≤ now)
    (room : (recent policy now log : Int) < policy.requestLimit) : Sparse policy (now :: log) := by
  intro final
  rw [recent_cons]
  by_cases inside : final - policy.windowSeconds < now ∧ now ≤ final
  · have fewer : recent policy final log ≤ recent policy now log := by
      apply countP_mono_left
      intro stamp mem within
      rw [decide_eq_true_eq] at within ⊢
      exact ⟨by linarith [within.1, inside.2], past stamp mem⟩
    rw [if_pos inside]
    omega
  · rw [if_neg inside]
    exact sparse final

/-! ## The key against the log -/

/-- After a call at `now` the key holds the admissions of its window, at most the limit, and
outlives all admissions. -/
structure Mirrors (now : ℚ) (history : List (String × ℚ)) (slot : Slot) : Prop where
  held : ∃ set, asZSet slot = .ok set ∧ set.members = inWindow policy now history
  past : ∀ entry ∈ history, entry.2 ≤ now
  outlives : ∀ deadline ∈ deadlineOf slot, ∀ entry ∈ history,
    entry.2 + policy.windowSeconds ≤ deadline
  within : ((inWindow policy now history).length : Int) ≤ policy.requestLimit

theorem mirrors_none (limitNonneg : 0 ≤ policy.requestLimit) (now : ℚ) :
    Mirrors policy now [] none where
  held := ⟨ZSet.empty, rfl, rfl⟩
  past _ member := absurd member not_mem_nil
  outlives _ absent := by cases absent
  within := limitNonneg

variable {policy} {now : ℚ} {history : List (String × ℚ)} {slot : Slot}

theorem Mirrors.evicted (mirrors : Mirrors policy now history slot) {visit : Visit}
    (later : now ≤ visit.now) :
    ∃ set, asZSet (presentSlot slot visit.call) = .ok set ∧
      (evictedAt policy visit.call set).members = inWindow policy visit.now history := by
  obtain ⟨set, held, members⟩ := mirrors.held
  rcases presentSlot_cases slot visit.call with kept | ⟨gone, deadline, due, passed⟩
  · refine ⟨set, by rw [kept, held], ?_⟩
    rw [← inWindow_inWindow policy later, ← members]
    rfl
  · refine ⟨ZSet.empty, by rw [gone]; rfl, ?_⟩
    symm
    apply filter_eq_nil_iff.mpr
    intro entry mem
    have outlived := mirrors.outlives deadline due entry mem
    rw [decide_eq_true_eq, not_lt]
    linarith [show deadline ≤ visit.now from passed]

section Calls

variable (windowPositive : 0 < policy.windowSeconds)

include windowPositive

theorem visitKey_allowed_iff (mirrors : Mirrors policy now history slot) (visit : Visit)
    (later : now ≤ visit.now) :
    ∃ after result, visitKey print policy slot visit = .ok (after, result) ∧
      (result.allowed = true ↔
        ((inWindow policy visit.now history).length : Int) < policy.requestLimit) := by
  obtain ⟨set, held, members⟩ := mirrors.evicted later
  rw [← members]
  by_cases room : ((evictedAt policy visit.call set).card : Int) < policy.requestLimit
  · obtain ⟨after, ran, -⟩ := window_admits print held windowPositive room
    exact ⟨after, _, ran, iff_of_true rfl room⟩
  · have ran := window_refuses print held (not_lt.mp room)
    exact ⟨_, _, ran, iff_of_false Bool.false_ne_true room⟩

theorem visitKey_admits (mirrors : Mirrors policy now history slot) {visit : Visit}
    (later : now ≤ visit.now)
    (room : ((inWindow policy visit.now history).length : Int) < policy.requestLimit)
    (fresh : visit.member ∉ history.map Prod.fst) :
    ∃ after result, visitKey print policy slot visit = .ok (after, result) ∧ result.allowed = true ∧
      Mirrors policy visit.now (visit.entry :: history) after := by
  obtain ⟨set, held, members⟩ := mirrors.evicted later
  obtain ⟨after, ran, entered, renewed⟩ :=
    window_admits print held windowPositive (by rwa [ZSet.card, members])
  have inside : inWindow policy visit.now (visit.entry :: history) =
      visit.entry :: inWindow policy visit.now history := by
    apply filter_cons_of_pos
    have pos : (0 : ℚ) < policy.windowSeconds := Int.cast_pos.mpr windowPositive
    rw [decide_eq_true_eq]
    show visit.now - policy.windowSeconds < visit.now
    linarith
  have past : ∀ entry ∈ visit.entry :: history, entry.2 ≤ visit.now := by
    intro entry mem
    rcases mem_cons.mp mem with rfl | earlier
    · exact le_refl _
    · exact le_trans (mirrors.past entry earlier) later
  refine ⟨after, _, ran, rfl, ⟨_, entered, ?_⟩, past, ?_, ?_⟩
  · rw [inside, ← members]
    apply ZSet.members_add_of_fresh
    rw [ZSet.contains, members, contains_eq_mem, decide_eq_false_iff_not]
    exact fun mem => fresh ((filter_sublist.map Prod.fst).subset mem)
  · intro deadline stored entry mem
    obtain rfl := Option.some.inj (renewed.symm.trans stored)
    show entry.2 + _ ≤ visit.now + _
    linarith [past entry mem]
  · rw [inside, length_cons]
    omega

omit windowPositive

theorem visitKey_refuses (limitPositive : 0 < policy.requestLimit)
    (mirrors : Mirrors policy now history slot) {visit : Visit} (later : now ≤ visit.now)
    (full : policy.requestLimit ≤ (inWindow policy visit.now history).length) :
    ∃ after result oldest, visitKey print policy slot visit = .ok (after, result) ∧
      result.allowed = false ∧ Mirrors policy visit.now history after ∧
      oldest ∈ inWindow policy visit.now history ∧
      (∀ entry ∈ inWindow policy visit.now history, oldest.2 ≤ entry.2) ∧
      result.retryAfterSeconds = print (oldest.2 + policy.windowSeconds - visit.now) := by
  obtain ⟨set, held, members⟩ := mirrors.evicted later
  have ran := window_refuses print held
    (show policy.requestLimit ≤ (evictedAt policy visit.call set).card by
      rwa [ZSet.card, members])
  have occupied : (evictedAt policy visit.call set).members ≠ [] := by
    rw [members]
    intro vacant
    rw [vacant, length_nil] at full
    omega
  obtain ⟨oldest, mem, found, least⟩ := ZSet.oldest_spec _ occupied
  rw [members] at mem least
  refine ⟨_, _, oldest, ran, rfl, ⟨⟨_, asZSet_storeZSet _ _, members⟩, ?_, ?_, ?_⟩, mem, least,
    ?_⟩
  · exact fun entry inside => le_trans (mirrors.past entry inside) later
  · intro deadline stored
    have kept := deadlineOf_storeZSet _ _ _ stored
    rcases presentSlot_cases slot visit.call with same | ⟨gone, -⟩
    · exact mirrors.outlives deadline (same ▸ kept)
    · rw [gone] at kept
      cases kept
  · refine le_trans ?_ mirrors.within
    rw [← inWindow_inWindow policy later]
    exact_mod_cast length_filter_le _ _
  · have inside := of_decide_eq_true (mem_filter.mp mem).2
    show print (resetAfter (evictedAt policy visit.call set).oldest policy.windowSeconds
      visit.now) = _
    rw [found, resetAfter, max_eq_right (by linarith)]

theorem room_later_iff {later : ℚ} {oldest : String × ℚ} (after : now ≤ later)
    (filled : ((inWindow policy now history).length : Int) = policy.requestLimit)
    (mem : oldest ∈ inWindow policy now history)
    (least : ∀ entry ∈ inWindow policy now history, oldest.2 ≤ entry.2) :
    ((inWindow policy later history).length : Int) < policy.requestLimit ↔
      oldest.2 + policy.windowSeconds ≤ later := by
  rw [← filled, ← inWindow_inWindow policy after, Nat.cast_lt, inWindow,
    length_filter_lt_length_iff_exists]
  simp only [decide_eq_true_eq]
  constructor
  · rintro ⟨entry, inside, left⟩
    linarith [least entry inside]
  · exact fun left => ⟨oldest, mem, by linarith⟩

end Calls

/-! ## Runs -/

/-- The retry time of a refusal is the least pause after which the call is admitted, if nothing
else calls. -/
def RetryExact (policy : EffectivePolicy) (after : Slot) (entry : Visit × RateLimitResult) :
    Prop :=
  entry.2.allowed = false → ∀ wait, 0 ≤ wait → ∀ random, ∃ slot repeated,
    visitKey id policy after ⟨entry.1.now + wait, random⟩ = .ok (slot, repeated) ∧
      (repeated.allowed = true ↔ entry.2.retryAfterSeconds ≤ wait)

section Runs

variable (limitPositive : 0 < policy.requestLimit) (windowPositive : 0 < policy.windowSeconds)

include limitPositive windowPositive

theorem visitKey_refusal (mirrors : Mirrors policy now history slot) {visit : Visit}
    (later : now ≤ visit.now)
    (full : policy.requestLimit ≤ (inWindow policy visit.now history).length) :
    ∃ after result, visitKey id policy slot visit = .ok (after, result) ∧ result.allowed = false ∧
      Mirrors policy visit.now history after ∧ RetryExact policy after (visit, result) := by
  obtain ⟨after, result, oldest, ran, denied, kept, mem, least, reported⟩ :=
    visitKey_refuses id limitPositive mirrors later full
  refine ⟨after, result, ran, denied, kept, ?_⟩
  intro _ wait nonneg random
  have waited : visit.now ≤ (⟨visit.now + wait, random⟩ : Visit).now :=
    le_add_of_nonneg_right nonneg
  obtain ⟨slot, repeated, ans, decided⟩ := visitKey_allowed_iff id windowPositive kept _ waited
  refine ⟨slot, repeated, ans, ?_⟩
  rw [decided, room_later_iff waited (le_antisymm kept.within full) mem least, reported, id_eq]
  exact ⟨fun left => by linarith [show _ ≤ visit.now + wait from left],
    fun enough => show _ ≤ visit.now + wait by linarith⟩

omit limitPositive in
theorem exists_trace_visitKey (visits : List Visit) :
    ∃ after entries, trace (visitKey id policy) none visits = .ok (after, entries) := by
  have answers : ∀ slot visit, (∃ set, asZSet slot = .ok set) → ∃ next result,
      visitKey id policy slot visit = .ok (next, result) ∧ ∃ set, asZSet next = .ok set := by
    rintro slot visit ⟨set, held⟩
    obtain ⟨present, found⟩ : ∃ set, asZSet (presentSlot slot visit.call) = .ok set := by
      rcases presentSlot_cases slot visit.call with kept | ⟨gone, -⟩
      · exact ⟨set, by rw [kept, held]⟩
      · exact ⟨ZSet.empty, by rw [gone]; rfl⟩
    by_cases room : ((evictedAt policy visit.call present).card : Int) < policy.requestLimit
    · obtain ⟨after, ran, entered, -⟩ := window_admits id found windowPositive room
      exact ⟨after, _, ran, _, entered⟩
    · have ran := window_refuses id found (not_lt.mp room)
      exact ⟨_, _, ran, _, asZSet_storeZSet _ _⟩
  obtain ⟨after, entries, ran, -⟩ := exists_trace (fun slot => ∃ set, asZSet slot = .ok set)
    answers visits (show ∃ set, asZSet none = .ok set from ⟨ZSet.empty, rfl⟩)
  exact ⟨after, entries, ran⟩

theorem decisions_of_trace {after : Slot} : ∀ (visits : List Visit) (slot : Slot) (now : ℚ)
    (history : List (String × ℚ)) (entries : List (Visit × RateLimitResult)),
    Mirrors policy now history slot → (∀ visit ∈ visits, now ≤ visit.now) →
      (visits.map Visit.now).Pairwise (· ≤ ·) →
        trace (visitKey id policy) slot visits = .ok (after, entries) →
          (admittedMembers Visit.member entries ++ history.map Prod.fst).Nodup →
            (entries.map fun entry => entry.2.allowed) =
                decisions policy (history.map Prod.snd) (visits.map Visit.now) ∧
              ∀ final ∈ entries.getLast?, RetryExact policy after final := by
  intro visits
  induction visits with
  | nil =>
    intro slot now history entries _ _ _ ran _
    cases ran
    exact ⟨rfl, fun final last => by cases last⟩
  | cons visit rest ih =>
    intro slot now history entries mirrors after ordered ran distinct
    obtain ⟨follows, restOrdered⟩ := pairwise_cons.mp ordered
    obtain ⟨next, result, others, stepped, onward, rfl⟩ := of_trace_cons ran
    have later := after visit mem_cons_self
    have restAfter : ∀ other ∈ rest, visit.now ≤ other.now :=
      fun other mem => follows _ (mem_map_of_mem mem)
    have past : ∀ entry ∈ history, entry.2 ≤ visit.now :=
      fun entry mem => le_trans (mirrors.past entry mem) later
    have counted := recent_eq policy past
    rw [map_cons, map_cons, decisions, counted]
    by_cases room : ((inWindow policy visit.now history).length : Int) < policy.requestLimit
    · obtain ⟨_, _, ans, decided⟩ :=
        visitKey_allowed_iff id windowPositive mirrors visit later
      cases stepped.symm.trans ans
      have allowed := decided.mpr room
      rw [admittedMembers_cons, if_pos allowed] at distinct
      have fresh : visit.member ∉ history.map Prod.fst := fun mem =>
        (nodup_cons.mp distinct).1 (mem_append_right _ mem)
      obtain ⟨_, _, ans, -, kept⟩ :=
        visitKey_admits id windowPositive mirrors later room fresh
      cases stepped.symm.trans ans
      obtain ⟨same, exactness⟩ := ih next visit.now (visit.entry :: history) others kept restAfter
        restOrdered onward (perm_middle.symm.nodup distinct)
      rw [if_pos room, same]
      refine ⟨congrArg (· :: _) allowed, last_of_trace (RetryExact policy) onward ?_ exactness⟩
      intro denied
      cases allowed.symm.trans denied
    · obtain ⟨_, _, ans, denied, kept, retry⟩ :=
        visitKey_refusal limitPositive windowPositive mirrors later (not_lt.mp room)
      cases stepped.symm.trans ans
      rw [admittedMembers_cons, if_neg (by simp [denied])] at distinct
      obtain ⟨same, exactness⟩ :=
        ih next visit.now history others kept restAfter restOrdered onward distinct
      rw [if_neg room, same]
      exact ⟨congrArg (· :: _) denied, last_of_trace (RetryExact policy) onward retry exactness⟩

end Runs

end Policy

/-! ## The refinement -/

/-- The script implements the log.  Every prefix of a sequence of calls is one too, so that the
last part says of every refused call that its retry time is exact. -/
theorem window_implements_log (policy : EffectivePolicy) (limitPositive : 1 ≤ policy.requestLimit)
    (windowPositive : 1 ≤ policy.windowSeconds) (visits : List Visit)
    (ordered : (visits.map Visit.now).Pairwise (· ≤ ·)) :
    ∃ after entries, trace (visitKey id policy) none visits = .ok (after, entries) ∧
      ((admittedMembers Visit.member entries).Nodup → (entries.map fun entry => entry.2.allowed) =
            decisions policy [] (visits.map Visit.now) ∧
          ∀ final ∈ entries.getLast?, RetryExact policy after final) := by
  obtain ⟨after, entries, ran⟩ := exists_trace_visitKey windowPositive visits
  refine ⟨after, entries, ran, fun distinct => ?_⟩
  have distinct' : (admittedMembers Visit.member entries ++
      ([] : List (String × ℚ)).map Prod.fst).Nodup := by
    rwa [map_nil, append_nil]
  cases visits with
  | nil =>
    cases ran
    exact ⟨rfl, fun final last => by cases last⟩
  | cons first rest =>
    refine decisions_of_trace limitPositive windowPositive (first :: rest) none first.now []
      entries (mirrors_none policy (by omega) first.now) ?_ ordered ran distinct'
    exact le_of_ordered_cons ordered

def twoPerMinute : EffectivePolicy where
  algorithm := .slidingWindow
  requestLimit := 2
  windowSeconds := 60
  burstCapacity := none
  scope := .tool

/-- Two calls fill the window; the third is refused, and told to wait for the first to leave. -/
theorem window_implements_log_third_call :
    ∃ after entries, trace (visitKey id twoPerMinute) none [⟨0, 1 / 2⟩, ⟨10, 1 / 4⟩, ⟨20, 1 / 8⟩] =
        .ok (after, entries) ∧
      (admittedMembers Visit.member entries).Nodup ∧
      (entries.map fun entry => entry.2.allowed) = [true, true, false] ∧
      ∀ final ∈ entries.getLast?, RetryExact twoPerMinute after final := by
  obtain ⟨after, entries, ran, spec⟩ := window_implements_log twoPerMinute (by decide) (by decide)
    [⟨0, 1 / 2⟩, ⟨10, 1 / 4⟩, ⟨20, 1 / 8⟩] (by decide +kernel)
  have distinct : (match trace (visitKey id twoPerMinute) none
      [⟨0, 1 / 2⟩, ⟨10, 1 / 4⟩, ⟨20, 1 / 8⟩] with
    | .ok answer => admittedMembers Visit.member answer.2
    | .error _ => []).Nodup := by decide +kernel
  rw [ran] at distinct
  obtain ⟨decided, exactness⟩ := spec distinct
  refine ⟨after, entries, ran, distinct, decided.trans ?_, exactness⟩
  decide +kernel

end Portcullis.Limits.WindowLog
