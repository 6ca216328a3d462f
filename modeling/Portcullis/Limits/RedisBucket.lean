import Portcullis.Lib.Redis
import Portcullis.Limits.Policies

/-!
# Rate-limit keys and the limiter scripts

`app/limits/redis_bucket.py`: the Redis key of a check depends on the scope of the
effective policy.  The sliding-window script admits a call by adding a member to the
sorted set under that key, the token-bucket script by taking a token from a hash.
-/

namespace Portcullis.Limits.RedisBucket

open Lib Lib.PyStr Lib.Redis Limits.Policies List

/-! ## Keys -/

def sanitizeSegment (value : String) (maxLen : Nat) : String :=
  let cleaned := replaceChar '\r' '_' (replaceChar '\n' '_'
    (replaceChar ':' '_' value.toList))
  match cleaned.take maxLen with
  | [] => "unknown"
  | first :: rest => String.ofList (first :: rest)

def buildKey (tenantId : Uuid) (subjectId serverSlug toolOrMethod : String) : String :=
  "rl:" ++ tenantId.str ++ (":" ++ sanitizeSegment subjectId 200 ++ ":" ++
    sanitizeSegment serverSlug 100 ++ ":" ++ sanitizeSegment toolOrMethod 200)

/-- The key `RateLimiter.check` computes before it dispatches on the algorithm. -/
def checkKey (tenantId : Uuid) (subjectId serverSlug toolOrMethod : String)
    (scope : Scope) : String :=
  match scope with
  | .global =>
    if serverSlug ≠ "management_api" then
      "rl:" ++ tenantId.str ++ (":global:" ++ sanitizeSegment serverSlug 100)
    else "rl:" ++ tenantId.str ++ ":global"
  | .subject => "rl:" ++ tenantId.str ++ (":" ++ sanitizeSegment subjectId 200)
  | .server =>
    "rl:" ++ tenantId.str ++ (":" ++ sanitizeSegment subjectId 200 ++ ":" ++
      sanitizeSegment serverSlug 100)
  | .tool => buildKey tenantId subjectId serverSlug toolOrMethod

/-- The parts of the key after the tenant. -/
def segments (subjectId serverSlug toolOrMethod : String) : Scope → List (List Char)
  | .global =>
    if serverSlug ≠ "management_api" then
      ["global".toList, (sanitizeSegment serverSlug 100).toList]
    else ["global".toList]
  | .subject => [(sanitizeSegment subjectId 200).toList]
  | .server => [(sanitizeSegment subjectId 200).toList, (sanitizeSegment serverSlug 100).toList]
  | .tool =>
    [(sanitizeSegment subjectId 200).toList, (sanitizeSegment serverSlug 100).toList,
      (sanitizeSegment toolOrMethod 200).toList]

theorem toList_checkKey (tenantId : Uuid) (subjectId serverSlug toolOrMethod : String)
    (scope : Scope) :
    (checkKey tenantId subjectId serverSlug toolOrMethod scope).toList =
      "rl:".toList ++ (tenantId.str.toList ++
        ':' :: [':'].intercalate (segments subjectId serverSlug toolOrMethod scope)) := by
  cases scope with
  | global =>
    unfold checkKey segments
    dsimp only
    split <;> simp
  | subject => simp [checkKey, segments]
  | server => simp [checkKey, segments]
  | tool => simp [checkKey, buildKey, segments]

theorem colon_not_mem_sanitizeSegment (value : String) (maxLen : Nat) :
    ':' ∉ (sanitizeSegment value maxLen).toList := by
  have cleaned : ':' ∉ replaceChar '\r' '_' (replaceChar '\n' '_'
      (replaceChar ':' '_' value.toList)) := by
    intro mem
    rcases mem_replaceChar mem with mem | underscore
    · rcases mem_replaceChar mem with mem | underscore
      · exact not_mem_replaceChar (by decide) _ mem
      · cases underscore
    · cases underscore
  unfold sanitizeSegment
  dsimp only
  split
  · decide
  · rename_i first rest taken
    rw [String.toList_ofList, ← taken]
    exact fun mem => cleaned (mem_of_mem_take mem)

theorem forall_mem_segments {property : List Char → Prop} (fixed : property "global".toList)
    (clean : ∀ value maxLen, maxLen ≤ 200 → property (sanitizeSegment value maxLen).toList)
    (subjectId serverSlug toolOrMethod : String) (scope : Scope) :
    ∀ segment ∈ segments subjectId serverSlug toolOrMethod scope, property segment := by
  have long := fun value => clean value 200 le_rfl
  have short := fun value => clean value 100 (by decide)
  intro segment mem
  cases scope with
  | global =>
    dsimp only [segments] at mem
    split at mem <;> simp only [mem_cons, not_mem_nil, or_false] at mem
    · rcases mem with rfl | rfl
      · exact fixed
      · exact short _
    · exact mem ▸ fixed
  | subject => exact mem_singleton.mp mem ▸ long _
  | server =>
    simp only [segments, mem_cons, not_mem_nil, or_false] at mem
    rcases mem with rfl | rfl
    · exact long _
    · exact short _
  | tool =>
    simp only [segments, mem_cons, not_mem_nil, or_false] at mem
    rcases mem with rfl | rfl | rfl
    · exact long _
    · exact short _
    · exact long _

theorem colon_not_mem_segments (subjectId serverSlug toolOrMethod : String) (scope : Scope) :
    ∀ segment ∈ segments subjectId serverSlug toolOrMethod scope, ':' ∉ segment :=
  forall_mem_segments (by decide) (fun value _ _ => colon_not_mem_sanitizeSegment value _) _ _ _ _

theorem segments_ne_nil (subjectId serverSlug toolOrMethod : String) (scope : Scope) :
    segments subjectId serverSlug toolOrMethod scope ≠ [] := by
  cases scope with
  | global =>
    dsimp only [segments]
    split <;> simp
  | _ => simp [segments]

/-- Keys agree just if the tenants and the segments do: the printed tenant has a fixed width,
and no segment has a colon. -/
theorem checkKey_eq_iff (left right : Uuid)
    (leftSubject leftSlug leftTool rightSubject rightSlug rightTool : String)
    (leftScope rightScope : Scope) :
    checkKey left leftSubject leftSlug leftTool leftScope =
        checkKey right rightSubject rightSlug rightTool rightScope ↔
      left = right ∧ segments leftSubject leftSlug leftTool leftScope =
        segments rightSubject rightSlug rightTool rightScope := by
  rw [← String.toList_inj, toList_checkKey, toList_checkKey, append_cancel_left_eq]
  constructor
  · intro same
    have sameLength : left.str.toList.length = right.str.toList.length := by
      rw [Uuid.length_str, Uuid.length_str]
    obtain ⟨sameStr, sameRest⟩ := append_inj same sameLength
    have sameSegments := congrArg (List.splitOn ':') (List.cons.inj sameRest).2
    rw [splitOn_intercalate _ (colon_not_mem_segments _ _ _ _) (segments_ne_nil _ _ _ _),
      splitOn_intercalate _ (colon_not_mem_segments _ _ _ _) (segments_ne_nil _ _ _ _)]
      at sameSegments
    exact ⟨Uuid.str_injective left right (String.toList_injective sameStr), sameSegments⟩
  · rintro ⟨rfl, same⟩
    rw [same]

/-! ## Sliding window -/

structure RateLimitResult where
  allowed : Bool
  limit : Int
  remaining : Int
  resetAfterSeconds : ℚ
  retryAfterSeconds : ℚ
  deriving DecidableEq, Repr

structure SlidingReply where
  allowed : Bool
  remaining : Int
  resetAfter : ℚ

def resetAfter (oldest : Option (String × ℚ)) (window : Int) (now : ℚ) : ℚ :=
  match oldest with
  | none => 0
  | some (_, score) => max 0 (score + window - now)

/-- `_SLIDING_WINDOW_LUA` on the slot of its key.  `member` is the text the script
adds to the sorted set and `clock` the server's own time, from which `EXPIRE`
counts.  Doubles are rationals: `now - window` is exact for the integral windows
and the Unix timestamps the limiter passes. -/
def slidingWindowScript (slot : Slot) (limit window : Int) (now clock : ℚ)
    (member : String) : Except RedisError (Slot × SlidingReply) := do
  let windowStart := now - window
  let slot ← zremrangebyscore slot windowStart
  let count ← zcard slot
  let remaining := max 0 (limit - count - 1)
  let slot ←
    if (count : Int) < limit then do
      let slot ← zadd slot now member
      pure (expire slot clock window)
    else pure slot
  let oldest ← zrangeFirst slot
  return (slot, ⟨decide ((count : Int) < limit), remaining,
    luaRounded (resetAfter oldest window now)⟩)

/-- The member: both numbers printed with fourteen significant digits. -/
def slidingMember (now random : ℚ) : String := luaTostring now ++ luaTostring random

def checkSlidingWindow (slot : Slot) (policy : EffectivePolicy) (now clock random : ℚ) :
    Except RedisError (Slot × RateLimitResult) := do
  let (slot, reply) ← slidingWindowScript slot policy.requestLimit policy.windowSeconds
    now clock (slidingMember now random)
  return (slot,
    { allowed := reply.allowed
      limit := policy.requestLimit
      remaining := reply.remaining
      resetAfterSeconds := reply.resetAfter
      retryAfterSeconds := if reply.allowed then 0 else reply.resetAfter })

/-! ## Token bucket -/

structure TokenReply where
  allowed : Bool
  remaining : Int
  resetAfter : ℚ

/-- `_TOKEN_BUCKET_LUA` on the slot of its key, for a positive rate.  Doubles are
rationals. -/
def tokenBucketScript (slot : Slot) (capacity rate now cost clock : ℚ) :
    Except RedisError (Slot × TokenReply) := do
  let (storedTokens, storedRefill) ← hmget slot "tokens" "last_refill"
  let elapsed := now - storedRefill.getD now
  let tokens := min capacity (storedTokens.getD capacity + elapsed * rate)
  let remaining := max 0 (tokens - cost)
  let left := if cost ≤ tokens then tokens - cost else tokens
  let slot ← hset slot "tokens" left "last_refill" now
  let ttl := ⌈capacity / rate⌉ + 1
  return (expire slot clock ttl, ⟨decide (cost ≤ tokens), ⌊remaining⌋,
    luaRounded ((capacity - left) / rate)⟩)

def bucketCapacity (policy : EffectivePolicy) : Int :=
  policy.burstCapacity.getD policy.requestLimit

def refillRate (policy : EffectivePolicy) : ℚ := policy.requestLimit / policy.windowSeconds

def checkTokenBucket (slot : Slot) (policy : EffectivePolicy) (now clock : ℚ) :
    Except RedisError (Slot × RateLimitResult) := do
  let (slot, reply) ← tokenBucketScript slot (bucketCapacity policy) (refillRate policy)
    now 1 clock
  return (slot,
    { allowed := reply.allowed
      limit := bucketCapacity policy
      remaining := reply.remaining
      resetAfterSeconds := reply.resetAfter
      retryAfterSeconds := if reply.allowed then 0 else reply.resetAfter })

end Portcullis.Limits.RedisBucket
