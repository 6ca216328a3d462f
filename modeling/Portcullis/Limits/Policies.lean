import Portcullis.Auth.Rbac
import Portcullis.Lib.PyStr

/-!
# Effective rate-limit policies

Policy resolution of `app/limits/policies.py`: the stored policies that apply to a
request are sorted by selector level, priority and specificity, and the first one
gives the limit and the scope of its Redis bucket.
-/

namespace Portcullis.Limits.Policies

open Auth.Rbac Lib.Glob Lib.PyStr Lib.Ranked Models

inductive Scope where
  | tool
  | server
  | subject
  | global
  deriving DecidableEq, Repr

structure EffectivePolicy where
  algorithm : RateLimitAlgorithm
  requestLimit : Int
  windowSeconds : Int
  burstCapacity : Option Int
  scope : Scope
  deriving DecidableEq, Repr

inductive DefaultError where
  | valueError
  | keyError
  deriving DecidableEq, Repr

def unitSeconds (unit : String) : Option Int :=
  if unit = "second" then some 1
  else if unit = "minute" then some 60
  else if unit = "hour" then some 3600
  else if unit = "day" then some 86400
  else none

/-- `parse_default`: split at the first slash, then the count and the unit. -/
def parseDefault (defaultStr : String) : Except DefaultError (Int × Int) :=
  match splitOnce '/' defaultStr.toList with
  | none => .error .valueError
  | some (count, unit) =>
    match parseInt count with
    | none => .error .valueError
    | some requests =>
      match unitSeconds (String.ofList unit) with
      | none => .error .keyError
      | some seconds => .ok (requests, seconds)

def selectorLevel (policy : RateLimitPolicy) : Int :=
  let hasSubject := policy.subjectId.isSome
  let hasServer := policy.serverPattern.isSome
  let hasTool := policy.toolPattern.isSome
  if hasSubject && hasServer && hasTool then 0
  else if hasSubject && hasServer && !hasTool then 1
  else if hasSubject && !hasServer && !hasTool then 2
  else 3

/-- A pattern that must match a name: an absent pattern always does, an absent
name never does. -/
def patternApplies (pattern name : Option String) : Bool :=
  match pattern, name with
  | none, _ => true
  | some _, none => false
  | some glob, some text => fnmatchcase text glob

/-- The subject part of `_policy_matches`. -/
def subjectApplies (policy : RateLimitPolicy) (subjectId : Option String)
    (subjectType : Option SubjectType) : Bool :=
  match policy.subjectId with
  | none => true
  | some wanted =>
    if subjectId ≠ some wanted then false
    else match policy.subjectType, subjectType with
      | some wantedType, some actual => decide (wantedType = actual)
      | _, _ => true

def policyMatches (policy : RateLimitPolicy) (subjectId : Option String)
    (subjectType : Option SubjectType) (serverSlug toolName : Option String) : Bool :=
  subjectApplies policy subjectId subjectType && patternApplies policy.serverPattern serverSlug &&
    patternApplies policy.toolPattern toolName

/-- `_rank_key` of `resolve_policy`, compared as a Python tuple. -/
def policyRankKey (policy : RateLimitPolicy) : Lex (Int × Lex (Int × Int)) :=
  let specificity := patternSpecificity (policy.serverPattern.getD "") +
    patternSpecificity (policy.toolPattern.getD "")
  toLex (selectorLevel policy, toLex (-policy.priority, -(specificity : Int)))

def scopeForLevel (level : Int) : Scope :=
  if level = 0 then .tool
  else if level = 1 then .server
  else if level = 2 then .subject
  else .global

def resolvePolicy (subjectId : Option String) (subjectType : Option SubjectType)
    (serverSlug toolName : Option String) (policies : List RateLimitPolicy)
    (defaultStr : String) : Except DefaultError EffectivePolicy :=
  let candidates := policies.filter fun policy =>
    policyMatches policy subjectId subjectType serverSlug toolName
  match sortOn policyRankKey candidates with
  | [] =>
    match parseDefault defaultStr with
    | .error failure => .error failure
    | .ok (requestLimit, windowSeconds) =>
      .ok { algorithm := .tokenBucket
            requestLimit := requestLimit
            windowSeconds := windowSeconds
            burstCapacity := some requestLimit
            scope := .tool }
  | best :: _ =>
    .ok { algorithm := best.algorithm
          requestLimit := best.requestLimit
          windowSeconds := best.windowSeconds
          burstCapacity := best.burstCapacity
          scope := scopeForLevel (selectorLevel best) }

example : parseDefault "100/minute" = .ok (100, 60) := by decide

/-! ## The chosen policy -/

def effectiveOf (policy : RateLimitPolicy) : EffectivePolicy where
  algorithm := policy.algorithm
  requestLimit := policy.requestLimit
  windowSeconds := policy.windowSeconds
  burstCapacity := policy.burstCapacity
  scope := scopeForLevel (selectorLevel policy)

section Chosen

variable (subjectId : Option String) (subjectType : Option SubjectType)
  (serverSlug toolName : Option String) (policies : List RateLimitPolicy)

/-- The stored policy whose fields `resolve_policy` returns. -/
def chosenPolicy : Option RateLimitPolicy :=
  (sortOn policyRankKey (policies.filter fun policy =>
    policyMatches policy subjectId subjectType serverSlug toolName)).head?

theorem resolvePolicy_of_chosen (defaultStr : String) (best : RateLimitPolicy)
    (chosen : chosenPolicy subjectId subjectType serverSlug toolName policies = some best) :
    resolvePolicy subjectId subjectType serverSlug toolName policies defaultStr =
      .ok (effectiveOf best) := by
  obtain ⟨rest, sorted⟩ := List.head?_eq_some_iff.mp chosen
  unfold resolvePolicy
  simp only [sorted]
  rfl

theorem exists_chosen (policy : RateLimitPolicy) (mem : policy ∈ policies)
    (matched : policyMatches policy subjectId subjectType serverSlug toolName = true) :
    ∃ best, chosenPolicy subjectId subjectType serverSlug toolName policies = some best := by
  cases chosen : chosenPolicy subjectId subjectType serverSlug toolName policies with
  | none =>
    have nothing := (sortOn_eq_nil_iff _ _).mp (List.head?_eq_none_iff.mp chosen)
    exact absurd matched (List.filter_eq_nil_iff.mp nothing policy mem)
  | some best => exact ⟨best, rfl⟩

theorem chosenPolicy_spec (best : RateLimitPolicy)
    (chosen : chosenPolicy subjectId subjectType serverSlug toolName policies = some best) :
    best ∈ policies ∧ policyMatches best subjectId subjectType serverSlug toolName = true ∧
      ∀ other ∈ policies, policyMatches other subjectId subjectType serverSlug toolName = true →
          policyRankKey best ≤ policyRankKey other := by
  obtain ⟨rest, sorted⟩ := List.head?_eq_some_iff.mp chosen
  obtain ⟨mem, least⟩ := sortOn_head_least _ _ _ _ sorted
  obtain ⟨stored, matched⟩ := List.mem_filter.mp mem
  refine ⟨stored, matched, ?_⟩
  intro other otherStored otherMatched
  exact least other (List.mem_filter.mpr ⟨otherStored, otherMatched⟩)

end Chosen

theorem selectorLevel_le_of_rank (left right : RateLimitPolicy)
    (ranked : policyRankKey left ≤ policyRankKey right) :
    selectorLevel left ≤ selectorLevel right := by
  rcases Prod.Lex.toLex_le_toLex.mp ranked with less | ⟨same, _⟩
  · exact le_of_lt less
  · exact le_of_eq same

end Portcullis.Limits.Policies
