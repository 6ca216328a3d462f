import Portcullis.Limits.RedisBucket

/-!
# Precedence and privacy of subject policies

A policy that names a subject and a tool but no server falls through to the level of
the global policies: it competes with them and its bucket is shared by all subjects of
the tenant.  Every other policy that names the subject goes before the global ones and
counts in a bucket of that subject.
-/

namespace Portcullis.Limits.Precedence

open Lib Lib.PyStr Limits.Policies Limits.RedisBucket Models List

/-! ## Segments of a key -/

/-- Letters, digits and hyphens, at most two hundred of them, and not the segment of the
tenant-wide keys. -/
def isSubjectWord (subjectId : String) : Bool :=
  subjectId.toList.all (fun char => char.isAlphanum || char == '-') &&
    decide (subjectId.toList.length ≤ 200) && decide (subjectId ≠ "global")

theorem replaceChar_of_not_mem (old new : Char) (chars : List Char) (absent : old ∉ chars) :
    replaceChar old new chars = chars := by
  have unchanged : chars.map (fun char => if char = old then new else char) =
      chars.map id := by
    apply map_congr_left
    intro char mem
    rw [if_neg, id]
    rintro rfl
    exact absent mem
  rw [replaceChar, unchanged, map_id]

theorem sanitizeSegment_word (subjectId : String) (word : isSubjectWord subjectId = true) :
    sanitizeSegment subjectId 200 = if subjectId = "" then "unknown" else subjectId := by
  simp only [isSubjectWord, Bool.and_eq_true, all_eq_true, decide_eq_true_eq] at word
  obtain ⟨⟨plain, short⟩, _⟩ := word
  have absent : ∀ char, (char.isAlphanum || char == '-') = false →
      char ∉ subjectId.toList := by
    intro char special mem
    rw [plain char mem] at special
    cases special
  unfold sanitizeSegment
  dsimp only
  rw [replaceChar_of_not_mem ':' '_' _ (absent ':' (by decide)),
    replaceChar_of_not_mem '\n' '_' _ (absent '\n' (by decide)),
    replaceChar_of_not_mem '\r' '_' _ (absent '\r' (by decide)),
    take_of_length_le short]
  by_cases empty : subjectId = ""
  · subst empty
    rfl
  cases chars : subjectId.toList with
  | nil => exact absurd (String.toList_eq_nil_iff.mp chars) empty
  | cons first rest =>
    rw [if_neg empty]
    simp only
    rw [← chars, String.ofList_toList]

/-- The empty id is written as `unknown`. -/
def SameSegment (left right : String) : Prop :=
  left = "" ∧ right = "unknown" ∨ left = "unknown" ∧ right = ""

theorem sanitizeSegment_eq_iff (left right : String) (leftWord : isSubjectWord left = true)
    (rightWord : isSubjectWord right = true) (ne : left ≠ right) :
    sanitizeSegment left 200 = sanitizeSegment right 200 ↔ SameSegment left right := by
  rw [sanitizeSegment_word left leftWord, sanitizeSegment_word right rightWord]
  by_cases leftEmpty : left = ""
  · have rightFull : right ≠ "" := fun empty => ne (leftEmpty.trans empty.symm)
    subst leftEmpty
    rw [if_pos rfl, if_neg rightFull]
    constructor
    · intro same
      exact .inl ⟨rfl, same.symm⟩
    · rintro (⟨_, same⟩ | ⟨absurdity, _⟩)
      · exact same.symm
      · exact absurd absurdity (by decide)
  · by_cases rightEmpty : right = ""
    · simp [SameSegment, leftEmpty, rightEmpty]
    · simp [SameSegment, leftEmpty, rightEmpty, ne]

theorem checkKey_eq_iff (tenantId : Uuid) (left right slug tool : String) (scope : Scope)
    (own : scope ≠ .global) :
    checkKey tenantId left slug tool scope = checkKey tenantId right slug tool scope ↔
      sanitizeSegment left 200 = sanitizeSegment right 200 := by
  constructor
  · intro sameKey
    have sameChars := congrArg String.toList sameKey
    cases scope with
    | global => exact absurd rfl own
    | subject =>
      simp only [checkKey, String.toList_append, append_cancel_left_eq] at sameChars
      exact String.toList_injective sameChars
    | server =>
      simp only [checkKey, String.toList_append, append_assoc,
        append_cancel_left_eq] at sameChars
      exact String.toList_injective (append_cancel_right sameChars)
    | tool =>
      simp only [checkKey, buildKey, String.toList_append, append_assoc,
        append_cancel_left_eq] at sameChars
      exact String.toList_injective (append_cancel_right sameChars)
  · intro sameSegment
    cases scope with
    | global => exact absurd rfl own
    | subject => rw [checkKey, checkKey, sameSegment]
    | server => rw [checkKey, checkKey, sameSegment]
    | tool => rw [checkKey, checkKey, buildKey, buildKey, sameSegment]

/-! ## Levels -/

/-- The policy names a subject at a level of its own: with a server, or without a
tool. -/
def OwnLevel (policy : RateLimitPolicy) : Prop :=
  policy.subjectId.isSome = true ∧ (policy.serverPattern.isSome = true ∨ policy.toolPattern = none)

theorem ownLevel_iff (policy : RateLimitPolicy) : OwnLevel policy ↔ selectorLevel policy < 3 := by
  unfold OwnLevel selectorLevel
  cases policy.subjectId <;> cases policy.serverPattern <;> cases policy.toolPattern <;> simp

theorem scopeForLevel_global_iff (policy : RateLimitPolicy) :
    scopeForLevel (selectorLevel policy) = .global ↔ ¬ OwnLevel policy := by
  rw [ownLevel_iff]
  unfold scopeForLevel selectorLevel
  cases policy.subjectId <;> cases policy.serverPattern <;> cases policy.toolPattern <;> simp

/-! ## The returned policy -/

section Returned

variable (policies : List RateLimitPolicy) (subjectId : Option String)
  (subjectType : Option SubjectType) (serverSlug toolName : Option String)
  (defaultStr : String)

/-- `resolve_policy` returns the fields of a matching policy that names the subject, and
the key of a check in the returned scope tells the two subjects apart. -/
def ServedPrivately (tenantId : Uuid) (left right slug tool : String) : Prop :=
  ∃ effective, resolvePolicy subjectId subjectType serverSlug toolName policies defaultStr =
        .ok effective ∧
      (∃ policy ∈ policies, policyMatches policy subjectId subjectType serverSlug toolName = true ∧
          policy.subjectId.isSome = true ∧ effective = effectiveOf policy) ∧
      checkKey tenantId left slug tool effective.scope ≠
        checkKey tenantId right slug tool effective.scope

theorem chosen_ownLevel (best : RateLimitPolicy)
    (chosen : chosenPolicy subjectId subjectType serverSlug toolName policies = some best)
    (policy : RateLimitPolicy) (mem : policy ∈ policies)
    (matched : policyMatches policy subjectId subjectType serverSlug toolName = true)
    (own : OwnLevel policy) : OwnLevel best := by
  obtain ⟨_, _, first⟩ :=
    chosenPolicy_spec subjectId subjectType serverSlug toolName policies best chosen
  have level := selectorLevel_le_of_rank best policy (first policy mem matched)
  rw [ownLevel_iff] at own ⊢
  omega

/-- When some matching policy names the subject: one of them is returned, with a bucket
of its own for each subject, exactly if one of them names a server or no tool. -/
theorem subject_policy_served_iff (tenantId : Uuid) (left right slug tool : String)
    (leftWord : isSubjectWord left = true) (rightWord : isSubjectWord right = true)
    (different : left ≠ right)
    (named : ∃ policy ∈ policies,
      policyMatches policy subjectId subjectType serverSlug toolName = true ∧
        policy.subjectId.isSome = true) :
    ServedPrivately policies subjectId subjectType serverSlug toolName defaultStr tenantId
        left right slug tool ↔
      (∃ policy ∈ policies, policyMatches policy subjectId subjectType serverSlug toolName = true ∧
          OwnLevel policy) ∧
        ¬ SameSegment left right := by
  obtain ⟨namedPolicy, namedMember, namedMatched, _⟩ := named
  obtain ⟨best, chosen⟩ := exists_chosen subjectId subjectType serverSlug toolName policies
    namedPolicy namedMember namedMatched
  have resolved := resolvePolicy_of_chosen subjectId subjectType serverSlug toolName policies
    defaultStr best chosen
  obtain ⟨bestMember, bestMatched, _⟩ :=
    chosenPolicy_spec subjectId subjectType serverSlug toolName policies best chosen
  have sameSegments := sanitizeSegment_eq_iff left right leftWord rightWord different
  constructor
  · rintro ⟨effective, ret, _, apart⟩
    obtain rfl := Except.ok.inj (resolved.symm.trans ret)
    have own : OwnLevel best := by
      by_contra notOwn
      have shared := (scopeForLevel_global_iff best).mpr notOwn
      rw [effectiveOf, shared] at apart
      exact apart rfl
    refine ⟨⟨best, bestMember, bestMatched, own⟩, ?_⟩
    intro sameSegment
    have ownScope : scopeForLevel (selectorLevel best) ≠ .global :=
      fun shared => (scopeForLevel_global_iff best).mp shared own
    exact apart ((checkKey_eq_iff tenantId left right slug tool _ ownScope).mpr
      (sameSegments.mpr sameSegment))
  · rintro ⟨⟨policy, mem, matched, own⟩, segments⟩
    have bestOwn := chosen_ownLevel policies subjectId subjectType serverSlug toolName best
      chosen policy mem matched own
    have ownScope : scopeForLevel (selectorLevel best) ≠ .global :=
      fun shared => (scopeForLevel_global_iff best).mp shared bestOwn
    refine ⟨effectiveOf best, resolved, ⟨best, bestMember, bestMatched, bestOwn.1, rfl⟩, ?_⟩
    intro sameKey
    exact segments (sameSegments.mp
      ((checkKey_eq_iff tenantId left right slug tool _ ownScope).mp sameKey))

end Returned

def subjectPolicy (server tool : Option String) : RateLimitPolicy where
  id := ⟨1#128⟩
  tenantId := ⟨2#128⟩
  subjectId := some "agent-1"
  subjectType := none
  serverPattern := server
  toolPattern := tool
  algorithm := .slidingWindow
  requestLimit := 10
  windowSeconds := 60
  burstCapacity := none
  priority := 0

def globalPolicy : RateLimitPolicy :=
  { subjectPolicy none none with
    id := ⟨3#128⟩, subjectId := none, requestLimit := 5, priority := 1 }

theorem subject_policy_served_iff_sample :
    ServedPrivately [subjectPolicy none none] (some "agent-1") none (some "github-mcp")
        (some "delete_repo") "100/minute" ⟨2#128⟩ "agent-1" "agent-2" "github-mcp"
        "delete_repo" ↔
      (∃ policy ∈ [subjectPolicy none none],
        policyMatches policy (some "agent-1") none (some "github-mcp")
            (some "delete_repo") = true ∧ OwnLevel policy) ∧
        ¬ SameSegment "agent-1" "agent-2" :=
  subject_policy_served_iff [subjectPolicy none none] (some "agent-1") none
    (some "github-mcp") (some "delete_repo") "100/minute" ⟨2#128⟩ "agent-1" "agent-2"
    "github-mcp" "delete_repo" (by decide) (by decide) (by decide)
    ⟨subjectPolicy none none, mem_singleton.mpr rfl, by decide, rfl⟩

/-- The subject's policy for one tool loses to a global policy of higher priority, and
both subjects count under one key. -/
theorem tool_policy_of_subject_loses :
    policyMatches (subjectPolicy none (some "delete_*")) (some "agent-1") none
        (some "github-mcp") (some "delete_repo") = true ∧
      resolvePolicy (some "agent-1") none (some "github-mcp") (some "delete_repo")
          [subjectPolicy none (some "delete_*"), globalPolicy] "100/minute" =
        .ok (effectiveOf globalPolicy) ∧
      ¬ ServedPrivately [subjectPolicy none (some "delete_*"), globalPolicy]
        (some "agent-1") none (some "github-mcp") (some "delete_repo") "100/minute"
        ⟨2#128⟩ "agent-1" "agent-2" "github-mcp" "delete_repo" := by
  have resolved : resolvePolicy (some "agent-1") none (some "github-mcp") (some "delete_repo")
      [subjectPolicy none (some "delete_*"), globalPolicy] "100/minute" =
        .ok (effectiveOf globalPolicy) := by
    decide
  refine ⟨by decide, resolved, ?_⟩
  rintro ⟨effective, ret, _, apart⟩
  obtain rfl := Except.ok.inj (resolved.symm.trans ret)
  exact apart rfl

end Portcullis.Limits.Precedence
