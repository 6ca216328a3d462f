import Portcullis.Limits.Precedence

/-!
# Which policy applies

`resolve_policy` sorts the matching policies by selector level, priority and specificity and
takes the first.  Policies that do not match, or that rank behind another one, never matter.
Among policies of one rank the order of the rows decides, and `RateLimitRepository.list` asks
the database for no order.
-/

namespace Portcullis.Limits.Resolution

open Lib.Ranked Limits.Policies List
open Limits.Precedence (globalPolicy)
open Models

section Context

variable (subjectId : Option String) (subjectType : Option SubjectType)
  (serverSlug toolName : Option String)

def Applies (policy : RateLimitPolicy) : Prop :=
  policyMatches policy subjectId subjectType serverSlug toolName = true

/-- The policy is stored and applies, and no policy that applies ranks before it. -/
def Foremost (policies : List RateLimitPolicy) (policy : RateLimitPolicy) : Prop :=
  policy ∈ policies ∧ Applies subjectId subjectType serverSlug toolName policy ∧
    ∀ other ∈ policies, Applies subjectId subjectType serverSlug toolName other →
      policyRankKey policy ≤ policyRankKey other

/-- The policy does not apply, or one that applies ranks before it. -/
def Outranked (policies : List RateLimitPolicy) (policy : RateLimitPolicy) : Prop :=
  ¬ Applies subjectId subjectType serverSlug toolName policy ∨
    ∃ better ∈ policies, Applies subjectId subjectType serverSlug toolName better ∧
      policyRankKey better < policyRankKey policy

def defaultPolicy (defaultStr : String) : Except DefaultError EffectivePolicy :=
  (parseDefault defaultStr).map fun rate =>
    { algorithm := .tokenBucket
      requestLimit := rate.1
      windowSeconds := rate.2
      burstCapacity := some rate.1
      scope := .tool }

variable {subjectId subjectType serverSlug toolName} {policies : List RateLimitPolicy}

theorem foremost_iff_least (policy : RateLimitPolicy) :
    Foremost subjectId subjectType serverSlug toolName policies policy ↔
      Least policyRankKey (policies.filter fun policy =>
        policyMatches policy subjectId subjectType serverSlug toolName) policy := by
  simp only [Foremost, Least, Applies, mem_filter, and_imp, and_assoc]

theorem resolvePolicy_eq (defaultStr : String) :
    resolvePolicy subjectId subjectType serverSlug toolName policies defaultStr =
      match chosenPolicy subjectId subjectType serverSlug toolName policies with
      | none => defaultPolicy defaultStr
      | some best => .ok (effectiveOf best) := by
  cases chosen : chosenPolicy subjectId subjectType serverSlug toolName policies with
  | some best => exact resolvePolicy_of_chosen _ _ _ _ _ defaultStr best chosen
  | none =>
    have sorted := List.head?_eq_none_iff.mp chosen
    simp only [resolvePolicy, sorted, defaultPolicy]
    cases parseDefault defaultStr with
    | error failure => rfl
    | ok rate => rfl

theorem chosen_eq_none_iff :
    chosenPolicy subjectId subjectType serverSlug toolName policies = none ↔
      ∀ policy ∈ policies, ¬ Applies subjectId subjectType serverSlug toolName policy := by
  rw [chosenPolicy, List.head?_eq_none_iff, sortOn_eq_nil_iff, filter_eq_nil_iff]
  rfl

theorem foremost_of_chosen {best : RateLimitPolicy}
    (chosen : chosenPolicy subjectId subjectType serverSlug toolName policies = some best) :
    Foremost subjectId subjectType serverSlug toolName policies best :=
  chosenPolicy_spec subjectId subjectType serverSlug toolName policies best chosen

/-! ## Policies that do not matter -/

/-- Policies put in behind the foremost ones, or that do not apply, leave the choice as it is. -/
theorem chosen_of_inserted {short long : List RateLimitPolicy}
    (ins : Inserted (Outranked subjectId subjectType serverSlug toolName long) short long) :
    chosenPolicy subjectId subjectType serverSlug toolName short =
      chosenPolicy subjectId subjectType serverSlug toolName long := by
  cases chosen : chosenPolicy subjectId subjectType serverSlug toolName long with
  | none =>
    rw [chosen_eq_none_iff] at chosen ⊢
    exact fun policy mem => chosen policy (ins.subset mem)
  | some best =>
    have foremost := foremost_of_chosen chosen
    -- nothing that applies ranks before `best`, so the policies of its rank were not put in
    have kept : (short.filter fun policy => policyMatches policy subjectId subjectType serverSlug
          toolName).filter (fun policy => decide (policyRankKey policy = policyRankKey best)) =
        (long.filter fun policy => policyMatches policy subjectId subjectType serverSlug
          toolName).filter (fun policy => decide (policyRankKey policy = policyRankKey best)) := by
      rw [filter_filter, filter_filter]
      apply ins.filter_eq
      rintro policy (foreign | ⟨better, mem, applies, before⟩)
      · rw [Bool.eq_false_of_not_eq_true foreign, Bool.and_false]
      · have behind : policyRankKey policy ≠ policyRankKey best :=
          ne_of_gt (lt_of_le_of_lt (foremost.2.2 better mem applies) before)
        rw [decide_eq_false behind, Bool.false_and]
    have leastLong := (foremost_iff_least best).mp foremost
    have stillThere : best ∈ (short.filter fun policy => policyMatches policy subjectId
        subjectType serverSlug toolName).filter fun policy =>
          decide (policyRankKey policy = policyRankKey best) := by
      rw [kept]
      exact mem_filter.mpr ⟨leastLong.1, decide_eq_true rfl⟩
    have leastShort : Least policyRankKey (short.filter fun policy => policyMatches policy
        subjectId subjectType serverSlug toolName) best := by
      refine ⟨(mem_filter.mp stillThere).1, fun other mem => ?_⟩
      obtain ⟨stored, applies⟩ := mem_filter.mp mem
      exact foremost.2.2 other (ins.subset stored) applies
    rw [chosenPolicy, ← head?_sortOn_filter policyRankKey _ best leastShort, kept,
      head?_sortOn_filter policyRankKey _ best leastLong]
    exact chosen

theorem Outranked.mono {short long : List RateLimitPolicy} (subset : short ⊆ long)
    {policy : RateLimitPolicy}
    (outranked : Outranked subjectId subjectType serverSlug toolName short policy) :
    Outranked subjectId subjectType serverSlug toolName long policy :=
  outranked.imp_right fun ⟨better, mem, before⟩ => ⟨better, subset mem, before⟩

end Context

/-- `resolve_policy` returns the parsed default if no policy applies, and otherwise the fields of
a policy that applies and that none ranks before, in the scope of its level.  Putting in or taking
out policies that do not apply or rank behind changes nothing. -/
theorem resolvePolicy_spec (subjectId : Option String) (subjectType : Option SubjectType)
    (serverSlug toolName : Option String) (policies : List RateLimitPolicy)
    (defaultStr : String) :
    ((∀ policy ∈ policies, ¬ Applies subjectId subjectType serverSlug toolName policy) →
      resolvePolicy subjectId subjectType serverSlug toolName policies defaultStr =
        defaultPolicy defaultStr) ∧
    ((∃ policy ∈ policies, Applies subjectId subjectType serverSlug toolName policy) →
      ∃ best, Foremost subjectId subjectType serverSlug toolName policies best ∧
        resolvePolicy subjectId subjectType serverSlug toolName policies defaultStr =
          .ok (effectiveOf best)) ∧
    (∀ more, Inserted (Outranked subjectId subjectType serverSlug toolName policies) policies more →
      resolvePolicy subjectId subjectType serverSlug toolName more defaultStr =
        resolvePolicy subjectId subjectType serverSlug toolName policies defaultStr) ∧
    (∀ fewer, Inserted (Outranked subjectId subjectType serverSlug toolName policies) fewer
        policies →
      resolvePolicy subjectId subjectType serverSlug toolName fewer defaultStr =
        resolvePolicy subjectId subjectType serverSlug toolName policies defaultStr) := by
  refine ⟨fun nothing => ?_, fun ⟨policy, mem, applies⟩ => ?_, fun more ins => ?_,
    fun fewer ins => ?_⟩
  · rw [resolvePolicy_eq, chosen_eq_none_iff.mpr nothing]
  · obtain ⟨best, chosen⟩ :=
      exists_chosen subjectId subjectType serverSlug toolName policies policy mem applies
    refine ⟨best, foremost_of_chosen chosen, ?_⟩
    rw [resolvePolicy_eq, chosen]
  · have wider : Inserted (Outranked subjectId subjectType serverSlug toolName more) policies
        more := ins.mono fun _ outranked => outranked.mono ins.subset
    rw [resolvePolicy_eq, resolvePolicy_eq, chosen_of_inserted wider]
  · rw [resolvePolicy_eq, resolvePolicy_eq, chosen_of_inserted ins]

/-! ## Rows in another order -/

section Order

variable {subjectId : Option String} {subjectType : Option SubjectType}
  {serverSlug toolName : Option String} {policies permuted : List RateLimitPolicy}

theorem Foremost.of_perm {policy : RateLimitPolicy}
    (foremost : Foremost subjectId subjectType serverSlug toolName permuted policy)
    (same : permuted.Perm policies) :
    Foremost subjectId subjectType serverSlug toolName policies policy :=
  ⟨same.mem_iff.mp foremost.1, foremost.2.1,
    fun other mem => foremost.2.2 other (same.mem_iff.mpr mem)⟩

theorem Foremost.exists_order {policy : RateLimitPolicy}
    (foremost : Foremost subjectId subjectType serverSlug toolName policies policy) :
    ∃ permuted : List RateLimitPolicy, permuted.Perm policies ∧
      chosenPolicy subjectId subjectType serverSlug toolName permuted = some policy := by
  obtain ⟨front, back, rfl⟩ := append_of_mem foremost.1
  refine ⟨policy :: (front ++ back), perm_middle.symm, ?_⟩
  have applies : policyMatches policy subjectId subjectType serverSlug toolName = true :=
    foremost.2.1
  rw [chosenPolicy, filter_cons, if_pos applies]
  apply head?_sortOn_cons
  intro other mem
  obtain ⟨stored, otherApplies⟩ := mem_filter.mp mem
  exact foremost.2.2 other (perm_middle.symm.subset (mem_cons_of_mem _ stored))
    otherApplies

end Order

/-- The order of the rows never matters just if, for every request, the foremost policies have
the same algorithm, limit, window and burst capacity. -/
theorem order_irrelevant_iff (policies : List RateLimitPolicy) (defaultStr : String) :
    (∀ permuted : List RateLimitPolicy, permuted.Perm policies →
      ∀ subjectId subjectType serverSlug toolName,
        resolvePolicy subjectId subjectType serverSlug toolName permuted defaultStr =
          resolvePolicy subjectId subjectType serverSlug toolName policies defaultStr) ↔
      ∀ subjectId subjectType serverSlug toolName left right,
        Foremost subjectId subjectType serverSlug toolName policies left →
        Foremost subjectId subjectType serverSlug toolName policies right →
          left.algorithm = right.algorithm ∧ left.requestLimit = right.requestLimit ∧
          left.windowSeconds = right.windowSeconds ∧
          left.burstCapacity = right.burstCapacity := by
  constructor
  · intro stable subjectId subjectType serverSlug toolName left right leftFirst rightFirst
    obtain ⟨leftOrder, leftPerm, leftChosen⟩ := leftFirst.exists_order
    obtain ⟨rightOrder, rightPerm, rightChosen⟩ := rightFirst.exists_order
    have same := (stable leftOrder leftPerm subjectId subjectType serverSlug toolName).trans
      (stable rightOrder rightPerm subjectId subjectType serverSlug toolName).symm
    rw [resolvePolicy_eq, resolvePolicy_eq, leftChosen, rightChosen] at same
    have fields := EffectivePolicy.mk.inj (Except.ok.inj same)
    exact ⟨fields.1, fields.2.1, fields.2.2.1, fields.2.2.2.1⟩
  · intro tied permuted rearranged subjectId subjectType serverSlug toolName
    rw [resolvePolicy_eq, resolvePolicy_eq]
    cases chosen : chosenPolicy subjectId subjectType serverSlug toolName policies with
    | none =>
      have nothing := chosen_eq_none_iff.mp chosen
      rw [chosen_eq_none_iff.mpr fun policy mem => nothing policy (rearranged.subset mem)]
    | some best =>
      have foremost := foremost_of_chosen chosen
      obtain ⟨other, otherChosen⟩ := exists_chosen subjectId subjectType serverSlug toolName
        permuted best (rearranged.symm.subset foremost.1) foremost.2.1
      have otherForemost := (foremost_of_chosen otherChosen).of_perm rearranged
      rw [otherChosen]
      obtain ⟨algorithm, limit, window, burst⟩ := tied subjectId subjectType serverSlug toolName
        other best otherForemost foremost
      have level : selectorLevel other = selectorLevel best :=
        le_antisymm (selectorLevel_le_of_rank _ _ (otherForemost.2.2 best foremost.1 foremost.2.1))
          (selectorLevel_le_of_rank _ _ (foremost.2.2 other otherForemost.1 otherForemost.2.1))
      simp only [effectiveOf, algorithm, limit, window, burst, level]

def loosePolicy : RateLimitPolicy := { globalPolicy with id := ⟨4#128⟩, requestLimit := 50 }

/-- Two tenant-wide policies of one priority: the first row decides between five calls a minute
and fifty. -/
theorem first_row_decides : [loosePolicy, globalPolicy].Perm [globalPolicy, loosePolicy] ∧
      resolvePolicy (some "agent-1") none (some "github-mcp") (some "delete_repo")
          [globalPolicy, loosePolicy] "100/minute" = .ok (effectiveOf globalPolicy) ∧
      resolvePolicy (some "agent-1") none (some "github-mcp") (some "delete_repo")
          [loosePolicy, globalPolicy] "100/minute" = .ok (effectiveOf loosePolicy) ∧
      effectiveOf globalPolicy ≠ effectiveOf loosePolicy :=
  ⟨List.Perm.swap _ _ _, by decide, by decide, by decide⟩

end Portcullis.Limits.Resolution
