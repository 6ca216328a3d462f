import Portcullis.Gateway.Effects

/-!
# Monthly usage cap

`monthly_cap` and `check_usage_cap` of `app/usage.py`.  The license lookup may raise;
a failing read of the month's total counts as no usage.
-/

namespace Portcullis.Metering.Usage

open Gateway

inductive LicensePlan where
  | community
  | pro
  | enterprise
  deriving DecidableEq, Repr

structure UsageSettings where
  enforcementEnabled : Bool
  monthlyCapCommunity : Int
  monthlyCapPro : Int
  monthlyCapEnterprise : Int

/-- The plan's monthly tool-call cap, 0 for none. -/
def monthlyCap (plan : Option LicensePlan) (settings : UsageSettings) : Int :=
  match plan with
  | none => 0
  | some .pro => settings.monthlyCapPro
  | some .enterprise => settings.monthlyCapEnterprise
  | some .community => settings.monthlyCapCommunity

/-- `monthly_tool_calls`, best effort. -/
def monthlyToolCalls (total : Except Exn Int) : Int :=
  match total with
  | .ok calls => calls
  | .error _ => 0

variable (settings : UsageSettings) (license : Except Exn (Option LicensePlan))

def checkUsageCap (total : Except Exn Int) : Except Exn Bool :=
  if !settings.enforcementEnabled then .ok true
  else do
    let plan ← license
    let cap := monthlyCap plan settings
    if cap ≤ 0 then .ok true else .ok (decide (monthlyToolCalls total < cap))

/-- Nothing is enforced, the plan has no cap, or the total is below it. -/
def UnderCap (total : Except Exn Int) : Prop :=
  settings.enforcementEnabled = true → ∃ plan, license = .ok plan ∧
      (0 < monthlyCap plan settings → monthlyToolCalls total < monthlyCap plan settings)

theorem checkUsageCap_eq_true_iff (total : Except Exn Int) :
    checkUsageCap settings license total = .ok true ↔ UnderCap settings license total := by
  unfold checkUsageCap UnderCap
  cases settings.enforcementEnabled with
  | false => simp
  | true =>
    cases license with
    | error exn => simp [bind, Except.bind]
    | ok plan =>
      by_cases capped : monthlyCap plan settings ≤ 0
      · have uncapped : ¬ 0 < monthlyCap plan settings := not_lt.mpr capped
        simp [bind, Except.bind, capped, uncapped]
      · have pos : 0 < monthlyCap plan settings := not_le.mp capped
        simp [bind, Except.bind, capped, pos]

end Portcullis.Metering.Usage
