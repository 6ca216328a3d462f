import Portcullis.Gateway.DryRun
import Portcullis.Metering.UsageQueue

/-!
# The monthly cap over a sequence of calls

`mcp_proxy` records a call before it checks the cap.  A delta that goes through the queue is
committed after the check, one that is written directly before it, and the check then counts
the call that it is made for.  This module follows a sequence of calls whose metering takes
either path.
-/

namespace Portcullis.Gateway.MonthlyCap

open Auth.Rbac Gateway.DryRun Gateway.JsonRpc Gateway.Mediation Gateway.Router Gateway.Stages Lib
  Lib.Ledger Metering.Usage List
open Metering.UsageQueue (Bucket Day Key UsageDaily)
open Models

/-! ## A request that comes to the cap -/

/-- What is asked before a call is counted. -/
def earlier : List Kind :=
  [.hook, .preAuth, .identity, .audit, .registry, .limits, .permissions, .sessionRead]

/-- What is asked once the cap has been checked. -/
def onward : List Kind :=
  [.environ, .upstream, .sessionRead, .sessionWrite, .permissions, .audit]

/-- The call is counted, the cap is checked, and the upstream is called if the answer is true. -/
def Counted (tenantId : Uuid) (answer : Except Exn Bool) (run : History) : Prop :=
  ∃ before after, run = before ++ ⟨.recordUsageQueued ⟨tenantId, 1, 1, 0, 0⟩, ()⟩ ::
      ⟨.checkUsageCap tenantId, answer⟩ :: after ∧
    Of earlier before ∧ Of onward after ∧
    ((∃ event ∈ after, isForward event.op = true) ↔ answer = .ok true)

section Runs

variable {ctx : Context} {subject : Subject} {server : McpServer} {rpc : JsonRpcRequest}
  {run front : History} {tenantId : Uuid} {answer : Except Exn Bool}

theorem Counted.after (counted : Counted tenantId answer run) (quiet : Of earlier front) :
    Counted tenantId answer (front ++ run) := by
  obtain ⟨before, after, rfl, first, rest, forwards⟩ := counted
  exact ⟨front ++ before, after, by rw [append_assoc], of_append quiet first, rest, forwards⟩

theorem not_saw_cap {kinds : List Kind} (within : Of kinds run)
    (other : Kind.cap ∉ kinds := by decide) : ¬ Saw run (.checkUsageCap tenantId) answer :=
  within.absent (show kind (.checkUsageCap tenantId) ∉ kinds from other) answer

theorem saw_rest {kinds : List Kind} (checked : Saw (front ++ run) (.checkUsageCap tenantId) answer)
    (within : Of kinds front) (other : Kind.cap ∉ kinds := by decide) :
    Saw run (.checkUsageCap tenantId) answer := by
  rcases mem_append.mp checked with first | second
  · exact absurd first (not_saw_cap within other)
  · exact second

theorem checkCap_saw {outcome : Except Exit Unit}
    (runs : Prog.Runs (checkCap ctx subject rpc) run outcome)
    (checked : Saw run (.checkUsageCap tenantId) answer) :
    rpc.method = .toolsCall ∧ tenantId = subject.tenantId ∧
      run = [⟨.checkUsageCap tenantId, answer⟩] ∧ (outcome = .ok () ↔ answer = .ok true) := by
  have passes := (checkCap_run runs).2
  unfold checkCap at runs
  split at runs
  · rename_i isCall
    obtain ⟨found, rest, rfl, decided⟩ := request_bind_run runs
    have alone : rest = [] := by
      rcases orRaise_bind_run decided with ⟨exn, _, rfl, _⟩ | ⟨underCap, _, ending⟩
      · rfl
      · split at ending
        · exact (pure_run ending).1
        · exact (respond_run ending).1
    subst alone
    cases mem_singleton.mp checked
    refine ⟨isCall, rfl, rfl, passes.trans ⟨fun under => under _ _ checked, ?_⟩⟩
    intro granted tenantId other saw
    cases mem_singleton.mp saw
    exact granted
  · obtain ⟨rfl, -⟩ := pure_run runs
    cases checked

variable {outcome : Except Exit Response}

theorem afterCap_run {rlHeaders : Headers}
    (runs : Prog.Runs (do
      let headers ← buildUpstreamHeaders ctx server
      let upstream ← forward ctx
        (forwardCall server ctx.request.method headers ctx.request.body (wantsStream ctx)) rpc.id
        rlHeaders
      respondTo ctx subject rpc rlHeaders (wantsStream ctx) upstream) run outcome) :
    Of onward run ∧ ∃ event ∈ run, isForward event.op = true := by
  obtain ⟨building, headers, buildUses, sent⟩ := send_run runs
  rcases sent with ⟨exn, exit, rfl, rfl⟩ | ⟨upstream, rest, rfl, answering⟩
  · exact ⟨of_append buildUses.mono (by simp [Of, kind, onward]),
      _, mem_append_right _ mem_cons_self, rfl⟩
  · exact ⟨of_append buildUses.mono (of_cons
      (respondTo_run answering).uses.mono (by simp [kind, onward])),
      _, mem_append_right _ mem_cons_self, rfl⟩

theorem proxyRequest_counted (runs : Prog.Runs (proxyRequest ctx subject server rpc) run outcome)
    (checked : Saw run (.checkUsageCap tenantId) answer) : Counted tenantId answer run := by
  rcases runs.bind_cases with ⟨exit, failed, rfl⟩ | ⟨limiting, rlHeaders, rest, rfl, passed, later⟩
  · have uses := (checkRateLimit_ensures ctx [] subject _ rpc.id).of failed
    exact absurd checked (not_saw_cap uses)
  have limits := (checkRateLimit_passed passed).uses
  replace checked := saw_rest checked limits
  refine Counted.after ?_ limits.mono
  split at later
  · obtain ⟨_, rest, rfl, ended⟩ := request_bind_run later
    obtain ⟨rfl, -⟩ := pure_run ended
    cases mem_singleton.mp checked
  obtain ⟨metered, rest, rfl, counted⟩ := request_bind_run later
  replace checked : Saw rest (.checkUsageCap tenantId) answer := by
    rcases mem_cons.mp checked with same | inside
    · cases same
    · exact inside
  rcases counted.bind_cases with ⟨exit, failed, rfl⟩ | ⟨capping, _, rest, rfl, capped, onward⟩
  · obtain ⟨isCall, rfl, rfl, passes⟩ := checkCap_saw failed checked
    rw [if_pos isCall]
    refine ⟨[], [], rfl, of_nil _, of_nil _, iff_of_false (by simp) fun granted => ?_⟩
    cases passes.mpr granted
  · obtain ⟨uses, calls⟩ := afterCap_run onward
    replace checked : Saw capping (.checkUsageCap tenantId) answer := by
      rcases mem_append.mp checked with first | second
      · exact first
      · exact absurd second (not_saw_cap uses)
    obtain ⟨isCall, rfl, rfl, passes⟩ := checkCap_saw capped checked
    rw [if_pos isCall]
    exact ⟨[], rest, rfl, of_nil _, uses, iff_of_true calls (passes.mp rfl)⟩

theorem handlePost_counted (runs : Prog.Runs (handlePost ctx rpc) run outcome)
    (checked : Saw run (.checkUsageCap tenantId) answer) : Counted tenantId answer run := by
  rcases enter_run runs with ⟨exit, failed, rfl⟩ |
    ⟨caller, resolving, subject, exit, rfl, identified, uses, rfl⟩ |
    ⟨checks, rest, subject, server, rfl, cleared, silent, ahead⟩
  · have uses := (runPreAuthChecks_ensures ctx [] rpc.id).of failed
    exact absurd checked (not_saw_cap uses)
  · exact absurd (saw_rest checked identified.uses) (not_saw_cap uses)
  refine Counted.after ?_ silent.mono
  replace checked := saw_rest checked silent
  rcases ahead.bind_cases with ⟨exit, failed, rfl⟩ | ⟨deciding, _, rest, rfl, granted, ending⟩
  · have uses := (checkPermission_ensures ctx [] subject rpc).of failed
    exact absurd checked (not_saw_cap uses)
  have grantUses := (checkPermission_passed granted).1
  refine Counted.after ?_ grantUses.mono
  replace checked := saw_rest checked grantUses
  split at ending
  · exact absurd checked (not_saw_cap (terminateSession_run ending).uses)
  · exact proxyRequest_counted ending checked

theorem mcpProxy_counted (runs : Prog.Runs (mcpProxy ctx) run outcome)
    (checked : Saw run (.checkUsageCap tenantId) answer) : Counted tenantId answer run := by
  obtain ⟨inner, asked, rfl⟩ := settled_run runs
  obtain ⟨plugin, rest, rfl, later⟩ := request_bind_run asked
  replace checked : Saw rest (.checkUsageCap tenantId) answer := by
    rcases mem_cons.mp checked with same | inside
    · cases same
    · exact inside
  have hooked : Of earlier [(⟨.pluginPreAuth, plugin⟩ : Event Op Ans)] := by
    simp [Of, kind, earlier]
  suffices ans : Counted tenantId answer rest from ans.after hooked
  cases plugin with
  | some response =>
    obtain ⟨rfl, -⟩ := respond_run later
    cases checked
  | none =>
    rcases later.bind_cases with ⟨exit, failed, rfl⟩ | ⟨first, rpc, rest, rfl, read, handled⟩
    · rw [(readRequest_run failed).1] at checked
      cases checked
    · obtain ⟨rfl, -⟩ := readRequest_run read
      obtain ⟨inner, handling, -⟩ := caught_run handled
      exact handlePost_counted handling checked

end Runs

/-! ## The counters -/

/-- The way a delta takes.  A queued one may be flushed before the cap is checked. -/
inductive Path where
  | direct
  | queued (early : Bool)
  deriving DecidableEq, Repr

def Path.visible : Path → Bool
  | .direct => true
  | .queued early => early

/-- The committed rows, and what the queue has accepted since its last flush. -/
structure Meter where
  rows : UsageDaily
  queue : List (Key × Bucket)

def Meter.flush (meter : Meter) : Meter where
  rows := (aggregate meter.queue).foldl (fun rows entry => credit rows entry.1 entry.2) meter.rows
  queue := []

def posting (day : Day) (delta : UsageDelta) : Key × Bucket :=
  ((delta.tenantId, day),
    ⟨delta.requests, delta.toolCalls, delta.rbacDenials, delta.rateLimitRejections⟩)

/-- `record_usage_queued`. -/
def recordUsageQueued (path : Path) (day : Day) (delta : UsageDelta) (meter : Meter) : Meter :=
  let entry := posting day delta
  match path with
  | .direct => { meter with rows := credit meter.rows entry.1 entry.2 }
  | .queued early =>
    let queued : Meter := { meter with queue := meter.queue ++ [entry] }
    if early then queued.flush else queued

/-- The `tool_calls` of `UsageRepository.totals`, both days included. -/
def totalToolCalls (rows : UsageDaily) (tenantId : Uuid) (first last : Day) : Int :=
  ((List.range (last - first + 1).toNat).map fun offset : Nat =>
    (total rows (tenantId, first + offset)).toolCalls).sum

/-- A request, what answers it apart from the metering, and how it is metered. -/
structure Visit where
  ctx : Context
  env : (op : Op) → Ans op
  path : Path
  day : Day

/-- The settings, the licenses and the first day of the month. -/
structure Month where
  usage : UsageSettings
  license : Uuid → Except Exn (Option LicensePlan)
  first : Day

section Calls

variable (month : Month)

def serve (visit : Visit) (meter : Meter) : (op : Op) → Ans op × Meter
  | .recordUsageQueued delta => ((), recordUsageQueued visit.path visit.day delta meter)
  | .checkUsageCap tenantId =>
    (checkUsageCap month.usage (month.license tenantId)
      (.ok (totalToolCalls meter.rows tenantId month.first visit.day)), meter)
  | op => (visit.env op, meter)

def handle (meter : Meter) (visit : Visit) : Handled Meter :=
  Prog.drive (serve month visit) meter (mcpProxy visit.ctx)

/-- One request after the other, with the queue flushed in between. -/
def handleAll : Meter → List Visit → List (Handled Meter)
  | _, [] => []
  | meter, visit :: rest =>
    handle month meter visit :: handleAll (handle month meter visit).final.flush rest

end Calls

def ReachesCap (tenantId : Uuid) (handled : Handled Meter) : Prop :=
  ∃ entry ∈ handled.log, ∃ answer, entry.2 = ⟨.checkUsageCap tenantId, answer⟩

section Visits

variable {month : Month} {visit : Visit} {meter : Meter} {tenantId : Uuid}

theorem serve_other {op : Op} (other : kind op ≠ .metering) :
    (serve month visit meter op).2 = meter := by
  cases op with
  | recordUsageQueued delta => exact absurd rfl other
  | _ => rfl

theorem foldl_serve_other {kinds : List Kind} (entries : List (Meter × Event Op Ans))
    (within : Of kinds (entries.map Prod.snd)) (other : Kind.metering ∉ kinds) :
    entries.foldl (fun state entry => (serve month visit state entry.2.op).2) meter = meter := by
  induction entries with
  | nil => rfl
  | cons entry rest ih =>
    have here : kind entry.2.op ∈ kinds := within _ mem_cons_self
    rw [foldl_cons, serve_other fun same => other (same ▸ here)]
    exact ih fun event mem => within event (mem_cons_of_mem _ mem)

/-- A call that comes to the cap is counted once, and it is forwarded just if the count it
finds is below the cap. -/
theorem handle_spec (reaches : ReachesCap tenantId (handle month meter visit)) :
    (handle month meter visit).final =
        recordUsageQueued visit.path visit.day ⟨tenantId, 1, 1, 0, 0⟩ meter ∧
      (Forwarded (handle month meter visit) ↔ checkUsageCap month.usage (month.license tenantId)
          (.ok (totalToolCalls
            (recordUsageQueued visit.path visit.day ⟨tenantId, 1, 1, 0, 0⟩ meter).rows tenantId
            month.first visit.day)) = .ok true) := by
  obtain ⟨entry, mem, answer, isCheck⟩ := reaches
  have checked : Saw ((handle month meter visit).log.map Prod.snd) (.checkUsageCap tenantId)
      answer := mem_map.mpr ⟨entry, mem, isCheck⟩
  obtain ⟨before, after, split, first, rest, forwards⟩ :=
    mcpProxy_counted (Prog.runs_drive (serve month visit) meter (mcpProxy visit.ctx)) checked
  obtain ⟨front, tail, logged, rfl, behind⟩ := map_eq_append_iff.mp split
  obtain ⟨counting, tail, rfl, isCount, behind⟩ := map_eq_cons_iff.mp behind
  obtain ⟨checking, back, rfl, isCap, rfl⟩ := map_eq_cons_iff.mp behind
  obtain ⟨metCount, _⟩ := counting
  obtain ⟨metCap, _⟩ := checking
  cases isCount
  cases isCap
  have counted : (front ++ [(metCount, (⟨.recordUsageQueued ⟨tenantId, 1, 1, 0, 0⟩, ()⟩ :
      Event Op Ans))]).foldl (fun state entry => (serve month visit state entry.2.op).2) meter =
        recordUsageQueued visit.path visit.day ⟨tenantId, 1, 1, 0, 0⟩ meter := by
    rw [foldl_append, foldl_serve_other front first (by decide)]
    rfl
  have met := Prog.drive_met (serve month visit) meter (mcpProxy visit.ctx)
    (logged.trans (append_cons front _ _))
  rw [counted] at met
  constructor
  · have final := Prog.drive_final (serve month visit) meter (mcpProxy visit.ctx)
    rw [logged, append_cons, foldl_append, counted, foldl_cons] at final
    exact final.trans (foldl_serve_other back rest (by decide))
  · have computed := Prog.answer_of_mem_log (serve month visit) meter (mcpProxy visit.ctx) metCap
      ⟨.checkUsageCap tenantId, answer⟩ (logged ▸ by simp)
    rw [met] at computed
    have ans : answer = checkUsageCap month.usage (month.license tenantId) (.ok (totalToolCalls
          (recordUsageQueued visit.path visit.day ⟨tenantId, 1, 1, 0, 0⟩ meter).rows tenantId
          month.first visit.day)) := computed
    rw [← ans, ← forwards, Forwarded, handle, logged]
    have quiet := first.no_forward (by decide)
    constructor
    · rintro ⟨entry, among, calls⟩
      rcases mem_append.mp among with inFront | later
      · have none := quiet entry.2 (mem_map_of_mem inFront)
        rw [none] at calls
        cases calls
      · rcases mem_cons.mp later with rfl | later
        · cases calls
        rcases mem_cons.mp later with rfl | later
        · cases calls
        exact ⟨entry.2, mem_map_of_mem later, calls⟩
    · rintro ⟨event, among, calls⟩
      obtain ⟨entry, inBack, rfl⟩ := mem_map.mp among
      exact ⟨entry, by simp [inBack], calls⟩

end Visits

/-! ## Sums over the month -/

section Sums

variable {rows : UsageDaily} {tenantId : Uuid} {first last day : Int} {bucket : Bucket}

theorem totalToolCalls_credit (within : first ≤ day) (reached : day ≤ last) :
    totalToolCalls (credit rows (tenantId, day) bucket) tenantId first last =
      totalToolCalls rows tenantId first last + bucket.toolCalls := by
  have summed : ∀ days : Nat,
      ((List.range days).map fun offset : Nat =>
          (total (credit rows (tenantId, day) bucket) (tenantId, first + offset)).toolCalls).sum =
        ((List.range days).map fun offset : Nat =>
          (total rows (tenantId, first + offset)).toolCalls).sum +
            if day < first + days then bucket.toolCalls else 0 := by
    intro days
    induction days with
    | zero => simp [within]
    | succ days ih =>
      rw [range_succ, map_append, map_append, sum_append, sum_append,
        ih, map_singleton, map_singleton, sum_singleton, sum_singleton,
        total_credit]
      have added : ∀ more : Bucket, (total rows (tenantId, first + days) + more).toolCalls =
          (total rows (tenantId, first + days)).toolCalls + more.toolCalls := fun _ => rfl
      rw [added]
      by_cases here : day = first + days
      · have before : ¬ day < first + days := by omega
        have now : day < first + (days + 1 : Nat) := by omega
        rw [if_neg before, if_pos now, if_pos (by rw [here])]
        omega
      · have elsewhere : ¬ (tenantId, day) = (tenantId, first + (days : Int)) :=
          fun same => here (Prod.mk.inj same).2
        have same : day < first + (days + 1 : Nat) ↔ day < first + days := by omega
        rw [if_neg elsewhere, if_congr same rfl rfl]
        show _ + (_ + (0 : Int)) = _
        omega
  rw [totalToolCalls, totalToolCalls, summed, if_pos (by omega)]

/-- All calls of the tenant are committed, and from a day on there are so many in the month. -/
structure Used (tenantId : Uuid) (first since : Int) (calls : Nat) (meter : Meter) : Prop where
  flushed : meter.queue = []
  total : ∀ today, since ≤ today → totalToolCalls meter.rows tenantId first today = calls

theorem flush_queued (meter : Meter) (entry : Key × Bucket) (flushed : meter.queue = []) :
    ({ meter with queue := meter.queue ++ [entry] } : Meter).flush =
      ⟨credit meter.rows entry.1 entry.2, []⟩ := by
  rw [flushed]
  simp [Meter.flush, aggregate, post]

theorem Used.record {meter : Meter} {since : Int} {calls : Nat} (path : Path)
    (used : Used tenantId first since calls meter) (within : first ≤ day) (later : since ≤ day) :
    totalToolCalls (recordUsageQueued path day ⟨tenantId, 1, 1, 0, 0⟩ meter).rows tenantId first
        day = ((calls + path.visible.toNat : Nat) : Int) ∧
      Used tenantId first day (calls + 1)
        (recordUsageQueued path day ⟨tenantId, 1, 1, 0, 0⟩ meter).flush := by
  have credited : ∀ today, day ≤ today →
      totalToolCalls (credit meter.rows (tenantId, day) ⟨1, 1, 0, 0⟩) tenantId first today =
        ((calls + 1 : Nat) : Int) := by
    intro today reached
    rw [totalToolCalls_credit within reached, used.total today (le_trans later reached)]
    rfl
  have after : Used tenantId first day (calls + 1)
      ⟨credit meter.rows (tenantId, day) ⟨1, 1, 0, 0⟩, []⟩ := ⟨rfl, credited⟩
  have queued := flush_queued meter (posting day ⟨tenantId, 1, 1, 0, 0⟩) used.flushed
  cases path with
  | direct =>
    refine ⟨credited day le_rfl, ?_⟩
    rw [show (recordUsageQueued .direct day ⟨tenantId, 1, 1, 0, 0⟩ meter).flush =
      ⟨credit meter.rows (tenantId, day) ⟨1, 1, 0, 0⟩, []⟩ by
        simp [recordUsageQueued, Meter.flush, used.flushed, aggregate, posting]]
    exact after
  | queued early =>
    cases early with
    | false =>
      refine ⟨used.total day later, ?_⟩
      rw [show recordUsageQueued (.queued false) day ⟨tenantId, 1, 1, 0, 0⟩ meter =
        { meter with queue := meter.queue ++ [posting day ⟨tenantId, 1, 1, 0, 0⟩] } from rfl,
        queued]
      exact after
    | true =>
      rw [show recordUsageQueued (.queued true) day ⟨tenantId, 1, 1, 0, 0⟩ meter =
        ({ meter with queue := meter.queue ++
          [posting day ⟨tenantId, 1, 1, 0, 0⟩] } : Meter).flush from rfl, queued]
      exact ⟨credited day le_rfl, after⟩

end Sums

/-! ## The sequence -/

/-- How many of the calls find a count below the cap. -/
def underCap (cap : Nat) : Nat → List Visit → Nat
  | _, [] => 0
  | calls, visit :: rest =>
    (if calls + visit.path.visible.toNat < cap then 1 else 0) + underCap cap (calls + 1) rest

theorem underCap_reached {cap : Nat} (visits : List Visit) (calls : Nat) (reached : cap ≤ calls) :
    underCap cap calls visits = 0 := by
  induction visits generalizing calls with
  | nil => rfl
  | cons visit rest ih =>
    have beyond : ¬ calls + visit.path.visible.toNat < cap := by omega
    rw [underCap, if_neg beyond, ih (calls + 1) (by omega)]

theorem underCap_add {cap : Nat} (visits : List Visit) (calls : Nat) (below : calls < cap) :
    underCap cap calls visits +
        (if visits[cap - 1 - calls]?.any (fun visit => visit.path.visible) then 1 else 0) =
      min visits.length (cap - calls) := by
  induction visits generalizing calls with
  | nil => simp [underCap]
  | cons visit rest ih =>
    rw [underCap]
    by_cases last : calls + 1 = cap
    · have here : cap - 1 - calls = 0 := by omega
      have none := underCap_reached rest (calls + 1) (by omega : cap ≤ calls + 1)
      rw [here, none]
      cases visible : visit.path.visible with
      | true =>
        simp [visible, last]
        omega
      | false =>
        simp [visible, below]
        omega
    · have admitted : calls + visit.path.visible.toNat < cap := by
        have small := Bool.toNat_le visit.path.visible
        omega
      have index : cap - 1 - calls = cap - 1 - (calls + 1) + 1 := by omega
      have later := ih (calls + 1) (by omega)
      rw [index, List.getElem?_cons_succ, if_pos admitted, length_cons]
      omega

section Sequence

variable {month : Month} {tenantId : Uuid} {plan : Option LicensePlan} {cap : Nat}

theorem checkUsageCap_capped (enforced : month.usage.enforcementEnabled = true)
    (licensed : month.license tenantId = .ok plan)
    (limit : monthlyCap plan month.usage = cap) (pos : 1 ≤ cap) (calls : Nat) :
    checkUsageCap month.usage (month.license tenantId) (.ok (calls : Int)) = .ok true ↔
      calls < cap := by
  have capped : cap ≠ 0 := by omega
  simp [checkUsageCap, enforced, licensed, limit, monthlyToolCalls, bind, Except.bind, capped]

theorem countP_handleAll (enforced : month.usage.enforcementEnabled = true)
    (licensed : month.license tenantId = .ok plan)
    (limit : monthlyCap plan month.usage = cap) (pos : 1 ≤ cap) (visits : List Visit) :
    ∀ (meter : Meter) (since : Int) (calls : Nat), Used tenantId month.first since calls meter →
      (∀ visit ∈ visits, month.first ≤ visit.day ∧ since ≤ visit.day) →
      (visits.map Visit.day).Pairwise (· ≤ ·) →
      (∀ handled ∈ handleAll month meter visits, ReachesCap tenantId handled) →
        (handleAll month meter visits).countP (fun handled => decide (Forwarded handled)) =
          underCap cap calls visits := by
  induction visits with
  | nil => exact fun _ _ _ _ _ _ _ => rfl
  | cons visit rest ih =>
    intro meter since calls used days ordered reaches
    obtain ⟨follows, restOrdered⟩ := pairwise_cons.mp ordered
    obtain ⟨within, later⟩ := days visit mem_cons_self
    obtain ⟨final, forwards⟩ := handle_spec (reaches _ mem_cons_self)
    obtain ⟨counted, after⟩ := used.record visit.path within later
    rw [counted, checkUsageCap_capped enforced licensed limit pos] at forwards
    rw [← final] at after
    have onward := ih _ visit.day (calls + 1) after
      (fun other mem => ⟨(days other (mem_cons_of_mem _ mem)).1,
        follows _ (mem_map_of_mem mem)⟩)
      restOrdered (fun handled mem => reaches handled (mem_cons_of_mem _ mem))
    rw [handleAll, countP_cons, onward, underCap, add_comm]
    simp only [decide_eq_true_eq, forwards]

end Sequence

/-- Of the calls in a month exactly as many as the cap are forwarded just if the call that
reaches the cap goes through the queue and is not flushed before its own check. -/
theorem cap_admits_exactly_iff (month : Month) (tenantId : Uuid) (plan : Option LicensePlan)
    (cap : Nat) (enforced : month.usage.enforcementEnabled = true)
    (licensed : month.license tenantId = .ok plan)
    (limit : monthlyCap plan month.usage = cap) (positive : 1 ≤ cap) (meter : Meter)
    (flushed : meter.queue = [])
    (unused : ∀ today, totalToolCalls meter.rows tenantId month.first today = 0)
    (visits : List Visit) (inMonth : ∀ visit ∈ visits, month.first ≤ visit.day)
    (ordered : (visits.map Visit.day).Pairwise (· ≤ ·))
    (reaches : ∀ handled ∈ handleAll month meter visits, ReachesCap tenantId handled) :
    (handleAll month meter visits).countP (fun handled => decide (Forwarded handled)) =
        min visits.length cap ↔
      ∀ visit, visits[cap - 1]? = some visit → visit.path = .queued false := by
  have used : Used tenantId month.first month.first 0 meter :=
    ⟨flushed, fun today _ => unused today⟩
  have count := countP_handleAll enforced licensed limit positive visits meter month.first 0 used
    (fun visit mem => ⟨inMonth visit mem, inMonth visit mem⟩) ordered reaches
  have exact := underCap_add visits 0 (by omega : 0 < cap)
  rw [count]
  rw [Nat.sub_zero, Nat.sub_zero] at exact
  have hidden : ∀ path : Path, path.visible = false ↔ path = .queued false := by
    intro path
    cases path with
    | direct => simp [Path.visible]
    | queued early => cases early <;> simp [Path.visible]
  cases found : visits[cap - 1]? with
  | none =>
    rw [found] at exact
    refine iff_of_true (by simpa using exact) ?_
    intro visit no
    cases no
  | some visit =>
    rw [found, Option.any_some] at exact
    cases visible : visit.path.visible with
    | true =>
      rw [visible, if_pos rfl] at exact
      refine iff_of_false (by omega) fun queued => ?_
      have shown := (hidden visit.path).mpr (queued visit rfl)
      rw [visible] at shown
      cases shown
    | false =>
      rw [visible] at exact
      refine iff_of_true (by simpa using exact) ?_
      intro other same
      cases same
      exact (hidden visit.path).mp visible

def twoCalls : Month := ⟨⟨true, 2, 0, 0⟩, fun _ => .ok (some .community), 20000⟩

def fresh : Meter := ⟨fun _ => none, []⟩

theorem totalToolCalls_fresh (tenantId : Uuid) (first today : Day) :
    totalToolCalls fresh.rows tenantId first today = 0 := by
  simp [totalToolCalls, fresh, total, Metering.UsageQueue.Bucket.zero_def]

def callBy (path : Path) : Visit where
  ctx := sampleContext "application/json" twoNamesBody
  env := (sampleSnapshot [⟨⟨5#128⟩, ⟨3#128⟩, "github-mcp", "read_file", .allow, 0⟩]
    emptyUpstream).answer
  path := path
  day := 20003

instance (tenantId : Uuid) (handled : Handled Meter) : Decidable (ReachesCap tenantId handled) :=
  decidable_of_iff (∃ entry ∈ handled.log, (match entry.2.op with
    | .checkUsageCap other => decide (other = tenantId)
    | _ => false) = true) (by
      constructor
      · rintro ⟨⟨met, op, answer⟩, member, same⟩
        cases op with
        | checkUsageCap other =>
          obtain rfl := of_decide_eq_true same
          exact ⟨_, member, answer, rfl⟩
        | _ => cases same
      · rintro ⟨entry, member, answer, isCheck⟩
        refine ⟨entry, member, ?_⟩
        rw [isCheck]
        exact decide_eq_true rfl)

theorem cap_admits_two_of_three :
    (handleAll twoCalls fresh [callBy .direct, callBy (.queued false), callBy .direct]).countP
      (fun handled => decide (Forwarded handled)) = 2 :=
  (cap_admits_exactly_iff twoCalls sampleSubject.tenantId (some .community) 2 rfl rfl rfl
    (by decide) fresh rfl (totalToolCalls_fresh _ _)
    [callBy .direct, callBy (.queued false), callBy .direct] (by decide) (by decide)
    (by decide +kernel)).mpr (by simp [callBy])

/-- Written directly, the second of two allowed calls is refused. -/
theorem direct_call_counts_itself :
    (handleAll twoCalls fresh [callBy .direct, callBy .direct, callBy .direct]).countP
      (fun handled => decide (Forwarded handled)) = 1 := by
  decide +kernel

end Portcullis.Gateway.MonthlyCap
