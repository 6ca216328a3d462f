import Portcullis.Gateway.Snapshot
import Portcullis.Gateway.Stages

/-!
# Audit events of gated calls

A call of a method that requires a permission is denied, refused by the rate limiter or
forwarded.  The proxy records every denial, no refusal by the limiter, and a forwarded
call only on the branch that returns a buffered upstream answer.
-/

namespace Portcullis.Gateway.AuditTrail

open Auth.Rbac Gateway.JsonRpc Gateway.Mediation Gateway.Router Gateway.Session Gateway.Stages Lib
  Lib.Encoding Models List

/-! ## Recorded events -/

def recordOf : Op → Option AuditRecord
  | .recordEvent record => some record
  | _ => none

def auditRecords (run : History) : List AuditRecord :=
  run.filterMap fun event => recordOf event.op

@[simp] theorem auditRecords_append (first rest : History) :
    auditRecords (first ++ rest) = auditRecords first ++ auditRecords rest :=
  filterMap_append

@[simp] theorem auditRecords_cons_of_none (event : Event Op Ans) (run : History)
    (silent : recordOf event.op = none) : auditRecords (event :: run) = auditRecords run :=
  filterMap_cons_none silent

theorem recordOf_of_kind {op : Op} (other : kind op ≠ .audit) : recordOf op = none := by
  cases op with
  | recordEvent record => exact absurd rfl other
  | _ => rfl

theorem Of.unrecorded {kinds : List Kind} {run : History} (within : Of kinds run)
    (other : Kind.audit ∉ kinds := by decide) : auditRecords run = [] := by
  apply filterMap_eq_nil_iff.mpr
  intro event mem
  exact recordOf_of_kind fun same => other (same ▸ within event mem)

variable {kinds : List Kind} {run : History} {rpc : JsonRpcRequest} {subject : Subject}

theorem Of.record_notMem (within : Of kinds run) (record : AuditRecord)
    (other : Kind.audit ∉ kinds := by decide) : record ∉ auditRecords run := by
  rw [Of.unrecorded within other]
  exact not_mem_nil

/-! ## Fate of a call -/

def Forwards (run : History) : Prop := ∃ event ∈ run, isForward event.op = true

theorem Of.not_forwards (within : Of kinds run)
    (other : Kind.upstream ∉ kinds := by decide) : ¬ Forwards run := by
  rintro ⟨event, mem, isCall⟩
  rw [within.no_forward other event mem] at isCall
  cases isCall

theorem Of.not_denied {ctx : Context} (within : Of kinds run)
    (other : Kind.permissions ∉ kinds := by decide) : ¬ Denied ctx run subject rpc := by
  rintro ⟨_, _, _, _, saw, _⟩
  exact other (within _ saw)

variable (ctx : Context)

/-- One event names the caller, the server and the resource, with the outcome of the
call. -/
def Recorded (run : History) (subject : Subject) (rpc : JsonRpcRequest) : Prop :=
  ∃ record, auditRecords run = [record] ∧
    record.tenantId = some subject.tenantId ∧ record.subjectId = some subject.subjectId ∧
    record.serverSlug = ctx.request.serverSlug ∧ record.toolName = resourceName rpc ∧
    (Forwards run → record.outcome = "allowed") ∧ (¬ Forwards run → record.outcome = "denied")

theorem not_recorded_of_nil {ctx : Context} (silent : auditRecords run = []) :
    ¬ Recorded ctx run subject rpc := by
  rintro ⟨record, one, _⟩
  rw [silent] at one
  cases one

/-- The upstream's answer to a request of an audited method, with a status below 500,
that is buffered and fits the buffer. -/
structure Buffered (rpc : JsonRpcRequest) (upstream : UpstreamResponse) :
    Prop where
  named : rpc.id ≠ none
  audited : isAudited rpc.method = true
  status : upstream.statusCode < 500
  held : streams upstream (wantsStream ctx) = false
  fits : fitsBuffer ctx upstream = true

/-- The upstream issued no session that has to be recorded, or Redis stored it. -/
def SessionKept (run : History) (subject : Subject) (upstream : UpstreamResponse) : Prop :=
  (issuedId upstream = "" ∨ isValidSessionId (issuedId upstream) = false) ∨
    recording ctx subject upstream (.ok ()) ∈ run

/-- The calls that are recorded: denied ones, and forwarded ones whose answer is
buffered and whose session is kept. -/
def Audited (run : History) (subject : Subject) (rpc : JsonRpcRequest) : Prop :=
  Denied ctx run subject rpc ∨
    ∃ call upstream, Saw run (.forward call) (.ok upstream) ∧ Buffered ctx rpc upstream ∧
      SessionKept ctx run subject upstream

theorem not_audited {ctx : Context} (undenied : ¬ Denied ctx run subject rpc)
    (unanswered : ∀ call upstream, ¬ Saw run (.forward call) (.ok upstream)) :
    ¬ Audited ctx run subject rpc := by
  rintro (denied | ⟨call, upstream, saw, _⟩)
  · exact undenied denied
  · exact unanswered call upstream saw

/-! ## Answers -/

section Answer

variable {ctx : Context} {subject : Subject} {rpc : JsonRpcRequest} {rlHeaders : Headers}
  {stream : Bool} {upstream : UpstreamResponse} {run : History}

theorem issued_of_valid {issued : String} (valid : isValidSessionId issued = true) :
    ¬ (issued = "" ∨ isValidSessionId issued = false) := by
  rintro (rfl | invalid)
  · cases valid
  · rw [valid] at invalid
    cases invalid

theorem PersistRun.not_kept {exit : Exit}
    (runs : PersistRun ctx subject upstream run (.error exit)) :
    ¬ SessionKept ctx run subject upstream := by
  cases runs with
  | refused valid uses =>
    rintro (absent | stored)
    · exact issued_of_valid valid absent
    · exact absurd (uses _ stored) (by simp [recording, kind])
  | @unrecorded reads dropped exn valid uses =>
    rintro (absent | stored)
    · exact issued_of_valid valid absent
    rcases mem_append.mp stored with before | last
    · rcases mem_append.mp before with reading | deleted
      · exact absurd (uses _ reading) (by simp [recording, kind])
      unfold replacing at deleted
      split at deleted
      · cases mem_singleton.mp deleted
      · cases deleted
    · cases mem_singleton.mp last

theorem PersistRun.kept {headers : Headers}
    (runs : PersistRun ctx subject upstream run (.ok headers)) :
    SessionKept ctx run subject upstream := by
  cases runs with
  | unissued absent => exact .inl absent
  | recorded _ _ => exact .inr (mem_append_right _ (mem_singleton.mpr rfl))

theorem unlisted_of_gated (gated : rbacRequired rpc.method = true) :
    listKeys rpc.method = none := by
  cases method : rpc.method <;> simp [method, rbacRequired] at gated <;> rfl

theorem AnswerRun.uses_of_gated {outcome : Except Exit Response}
    (runs : AnswerRun ctx subject rpc rlHeaders stream upstream run outcome)
    (gated : rbacRequired rpc.method = true) :
    Of [.sessionRead, .sessionWrite, .audit] run := by
  cases runs with
  | notified _ => exact of_nil _
  | oversized _ _ _ => exact of_nil _
  | unpersisted _ _ persist => exact persist.uses.mono
  | streamed _ _ persist _ => exact persist.uses.mono
  | filtered _ _ _ _ listing _ =>
    rw [unlisted_of_gated gated] at listing
    cases listing
  | buffered _ _ persist _ _ =>
    apply of_append persist.uses.mono
    unfold auditing
    split <;> simp [Of, kind]

theorem auditRecords_auditing : auditRecords (auditing ctx subject rpc upstream) =
      if isAudited rpc.method ∧ upstream.statusCode < 500 then
        [allowedRecord ctx subject rpc upstream]
      else [] := by
  unfold auditing
  split <;> rfl

theorem answerRun_records {outcome : Except Exit Response}
    (runs : AnswerRun ctx subject rpc rlHeaders (wantsStream ctx) upstream run outcome)
    (gated : rbacRequired rpc.method = true) :
    (Buffered ctx rpc upstream ∧ SessionKept ctx run subject upstream ∧
        auditRecords run = [allowedRecord ctx subject rpc upstream]) ∨
      ¬ (Buffered ctx rpc upstream ∧ SessionKept ctx run subject upstream) ∧
        auditRecords run = [] := by
  cases runs with
  | notified notification =>
    exact .inr ⟨fun both => both.1.named notification, rfl⟩
  | oversized _ _ large =>
    refine .inr ⟨fun both => ?_, rfl⟩
    rw [both.1.fits] at large
    cases large
  | unpersisted _ _ persist =>
    exact .inr ⟨fun both => PersistRun.not_kept persist both.2,
      Of.unrecorded persist.uses⟩
  | streamed _ _ persist streaming =>
    refine .inr ⟨fun both => ?_, Of.unrecorded persist.uses⟩
    rw [both.1.held] at streaming
    cases streaming
  | filtered _ _ _ _ listing _ =>
    rw [unlisted_of_gated gated] at listing
    cases listing
  | buffered named sized persist held _ =>
    have kept : SessionKept ctx _ subject upstream := PersistRun.kept persist
    rw [auditRecords_append, Of.unrecorded persist.uses, auditRecords_auditing]
    split
    · rename_i audited
      refine .inl ⟨⟨named, audited.1, audited.2, held, ?_⟩, ?_, rfl⟩
      · -- a request that asks for a stream is not held
        rcases sized with asked | fits
        · simp [streams, asked] at held
        · exact fits
      · exact kept.imp id fun stored => mem_append_left _ stored
    · rename_i unaudited
      exact .inr ⟨fun both => unaudited ⟨both.1.audited, both.1.status⟩, rfl⟩

end Answer

/-! ## Whole runs -/

section Runs

variable {ctx : Context} {subject : Subject} {server : McpServer} {rpc : JsonRpcRequest}
  {run : History} {outcome : Except Exit Response}

theorem recorded_of_allowed {upstream : UpstreamResponse}
    (one : auditRecords run = [allowedRecord ctx subject rpc upstream]) (forwards : Forwards run) :
    Recorded ctx run subject rpc :=
  ⟨_, one, rfl, rfl, rfl, rfl, fun _ => rfl, fun unforwarded => absurd forwards unforwarded⟩

theorem answered_recorded_iff {before answering : History} {call : ForwardCall}
    {upstream : UpstreamResponse} {rlHeaders : Headers}
    (quiet : Of [.preAuth, .identity, .registry, .sessionRead, .permissions, .limits, .metering,
      .cap, .environ] before)
    (answer : AnswerRun ctx subject rpc rlHeaders (wantsStream ctx) upstream answering outcome)
    (gated : rbacRequired rpc.method = true)
    (undenied : ¬ Denied ctx (before ++ ⟨.forward call, .ok upstream⟩ :: answering) subject rpc) :
    Recorded ctx (before ++ ⟨.forward call, .ok upstream⟩ :: answering) subject rpc ↔
      Audited ctx (before ++ ⟨.forward call, .ok upstream⟩ :: answering) subject rpc := by
  have later := AnswerRun.uses_of_gated answer gated
  have records : auditRecords (before ++ ⟨.forward call, .ok upstream⟩ :: answering) =
      auditRecords answering := by
    rw [auditRecords_append, Of.unrecorded quiet, nil_append,
      auditRecords_cons_of_none _ _ rfl]
  have only : ∀ other found,
      Saw (before ++ ⟨.forward call, .ok upstream⟩ :: answering) (.forward other) (.ok found) →
        found = upstream := by
    intro other found saw
    rcases mem_append.mp saw with early | late
    · exact absurd early (quiet.absent (by simp [kind]) _)
    rcases mem_cons.mp late with here | after
    · cases here
      rfl
    · exact absurd after (later.absent (by simp [kind]) _)
  have kept : SessionKept ctx (before ++ ⟨.forward call, .ok upstream⟩ :: answering) subject
      upstream ↔ SessionKept ctx answering subject upstream := by
    refine or_congr Iff.rfl ⟨fun stored => ?_, fun stored => by simp [stored]⟩
    rcases mem_append.mp stored with early | late
    · exact absurd early (quiet.absent (by simp [kind]) _)
    rcases mem_cons.mp late with here | after
    · cases here
    · exact after
  rcases answerRun_records answer gated with ⟨buffered, stored, one⟩ | ⟨unbuffered, none⟩
  · refine iff_of_true (recorded_of_allowed (records.trans one) ?_)
      (.inr ⟨call, upstream, by simp [Saw], buffered, kept.mpr stored⟩)
    exact ⟨⟨.forward call, .ok upstream⟩, by simp, rfl⟩
  · refine iff_of_false (not_recorded_of_nil (records.trans none)) ?_
    rintro (denied | ⟨other, found, saw, buffered, stored⟩)
    · exact undenied denied
    · cases only other found saw
      exact unbuffered ⟨buffered, kept.mp stored⟩

section Checked

variable {checks rest : History}
  (quiet : Of [.preAuth, .identity, .registry, .sessionRead, .permissions] checks)
  (permitted : ¬ Denied ctx checks subject rpc)

include permitted in
theorem not_denied_append (within : Of [.limits, .metering, .cap, .environ, .upstream,
    .sessionRead, .sessionWrite, .audit] rest) : ¬ Denied ctx (checks ++ rest) subject rpc := by
  rintro ⟨resource, permissions, decision, named, saw, evaluated, refused⟩
  rcases mem_append.mp saw with before | after
  · exact permitted ⟨resource, permissions, decision, named, before, evaluated, refused⟩
  · exact within.absent (by simp [kind]) _ after

include quiet permitted

theorem unanswered_recorded_iff (within : Of [.limits, .metering, .cap, .environ, .upstream] rest)
    (unanswered : ∀ call upstream, ¬ Saw rest (.forward call) (.ok upstream)) :
    Recorded ctx (checks ++ rest) subject rpc ↔ Audited ctx (checks ++ rest) subject rpc := by
  refine iff_of_false (not_recorded_of_nil ?_)
    (not_audited (not_denied_append permitted within.mono) ?_)
  · rw [auditRecords_append, Of.unrecorded quiet, Of.unrecorded within,
      nil_append]
  · intro call upstream saw
    rcases mem_append.mp saw with before | after
    · exact quiet.absent (by simp [kind]) _ before
    · exact unanswered call upstream after

theorem not_reached_of_explained {limiting : History} {rlHeaders : Headers}
    (allowance : Allowance limiting rlHeaders) :
    ¬ (Denied ctx (checks ++ (limiting ++ [⟨.recordEvent (explainRecord ctx subject rpc), ()⟩]))
        subject rpc ∨
      Limited (checks ++ (limiting ++ [⟨.recordEvent (explainRecord ctx subject rpc), ()⟩])) false ∨
      Forwards (checks ++ (limiting ++ [⟨.recordEvent (explainRecord ctx subject rpc), ()⟩]))) := by
  have within : Of [.limits, .audit]
      (limiting ++ [⟨.recordEvent (explainRecord ctx subject rpc), ()⟩]) :=
    of_append allowance.uses.mono (by simp [Of, kind])
  rintro (denied | refused | forwards)
  · exact not_denied_append permitted within.mono denied
  · rcases refused.append with early | late
    · exact absurd early (quiet.not_limited _)
    rcases late.append with before | after
    · exact allowance.unrefused before
    · simp [Limited, Saw] at after
  · have whole := of_append (quiet.mono (by decide : _ ⊆ [Kind.preAuth, .identity, .registry,
      .sessionRead, .permissions, .limits, .audit])) within.mono
    exact absurd forwards (Of.not_forwards whole)

/-- Behind the permission check: what the limiter refuses is not recorded, and what is
forwarded is recorded on the buffered branch only. -/
theorem proxyRun_recorded_iff {proxying : History}
    (runs : ProxyRun ctx subject server rpc proxying outcome)
    (gated : rbacRequired rpc.method = true)
    (reached : Denied ctx (checks ++ proxying) subject rpc ∨ Limited (checks ++ proxying) false ∨
      Forwards (checks ++ proxying)) :
    Recorded ctx (checks ++ proxying) subject rpc ↔
      Audited ctx (checks ++ proxying) subject rpc := by
  have unasked : ∀ {rest : History}, Of [.limits, .metering, .cap, .environ] rest →
      ∀ call upstream, ¬ Saw rest (.forward call) (.ok upstream) :=
    fun within call upstream => within.absent (by simp [kind]) _
  cases runs with
  | limited uses _ =>
    exact unanswered_recorded_iff quiet permitted uses.mono
      (unasked uses.mono)
  | explained allowance _ _ =>
    exact absurd reached (not_reached_of_explained quiet permitted allowance)
  | @capped limiting capping _ _ allowance _ uses _ =>
    have within : Of [.limits, .metering, .cap] (limiting ++ capping) :=
      of_append allowance.uses.mono uses.mono
    exact unanswered_recorded_iff quiet permitted within.mono
      (unasked within.mono)
  | @failed limiting preparing _ call exn _ allowance _ uses _ =>
    have early : Of [.limits, .metering, .cap, .environ] (limiting ++ preparing) :=
      of_append allowance.uses.mono uses.mono
    refine unanswered_recorded_iff quiet permitted
      (of_append early.mono (by simp [Of, kind])) fun other upstream saw => ?_
    rcases mem_append.mp saw with before | last
    · exact unasked early other upstream before
    · cases mem_singleton.mp last
  | @answered limiting preparing answering _ call upstream _ allowance _ uses _ answer =>
    have early : Of [.limits, .metering, .cap, .environ] (limiting ++ preparing) :=
      of_append allowance.uses.mono uses.mono
    have later := AnswerRun.uses_of_gated answer gated
    have within : Of [.limits, .metering, .cap, .environ, .upstream, .sessionRead,
        .sessionWrite, .audit]
        (limiting ++ preparing ++ ⟨.forward call, .ok upstream⟩ :: answering) := by
      apply of_append early.mono
      exact of_cons later.mono
    have notDenied := not_denied_append permitted within
    rw [← append_assoc] at notDenied ⊢
    exact answered_recorded_iff (of_append quiet.mono early.mono)
      answer gated notDenied

end Checked

theorem postRun_recorded_iff (runs : PostRun ctx rpc run outcome)
    (gated : rbacRequired rpc.method = true) (auth : Authenticated run subject)
    (reached : Denied ctx run subject rpc ∨ Limited run false ∨ Forwards run) :
    Recorded ctx run subject rpc ↔ Audited ctx run subject rpc := by
  cases runs with
  | unidentified refused => exact absurd auth (runPreAuthChecks_failed refused subject)
  | unresolved identified uses =>
    have within := of_append
      (identified.uses.mono (by decide : _ ⊆ [Kind.preAuth, .identity, .registry, .sessionRead]))
      uses.mono
    rcases reached with denied | refused | forwards
    · exact absurd denied (Of.not_denied within)
    · exact absurd refused (within.not_limited _)
    · exact absurd forwards (Of.not_forwards within)
  | @unpermitted checks deciding caller _ cleared silent decided =>
    have uses := (checkPermission_ensures ctx [] caller rpc).of decided
    have within := of_append
      (silent.mono (by decide : _ ⊆ [Kind.preAuth, .identity, .registry, .sessionRead,
        .permissions, .metering, .audit])) uses.mono
    have same := (cleared.only subject).mp
      ((authenticated_append uses subject).mp auth)
    subst same
    have denied : Denied ctx (checks ++ deciding) subject rpc := by
      rcases reached with denied | refused | forwards
      · exact denied
      · exact absurd refused (within.not_limited _)
      · exact absurd forwards (Of.not_forwards within)
    rcases checkPermission_run decided with ⟨_, undenied⟩ |
      ⟨_, resource, permissions, decision, metered, recorded, _, named, evaluated, refused, rfl⟩
    · obtain ⟨resource, permissions, decision, named, saw, evaluated, refused⟩ := denied
      rcases mem_append.mp saw with before | after
      · exact absurd before (silent.absent (by simp [kind]) _)
      · exact absurd ⟨resource, permissions, decision, named, after, evaluated, refused⟩ undenied
    · refine iff_of_true ⟨denialRecord ctx subject rpc resource decision, ?_, rfl, rfl, rfl,
        named.symm, ?_, fun _ => rfl⟩ (.inl denied)
      · rw [auditRecords_append, Of.unrecorded silent]
        rfl
      · exact fun forwards => absurd forwards (Of.not_forwards within)
  | terminating _ method _ =>
    rw [method] at gated
    cases gated
  | proxying cleared permitted _ proxied =>
    have same := (cleared.only subject).mp
      ((authenticated_append proxied.uses subject).mp auth)
    subst same
    exact proxyRun_recorded_iff cleared.uses permitted proxied gated reached

end Runs

def readerSnapshot (upstream : UpstreamResponse) : Snapshot :=
  sampleSnapshot [⟨⟨5#128⟩, ⟨3#128⟩, "github-mcp", "read_file", .allow, 0⟩] upstream

def readCall : JsonRpcRequest := ⟨.toolsCall, some (.int 1), some [("name", .str "read_file")]⟩

theorem parse_readCall : parseRequest pythonLimits twoNamesBody = .ok readCall := by
  decide +kernel

instance (run : History) : Decidable (Forwards run) :=
  inferInstanceAs (Decidable (∃ event ∈ run, _))

def busySnapshot : Snapshot :=
  { readerSnapshot emptyUpstream with limiter := fun _ _ => .ok ⟨false, 100, 0, 60, 60⟩ }

end Portcullis.Gateway.AuditTrail
