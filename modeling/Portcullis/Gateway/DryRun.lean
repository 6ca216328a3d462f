import Portcullis.Gateway.Mediation
import Portcullis.Gateway.Stages
import Portcullis.Metering.Usage

/-!
# Dry runs

A request with a true `dry_run` parameter is explained instead of forwarded.  The test
for the parameter follows the branch that terminates a session and precedes the usage
cap: the first makes a dry run act, the second lets it promise too much.
-/

namespace Portcullis.Gateway

/-- The same request with other query parameters. -/
def Context.withQuery (ctx : Context) (query : List (String × String)) : Context :=
  { ctx with request := { ctx.request with query := query } }

end Portcullis.Gateway

namespace Portcullis.Gateway.DryRun

open Auth.Rbac Gateway.JsonRpc Gateway.Mediation Gateway.Router Gateway.Session Gateway.Stages Lib
  Lib.Encoding Metering.Usage Models List

/-! ## Effects of a dry run -/

/-- The upstream is not called and no session record is written. -/
def Inert (run : History) : Prop :=
  ∀ event ∈ run, kind event.op ≠ .upstream ∧ kind event.op ≠ .sessionWrite

theorem Of.inert {kinds : List Kind} {run : History} (within : Of kinds run)
    (noUpstream : Kind.upstream ∉ kinds := by decide)
    (noWrite : Kind.sessionWrite ∉ kinds := by decide) : Inert run := by
  intro event mem
  have ofKind := within event mem
  exact ⟨fun same => noUpstream (same ▸ ofKind), fun same => noWrite (same ▸ ofKind)⟩

theorem not_inert_of_delete {before after : History} {key : String} {answer : Except Exn Unit} :
    ¬ Inert (before ++ ⟨.redisDelete key, answer⟩ :: after) := by
  intro inert
  exact (inert ⟨.redisDelete key, answer⟩ (by simp)).2 rfl

def Terminates (ctx : Context) : Prop :=
  ∃ rpc, parseRequest ctx.platform.jsonLimits ctx.request.body = .ok rpc ∧
    rpc.method = .sessionTerminate

theorem proxyRun_inert {ctx : Context} {subject : Subject} {server : McpServer}
    {rpc : JsonRpcRequest} {run : History} {outcome : Except Exit Response}
    (runs : ProxyRun ctx subject server rpc run outcome) (dry : isDryRun ctx = true) :
    Of [.limits, .metering, .audit] run := by
  cases runs with
  | limited uses _ => exact uses.mono
  | explained allowance _ _ =>
    apply of_append allowance.uses.mono
    simp [Of, kind]
  | capped _ real _ _ => simp [dry] at real
  | failed _ real _ _ => simp [dry] at real
  | answered _ real _ _ _ => simp [dry] at real

theorem postRun_inert_iff {ctx : Context} {rpc : JsonRpcRequest} {run : History}
    {outcome : Except Exit Response} (runs : PostRun ctx rpc run outcome)
    (dry : isDryRun ctx = true) :
    Inert run ↔ ¬ (rpc.method = .sessionTerminate ∧ Limited run true) := by
  -- a run that ends before the rate limit neither acts nor passes the limiter
  have early : ∀ history, Of [.preAuth, .identity, .audit, .registry, .sessionRead, .permissions,
      .metering] history →
      (Inert history ↔ ¬ (rpc.method = .sessionTerminate ∧ Limited history true)) := by
    intro history within
    refine iff_of_true (Of.inert within) ?_
    exact fun terminates => absurd terminates.2 (within.not_limited _)
  cases runs with
  | unidentified refused =>
    exact early _ (((runPreAuthChecks_ensures ctx [] rpc.id).of refused).mono)
  | unresolved identified uses =>
    exact early _ (of_append identified.uses.mono uses.mono)
  | unpermitted cleared _ deciding =>
    have uses := (checkPermission_ensures ctx [] _ rpc).of deciding
    exact early _ (of_append cleared.uses.mono uses.mono)
  | proxying cleared _ method proxied =>
    have within := of_append
      (cleared.uses.mono (by decide : _ ⊆ [Kind.preAuth, .identity, .audit, .registry,
        .sessionRead, .permissions, .metering, .limits]))
      ((proxyRun_inert proxied dry).mono)
    exact iff_of_true (Of.inert within)
      fun terminates => method terminates.1
  | terminating cleared method terminate =>
    cases terminate with
    | refused uses unallowed =>
      have within := of_append
        (cleared.uses.mono (by decide : _ ⊆ [Kind.preAuth, .identity, .registry,
          .sessionRead, .permissions, .metering, .limits])) uses.mono
      refine iff_of_true (Of.inert within) ?_
      rintro ⟨_, limited⟩
      rcases limited.append with before | after
      · exact absurd before (cleared.uses.not_limited _)
      · exact unallowed after
    | failed _ allowed _ _ =>
      refine iff_of_false ?_ fun unlimited => unlimited ⟨method, ?_⟩
      · rw [← append_assoc]
        exact not_inert_of_delete
      · rw [← append_assoc]
        exact (allowed.after _).before _
    | answered _ allowed _ _ _ _ _ =>
      refine iff_of_false ?_ fun unlimited => unlimited ⟨method, ?_⟩
      · rw [← append_assoc]
        exact not_inert_of_delete
      · rw [← append_assoc]
        exact (allowed.after _).before _

/-- A dry run calls no upstream and writes no session record, unless it is a
`session/terminate` that the rate limiter admits. -/
theorem dry_run_inert_iff (ctx : Context) (run : History) (outcome : Except Exit Response)
    (runs : Prog.Runs (mcpProxy ctx) run outcome) (dry : isDryRun ctx = true) :
    Inert run ↔ ¬ (Terminates ctx ∧ Limited run true) := by
  rcases mcpProxy_run runs with ⟨resp, rfl, _⟩ | ⟨rest, inner, rfl, answering, _⟩
  · have within : Of [.hook] [⟨.pluginPreAuth, some resp⟩] := by simp [Of, kind]
    exact iff_of_true (Of.inert within)
      fun terminates => absurd terminates.2 (within.not_limited _)
  have asked : Of [.hook] [⟨.pluginPreAuth, none⟩] := by simp [Of, kind]
  have inertRest : Inert (⟨.pluginPreAuth, none⟩ :: rest) ↔ Inert rest := by
    simp [Inert, kind]
  have limitedRest : Limited (⟨.pluginPreAuth, none⟩ :: rest) true ↔ Limited rest true := by
    simp [Limited, Saw]
  rw [inertRest, limitedRest]
  rcases answerPost_run answering with ⟨rfl, _⟩ | ⟨rpc, _, parsed, posted, _⟩
  · exact iff_of_true (Of.inert (of_nil []) (by simp) (by simp))
      fun terminates => absurd terminates.2 ((of_nil []).not_limited _)
  rw [postRun_inert_iff posted dry]
  have same : Terminates ctx ↔ rpc.method = .sessionTerminate := by
    constructor
    · rintro ⟨other, otherParsed, method⟩
      rw [parsed] at otherParsed
      rwa [Except.ok.inj otherParsed]
    · exact fun method => ⟨rpc, parsed, method⟩
  rw [same]

instance (run : History) : Decidable (Inert run) :=
  inferInstanceAs (Decidable (∀ event ∈ run, _))

def dryQuery : List (String × String) := [("dry_run", "1")]

theorem dry_run_inert_iff_sample : Inert (Prog.trace (sampleSnapshot [] emptyUpstream).answer
        (mcpProxy ((sampleContext "application/json" listBody).withQuery dryQuery))) ↔
      ¬ (Terminates ((sampleContext "application/json" listBody).withQuery dryQuery) ∧
        Limited (Prog.trace (sampleSnapshot [] emptyUpstream).answer
          (mcpProxy ((sampleContext "application/json" listBody).withQuery dryQuery))) true) :=
  dry_run_inert_iff _ _ _ (Prog.runs_exec _ _) (by decide)

def ownedSnapshot (upstream : UpstreamResponse) : Snapshot :=
  { sampleSnapshot [] upstream with
    redis := fun _ => .ok (some (payloadText sampleSubject.tenantId sampleSubject.subjectId
      "github-mcp")) }

/-- A dry run of `session/terminate` deletes the session and calls the upstream. -/
theorem dry_terminate_acts : ¬ ∀ (ctx : Context) (run : History) (outcome : Except Exit Response),
      Prog.Runs (mcpProxy ctx) run outcome → isDryRun ctx = true → Inert run := by
  intro inert
  have still := inert
    ((inSession (sampleContext "application/json" terminateBody) "session-0001").withQuery dryQuery)
    _ _ (Prog.runs_exec (ownedSnapshot emptyUpstream).answer _) (by decide)
  revert still
  decide +kernel

/-! ## Predictions of a dry run -/

/-- The response says that the call is allowed. -/
def saysAllowed (response : Response) : Bool :=
  match response.body with
  | .json (.obj members) =>
    match Json.get "result" members with
    | some (.obj result) => decide (Json.get "allowed" result = some (.bool true))
    | _ => false
  | _ => false

def AnswersAllowed (outcome : Except Exit Response) : Prop :=
  ∃ response, outcome = .ok response ∧ saysAllowed response = true

theorem saysAllowed_of_isError (resp : Response) (isError : IsError resp) :
    saysAllowed resp = false := by
  obtain ⟨rpcId, code, message, body⟩ := isError
  rw [saysAllowed, body]
  rfl

/-! ### Stages that do not read the query -/

section Query

variable (ctx : Context) (query : List (String × String))

theorem checkPreAuth_withQuery (rpcId : Option RpcId) :
    checkPreAuth (ctx.withQuery query) rpcId = checkPreAuth ctx rpcId := by
  refine congrArg (_ >>= ·) (funext fun bounds => congrArg (_ >>= ·) (funext fun answer => ?_))
  -- the match is on an answer whose type mentions the context
  rcases answer with exn | result
  · cases exn <;> rfl
  · rfl

theorem runPreAuthChecks_withQuery (rpcId : Option RpcId) :
    runPreAuthChecks (ctx.withQuery query) rpcId = runPreAuthChecks ctx rpcId := by
  unfold runPreAuthChecks
  rw [checkPreAuth_withQuery]
  rfl

theorem checkRateLimit_withQuery (subject : Subject) (called : String) (rpcId : Option RpcId) :
    checkRateLimit (ctx.withQuery query) subject called rpcId =
      checkRateLimit ctx subject called rpcId := by
  refine congrArg (_ >>= ·) (funext fun listed => congrArg (_ >>= ·) (funext fun policies =>
    congrArg (_ >>= ·) (funext fun policy => congrArg (_ >>= ·) (funext fun answer => ?_))))
  rcases answer with exn | result
  · cases exn <;> rfl
  · rfl

theorem terminateSession_withQuery (subject : Subject) (server : McpServer) (rpc : JsonRpcRequest) :
    terminateSession (ctx.withQuery query) subject server rpc =
      terminateSession ctx subject server rpc := by
  unfold terminateSession
  rw [checkRateLimit_withQuery]
  rfl

end Query

/-! ### Two runs from one state -/

section Parallel

variable {State Value : Type} (serve : State → (op : Op) → Ans op × State)

abbrev Handled (State : Type) := Prog.Driven State Op Ans Exit Response

def Forwarded (handled : Handled State) : Prop :=
  ∃ entry ∈ handled.log, isForward entry.2.op = true

/-- Every check of the usage cap was answered with true. -/
def CapPassed (handled : Handled State) : Prop :=
  Uncapped (handled.log.map Prod.snd)

/-- The dry run allows and the real run is forwarded exactly if the usage cap lets it,
or the two end alike. -/
def Parallel (dry real : Handled State) : Prop :=
  (AnswersAllowed dry.outcome ∧ (Forwarded real ↔ CapPassed real)) ∨
    (¬ AnswersAllowed dry.outcome ∧ real.outcome = dry.outcome)

theorem parallel_bind {kinds : List Kind} {front : Gate Value}
    (uses : ∀ {run : History} {outcome : Except Exit Value}, Prog.Runs front run outcome →
      Of kinds run) (noUpstream : Kind.upstream ∉ kinds) (noCap : Kind.cap ∉ kinds)
    {dry real : Value → Gate Response}
    (rest : ∀ value state, Parallel (Prog.drive serve state (dry value))
      (Prog.drive serve state (real value))) (state : State) :
    Parallel (Prog.drive serve state (front >>= dry))
      (Prog.drive serve state (front >>= real)) := by
  have within := uses (Prog.runs_drive serve state front)
  cases ended : (Prog.drive serve state front).outcome with
  | error exit =>
    rw [Prog.drive_bind_error serve state front dry exit ended,
      Prog.drive_bind_error serve state front real exit ended]
    right
    refine ⟨?_, rfl⟩
    rintro ⟨resp, no, _⟩
    cases no
  | ok value =>
    rw [Prog.drive_bind_ok serve state front dry value ended,
      Prog.drive_bind_ok serve state front real value ended]
    rcases rest value (Prog.drive serve state front).final with ⟨allowed, same⟩ | alike
    · left
      refine ⟨allowed, ?_⟩
      -- the front part neither forwards nor asks for the cap
      have forwarded : ∀ later : Handled State,
          Forwarded ((Prog.drive serve state front).andThen later) ↔ Forwarded later := by
        intro later
        constructor
        · rintro ⟨entry, mem, isCall⟩
          rcases mem_append.mp mem with before | after
          · have quiet := within.no_forward noUpstream entry.2 (mem_map_of_mem before)
            rw [isCall] at quiet
            cases quiet
          · exact ⟨entry, after, isCall⟩
        · rintro ⟨entry, mem, isCall⟩
          exact ⟨entry, mem_append_right _ mem, isCall⟩
      have passed : ∀ later : Handled State,
          CapPassed ((Prog.drive serve state front).andThen later) ↔ CapPassed later := by
        intro later
        unfold CapPassed Uncapped Saw Prog.Driven.andThen
        simp only [map_append, mem_append]
        constructor
        · exact fun all tenantId answer mem => all tenantId answer (.inr mem)
        intro all tenantId answer mem
        rcases mem with before | after
        · exact absurd (within ⟨.checkUsageCap tenantId, answer⟩ before) noCap
        · exact all tenantId answer after
      rw [forwarded, passed]
      exact same
    · exact .inr alike

theorem parallel_of_outcome_eq {dry real changedDry changedReal : Handled State}
    (parallel : Parallel dry real) (realLog : changedReal.log = real.log)
    (allows : AnswersAllowed changedDry.outcome ↔ AnswersAllowed dry.outcome)
    (alike : real.outcome = dry.outcome → changedReal.outcome = changedDry.outcome) :
    Parallel changedDry changedReal := by
  rcases parallel with ⟨allowed, same⟩ | ⟨refused, equal⟩
  · left
    refine ⟨allows.mpr allowed, ?_⟩
    unfold Forwarded CapPassed at *
    rwa [realLog]
  · exact .inr ⟨fun allowed => refused (allows.mp allowed), alike equal⟩

theorem drive_exceptAll (state : State) (prog : Gate Response) (resp : Response) :
    (Prog.drive serve state (exceptAll prog fun _ => respond resp)).log =
        (Prog.drive serve state prog).log ∧
      (Prog.drive serve state (exceptAll prog fun _ => respond resp)).outcome =
        match (Prog.drive serve state prog).outcome with
        | .error (.raise _) => .error (.respond resp)
        | other => other := by
  unfold exceptAll
  cases ended : (Prog.drive serve state prog).outcome with
  | ok value =>
    rw [Prog.drive_recover_ok serve state prog _ value ended]
    exact ⟨rfl, ended⟩
  | error exit =>
    rw [Prog.drive_recover_error serve state prog _ exit ended]
    cases exit with
    | respond early => exact ⟨append_nil _, rfl⟩
    | raise exn => exact ⟨append_nil _, rfl⟩

theorem drive_settle (state : State) (prog : Gate Response) :
    (Prog.drive serve state (settle prog)).log = (Prog.drive serve state prog).log ∧
      (Prog.drive serve state (settle prog)).outcome =
        settled (Prog.drive serve state prog).outcome := by
  unfold settle
  cases ended : (Prog.drive serve state prog).outcome with
  | ok value =>
    rw [Prog.drive_recover_ok serve state prog _ value ended]
    exact ⟨rfl, ended⟩
  | error exit =>
    rw [Prog.drive_recover_error serve state prog _ exit ended]
    cases exit with
    | respond early => exact ⟨append_nil _, rfl⟩
    | raise exn => exact ⟨append_nil _, rfl⟩

theorem proxyRun_forwards_iff {ctx : Context} {subject : Subject} {server : McpServer}
    {rpc : JsonRpcRequest} {run : History} {outcome : Except Exit Response}
    (runs : ProxyRun ctx subject server rpc run outcome) (real : isDryRun ctx = false)
    (limited : Limited run true) :
    (∃ event ∈ run, isForward event.op = true) ↔ Uncapped run := by
  -- the limiter's part asks for no cap, and neither does what follows the upstream call
  have uncapped : ∀ {limiting preparing rest : History} {rlHeaders : Headers},
      Allowance limiting rlHeaders → Uncapped preparing → Of [.upstream, .sessionRead,
        .sessionWrite, .permissions, .audit] rest → Uncapped (limiting ++ preparing ++ rest) := by
    intro limiting preparing rest rlHeaders allowance under within tenantId answer saw
    rcases mem_append.mp saw with before | after
    · rcases mem_append.mp before with early | prepared
      · exact absurd early (allowance.uses.absent (by simp [kind]) _)
      · exact under tenantId answer prepared
    · exact absurd after (within.absent (by simp [kind]) _)
  cases runs with
  | limited _ unallowed => exact absurd limited unallowed
  | explained _ dry _ => simp [dry] at real
  | capped allowance _ uses beyond =>
    refine iff_of_false ?_ fun under => beyond fun tenantId answer saw =>
      under tenantId answer (mem_append_right _ saw)
    rintro ⟨event, mem, isCall⟩
    have within := of_append (allowance.uses.mono (by decide : _ ⊆ [Kind.limits, .metering, .cap]))
      uses.mono
    rw [within.no_forward (by decide) event mem] at isCall
    cases isCall
  | failed allowance _ _ under =>
    refine iff_of_true ⟨_, mem_append_right _ (mem_singleton.mpr rfl), rfl⟩ ?_
    exact uncapped allowance under (by simp [Of, kind])
  | answered allowance _ _ under answer =>
    refine iff_of_true ⟨_, mem_append_right _ mem_cons_self, rfl⟩ ?_
    apply uncapped allowance under
    exact of_cons answer.uses.mono

variable (ctx : Context) (query : List (String × String))
  (dry : isDryRun (ctx.withQuery query) = true) (real : isDryRun ctx = false)
include dry real

theorem parallel_proxyRequest (subject : Subject) (server : McpServer) (rpc : JsonRpcRequest)
    (state : State) :
    Parallel (Prog.drive serve state (proxyRequest (ctx.withQuery query) subject server rpc))
      (Prog.drive serve state (proxyRequest ctx subject server rpc)) := by
  have realRun := proxyRequest_run
    (Prog.runs_drive serve state (proxyRequest ctx subject server rpc))
  cases ended : (Prog.drive serve state
      (checkRateLimit ctx subject (toolOrMethod rpc) rpc.id)).outcome with
  | error exit =>
    unfold proxyRequest
    rw [checkRateLimit_withQuery, Prog.drive_bind_error serve state _ _ exit ended,
      Prog.drive_bind_error serve state _ _ exit ended]
    right
    refine ⟨?_, rfl⟩
    rintro ⟨resp, no, _⟩
    cases no
  | ok rlHeaders =>
    left
    constructor
    · unfold proxyRequest
      rw [checkRateLimit_withQuery, Prog.drive_bind_ok serve state _ _ rlHeaders ended, if_pos dry]
      exact ⟨_, rfl, rfl⟩
    · have passed := Prog.runs_drive serve state
        (checkRateLimit ctx subject (toolOrMethod rpc) rpc.id)
      rw [ended] at passed
      have limited : Limited ((Prog.drive serve state
          (proxyRequest ctx subject server rpc)).log.map Prod.snd) true := by
        unfold proxyRequest
        rw [Prog.drive_bind_ok serve state _ _ rlHeaders ended]
        unfold Prog.Driven.andThen
        rw [map_append]
        exact (checkRateLimit_passed passed).allowed.before _
      rw [CapPassed, ← proxyRun_forwards_iff realRun real limited, Forwarded]
      simp only [mem_map, exists_exists_and_eq_and]

theorem parallel_handlePost (rpc : JsonRpcRequest) (state : State) :
    Parallel (Prog.drive serve state (handlePost (ctx.withQuery query) rpc))
      (Prog.drive serve state (handlePost ctx rpc)) := by
  unfold handlePost
  rw [runPreAuthChecks_withQuery]
  refine parallel_bind serve (runPreAuthChecks_ensures ctx [] rpc.id).of (by decide) (by decide)
    (fun subject state => ?_) state
  refine parallel_bind serve (resolveServer_ensures ctx [] subject rpc.id).of (by decide) (by decide)
    (fun server state => ?_) state
  refine parallel_bind serve validateSession_of (by decide) (by decide) (fun _ state => ?_) state
  refine parallel_bind serve (checkPermission_ensures ctx [] subject rpc).of (by decide) (by decide)
    (fun _ state => ?_) state
  split
  · -- termination does not look at the parameter and answers with upstream bytes
    rw [terminateSession_withQuery]
    refine .inr ⟨?_, rfl⟩
    rintro ⟨resp, same, promised⟩
    have terminated := terminateSession_run
      (Prog.runs_drive serve state (terminateSession ctx subject server rpc))
    rw [same] at terminated
    generalize List.map Prod.snd _ = run at terminated
    cases terminated with
    | answered _ _ _ _ _ _ raw =>
      rw [saysAllowed, raw] at promised
      cases promised
  · exact parallel_proxyRequest serve ctx query dry real subject server rpc state

theorem parallel_answerPost (state : State) :
    Parallel (Prog.drive serve state (answerPost (ctx.withQuery query)))
      (Prog.drive serve state (answerPost ctx)) := by
  refine parallel_bind serve (readRequest_ensures ctx []).of (by simp) (by simp)
    (fun rpc state => ?_) state
  obtain ⟨dryLog, dryOutcome⟩ := drive_exceptAll serve state (handlePost (ctx.withQuery query) rpc)
    (internalError (ctx.withQuery query) rpc.id)
  obtain ⟨realLog, realOutcome⟩ := drive_exceptAll serve state (handlePost ctx rpc)
    (internalError ctx rpc.id)
  refine parallel_of_outcome_eq (parallel_handlePost serve ctx query dry real rpc state) realLog
    ?_ ?_
  · rw [dryOutcome]
    cases (Prog.drive serve state (handlePost (ctx.withQuery query) rpc)).outcome with
    | ok resp => rfl
    | error exit => cases exit <;> simp [AnswersAllowed]
  · intro same
    rw [dryOutcome, realOutcome, same]
    rfl

theorem parallel_settled (state : State) :
    Parallel (Prog.drive serve state (settle (answerPost (ctx.withQuery query))))
      (Prog.drive serve state (settle (answerPost ctx))) := by
  obtain ⟨dryLog, dryOutcome⟩ := drive_settle serve state (answerPost (ctx.withQuery query))
  obtain ⟨realLog, realOutcome⟩ := drive_settle serve state (answerPost ctx)
  refine parallel_of_outcome_eq (parallel_answerPost serve ctx query dry real state) realLog ?_ ?_
  · rw [dryOutcome]
    have runs := Prog.runs_drive serve state (answerPost (ctx.withQuery query))
    cases ended : (Prog.drive serve state (answerPost (ctx.withQuery query))).outcome with
    | ok response => rfl
    | error exit =>
      rw [ended] at runs
      cases exit with
      | raise exn => rfl
      | respond response =>
        -- an early return is an error, which allows nothing
        have isError : IsError response :=
          (ensured_exit (answerPost_ensures (disciplined (ctx.withQuery query)) []) runs).1
        simp [settled, AnswersAllowed, saysAllowed_of_isError response isError]
  · intro same
    rw [dryOutcome, realOutcome, same]

end Parallel

/-! ### Deployments -/

/-- What answers a request in a state: the usage cap is computed from the license and
from the month's total, everything else is arbitrary. -/
structure Deployment (State : Type) where
  usage : UsageSettings
  license : State → Uuid → Except Exn (Option LicensePlan)
  toolCalls : State → Uuid → Except Exn Int
  others : State → (op : Op) → Ans op × State

namespace Deployment

variable {State : Type} (deployment : Deployment State)

def serve (state : State) : (op : Op) → Ans op × State
  | .checkUsageCap tenantId =>
    (checkUsageCap deployment.usage (deployment.license state tenantId)
      (deployment.toolCalls state tenantId), state)
  | op => deployment.others state op

variable (state : State)

def handle (ctx : Context) : Handled State :=
  Prog.drive deployment.serve state (mcpProxy ctx)

def Under (tenantId : Uuid) : Prop :=
  UnderCap deployment.usage (deployment.license state tenantId)
    (deployment.toolCalls state tenantId)

def MetUnder (handled : Handled State) : Prop :=
  ∀ met tenantId answer, (met, ⟨.checkUsageCap tenantId, answer⟩) ∈ handled.log →
    deployment.Under met tenantId

theorem capPassed_iff (prog : Gate Response) :
    CapPassed (Prog.drive deployment.serve state prog) ↔
      deployment.MetUnder (Prog.drive deployment.serve state prog) := by
  have computed : ∀ met tenantId answer, (met, ⟨.checkUsageCap tenantId, answer⟩) ∈
          (Prog.drive deployment.serve state prog).log →
        answer = checkUsageCap deployment.usage (deployment.license met tenantId)
          (deployment.toolCalls met tenantId) :=
    fun met tenantId answer mem =>
      Prog.answer_of_mem_log deployment.serve state prog met _ mem
  constructor
  · intro passed met tenantId answer mem
    have under := passed tenantId answer (mem_map.mpr ⟨_, mem, rfl⟩)
    rw [computed met tenantId answer mem] at under
    exact (checkUsageCap_eq_true_iff _ _ _).mp under
  · intro under tenantId answer saw
    obtain ⟨⟨met, event⟩, mem, rfl⟩ := mem_map.mp saw
    rw [computed met tenantId answer mem]
    exact (checkUsageCap_eq_true_iff _ _ _).mpr (under met tenantId answer mem)

theorem handle_eq (ctx : Context) : deployment.handle state ctx =
      let served := deployment.others state .pluginPreAuth
      let rest := Prog.drive deployment.serve served.2 (settle (match served.1 with
        | some resp => respond resp
        | none => answerPost ctx))
      ⟨rest.outcome, (state, ⟨.pluginPreAuth, served.1⟩) :: rest.log, rest.final⟩ :=
  rfl

theorem handle_of_plugin (ctx : Context) (resp : Response)
    (ans : (deployment.others state .pluginPreAuth).1 = some resp) :
    (deployment.handle state ctx).outcome = .ok resp ∧
      ¬ Forwarded (deployment.handle state ctx) := by
  rw [handle_eq]
  dsimp only
  rw [ans]
  refine ⟨rfl, ?_⟩
  rintro ⟨entry, mem, isCall⟩
  cases mem_singleton.mp mem
  cases isCall

theorem handle_of_no_plugin (ctx : Context)
    (unanswered : (deployment.others state .pluginPreAuth).1 = none) :
    let rest := Prog.drive deployment.serve (deployment.others state .pluginPreAuth).2
      (settle (answerPost ctx))
    deployment.handle state ctx =
      ⟨rest.outcome, (state, ⟨.pluginPreAuth, none⟩) :: rest.log, rest.final⟩ := by
  rw [handle_eq]
  dsimp only
  rw [unanswered]

end Deployment

/-- The community plan of the one tenant allows a thousand calls, and it has made
`used`. -/
def meteredDeployment (used : Int) : Deployment Unit where
  usage := ⟨true, 1000, 0, 0⟩
  license _ _ := .ok (some .community)
  toolCalls _ _ := .ok used
  others _ op :=
    ((sampleSnapshot [⟨⟨5#128⟩, ⟨3#128⟩, "github-mcp", "read_file", .allow, 0⟩]
      emptyUpstream).answer op, ())

instance (outcome : Except Exit Response) : Decidable (AnswersAllowed outcome) :=
  match outcome with
  | .ok response => decidable_of_iff (saysAllowed response = true) (by simp [AnswersAllowed])
  | .error _ => isFalse (by simp [AnswersAllowed])

instance {State : Type} (handled : Handled State) : Decidable (Forwarded handled) :=
  inferInstanceAs (Decidable (∃ entry ∈ handled.log, _))

end Portcullis.Gateway.DryRun
