import Portcullis.Gateway.Checks
import Portcullis.Gateway.Snapshot

/-!
# Mediation of forwarded requests

No run of a proxy handler calls the upstream before every check has passed, and none
writes a session record whose ownership it has not checked.
-/

namespace Portcullis.Gateway.Mediation

open Auth.Rbac Auth.ToolFilter Gateway.JsonRpc Gateway.Router Gateway.Session Lib Lib.Glob
  Limits.Policies Limits.RedisBucket Models Security.Upstreams

/-! ## Complete mediation -/

variable (ctx : Context) (history : History)

/-- What a call of the upstream is preceded by. -/
structure Mediated (call : ForwardCall) (rpc : JsonRpcRequest) (subject : Subject) : Prop where
  bounded : ctx.request.body.length ≤ ctx.settings.maxRequestBodyBytes
  parsed : parseRequest ctx.platform.jsonLimits ctx.request.body = .ok rpc
  preAuth : PreAuthAllowed ctx history
  authenticated : Authenticated history subject
  target : Resolved ctx history subject call.server
  url : call.upstreamUrl = call.server.upstreamUrl
  session : SessionOwned ctx history subject
  rate : RateAllowed ctx history subject (toolOrMethod rpc)
  permission : Permitted ctx history subject rpc

def Guarded (op : Op) : Prop :=
  ∀ call, op = .forward call → ∃ rpc subject, Mediated ctx history call rpc subject

/-- What every request of a handler is preceded by. -/
def Disciplined (op : Op) : Prop :=
  Guarded ctx history op ∧ SessionWrite ctx history op

/-- A condition on requests that the checks of a `POST` establish: it holds of every call
of the upstream that is mediated, and of every other request with a checked write. -/
structure Discipline (permitted : History → Op → Prop) : Prop where
  free : ∀ later op, isForward op = false → SessionWrite ctx later op → permitted later op
  serves : ∀ {later : History} {rpc : JsonRpcRequest} {subject : Subject} {server : McpServer}
    {method : String} {headers : Headers} {body : Encoding.Bytes} {stream : Bool},
    Mediated ctx later (forwardCall server method headers body stream) rpc subject →
      permitted later (.forward (forwardCall server method headers body stream))

theorem disciplined : Discipline ctx (Disciplined ctx) := by
  constructor
  · intro later op other write
    refine ⟨?_, write⟩
    rintro call rfl
    cases other
  · intro later rpc subject server method headers body stream mediated
    refine ⟨?_, trivial⟩
    intro call same
    rw [← Op.forward.inj same]
    exact ⟨rpc, subject, mediated⟩

theorem forward_ensures {permitted : History → Op → Prop} (call : ForwardCall)
    (rpcId : Option RpcId) {rlHeaders : Headers} (plain : Anonymous rlHeaders)
    (allowed : permitted history (.forward call)) :
    Ensures permitted history (forward ctx call rpcId rlHeaders)
      (fun later _ => SameReads history later) := by
  apply Ensures.bind (ensures_request allowed)
  rintro _ answer _ rfl
  cases answer with
  | ok upstream => exact ensures_pure (sameReads_concat _ _ _ rfl)
  | error exn =>
    cases exn with
    | upstreamError => exact ensures_jsonError plain
    | _ => exact ensures_raise

/-- The facts that hold when the permission check of a request has passed. -/
structure Admitted (rpc : JsonRpcRequest) (subject : Subject) (server : McpServer) : Prop where
  bounded : ctx.request.body.length ≤ ctx.settings.maxRequestBodyBytes
  parsed : parseRequest ctx.platform.jsonLimits ctx.request.body = .ok rpc
  preAuth : PreAuthAllowed ctx history
  authenticated : Authenticated history subject
  resolved : Resolved ctx history subject server
  session : SessionOwned ctx history subject
  permission : Permitted ctx history subject rpc

theorem Admitted.mono {ctx : Context} {history later : History} {rpc : JsonRpcRequest}
    {subject : Subject} {server : McpServer}
    (admitted : Admitted ctx history rpc subject server) (grown : history <+: later) :
    Admitted ctx later rpc subject server where
  bounded := admitted.bounded
  parsed := admitted.parsed
  preAuth := admitted.preAuth.mono grown
  authenticated := admitted.authenticated.mono grown
  resolved := admitted.resolved.mono grown
  session := admitted.session.mono grown
  permission := admitted.permission.mono grown

theorem Admitted.mediated {ctx : Context} {history : History} {rpc : JsonRpcRequest}
    {subject : Subject} {server : McpServer}
    (admitted : Admitted ctx history rpc subject server)
    (rate : RateAllowed ctx history subject (toolOrMethod rpc)) (method : String)
    (headers : Headers) (body : Encoding.Bytes) (stream : Bool) :
    Mediated ctx history (forwardCall server method headers body stream) rpc subject where
  bounded := admitted.bounded
  parsed := admitted.parsed
  preAuth := admitted.preAuth
  authenticated := admitted.authenticated
  target := admitted.resolved
  url := rfl
  session := admitted.session
  rate := rate
  permission := admitted.permission

theorem toolOrMethod_terminate (rpc : JsonRpcRequest)
    (terminates : rpc.method = .sessionTerminate) :
    toolOrMethod rpc = "session/terminate" := by
  have unnamed : resourceName rpc = none := by
    unfold resourceName
    rw [terminates]
    split <;> rfl
  rw [toolOrMethod, unnamed, terminates]
  rfl

section Handlers

variable {permitted : History → Op → Prop} {ctx : Context}
  (discipline : Discipline ctx permitted) (history : History) (rpc : JsonRpcRequest)
  (subject : Subject) (server : McpServer)

include discipline

theorem terminateSession_ensures (terminates : rpc.method = .sessionTerminate)
    (admitted : Admitted ctx history rpc subject server) :
    Ensures permitted history (terminateSession ctx subject server rpc) (fun _ _ => True) := by
  have free := discipline.free
  have plain := permits_plain free
  unfold terminateSession
  dsimp only
  split
  · exact ensures_error
  split
  · exact ensures_error
  apply Ensures.bind (lookup_ensures (permits_reads free) history _)
  rintro looked found lookedGrown ⟨lookedUp, _⟩
  cases found with
  | none => exact ensures_error
  | some record =>
    dsimp only
    split
    · exact ensures_error
    rename_i owned
    rw [Bool.not_eq_true, Bool.not_eq_false', matchesOwner_some] at owned
    rw [owned] at lookedUp
    apply Ensures.bind ((checkRateLimit_ensures ctx looked subject _ rpc.id).calm plain)
    rintro limited rlHeaders limitedGrown ⟨⟨rate, unnamed⟩, same⟩
    rw [← toolOrMethod_terminate rpc terminates] at rate
    have current := (admitted.mono lookedGrown).mono limitedGrown
    have write : SessionWrite ctx limited (.redisDelete _) :=
      ⟨subject, current.authenticated, lookedUp.after (same _)⟩
    apply Ensures.bind (delete_ensures limited _ (free _ _ rfl write))
    intro deleted _ deletedGrown _
    apply Ensures.bind ((buildUpstreamHeaders_ensures ctx deleted server).calm plain)
    intro built headers builtGrown _
    have grown := deletedGrown.trans builtGrown
    have mediated := (current.mono grown).mediated (rate.mono grown)
      ctx.request.method headers ctx.request.body false
    apply Ensures.bind (forward_ensures ctx built _ rpc.id unnamed (discipline.serves mediated))
    intro _ _ _ _
    apply Ensures.bind (ensures_request (plain _ _ rfl))
    intro _ _ _ _
    exact ensures_pure trivial

theorem proxyRequest_ensures (admitted : Admitted ctx history rpc subject server)
    (read : InboundRead ctx history subject) :
    Ensures permitted history (proxyRequest ctx subject server rpc) (fun _ _ => True) := by
  have free := discipline.free
  have plain := permits_plain free
  apply Ensures.bind ((checkRateLimit_ensures ctx history subject _ rpc.id).calm plain)
  rintro limited rlHeaders limitedGrown ⟨⟨rate, unnamed⟩, limitedSame⟩
  split
  · apply Ensures.bind (ensures_request (plain _ _ rfl))
    intro _ _ _ _
    exact ensures_pure trivial
  · apply Ensures.bind (ensures_request (plain _ _ rfl))
    rintro _ metered meteredGrown rfl
    apply Ensures.bind ((checkCap_ensures ctx _ subject rpc).calm plain)
    rintro capped _ cappedGrown ⟨_, cappedSame⟩
    apply Ensures.bind ((buildUpstreamHeaders_ensures ctx capped server).calm plain)
    rintro built headers builtGrown ⟨_, builtSame⟩
    have grown : limited <+: built := (meteredGrown.trans cappedGrown).trans builtGrown
    have current := (admitted.mono limitedGrown).mono grown
    have mediated := current.mediated (rate.mono grown) ctx.request.method headers
      ctx.request.body (wantsStream ctx)
    apply Ensures.bind (forward_ensures ctx built _ rpc.id unnamed (discipline.serves mediated))
    intro ans upstream answeredGrown answeredSame
    have same := limitedSame.trans ((sameReads_concat _ _ metered rfl).trans
      (cappedSame.trans (builtSame.trans answeredSame)))
    exact respondTo_ensures ans free subject rpc rlHeaders _ upstream
      (current.authenticated.mono answeredGrown) (read.after same)

theorem handlePost_ensures (bounded : ctx.request.body.length ≤ ctx.settings.maxRequestBodyBytes)
    (parsed : parseRequest ctx.platform.jsonLimits ctx.request.body = .ok rpc) :
    Ensures permitted history (handlePost ctx rpc) (fun _ _ => True) := by
  have free := discipline.free
  have plain := permits_plain free
  apply Ensures.bind ((runPreAuthChecks_ensures ctx history rpc.id).calm plain)
  rintro called subject _ ⟨⟨preAuth, authenticated⟩, _⟩
  apply Ensures.bind ((resolveServer_ensures ctx called subject rpc.id).calm plain)
  rintro located server locatedGrown ⟨resolved, _⟩
  apply Ensures.bind (validateSession_ensures (permits_reads free) located subject rpc.id)
  rintro owned _ ownedGrown ⟨session, read⟩
  apply Ensures.bind ((checkPermission_ensures ctx owned subject rpc).calm plain)
  rintro decided _ decidedGrown ⟨permission, same⟩
  have grown : called <+: decided := (locatedGrown.trans ownedGrown).trans decidedGrown
  have admitted : Admitted ctx decided rpc subject server :=
    { bounded := bounded
      parsed := parsed
      preAuth := preAuth.mono grown
      authenticated := authenticated.mono grown
      resolved := resolved.mono (ownedGrown.trans decidedGrown)
      session := session.mono decidedGrown
      permission := permission }
  split
  · rename_i terminates
    exact terminateSession_ensures discipline decided rpc subject server terminates admitted
  · exact proxyRequest_ensures discipline decided rpc subject server admitted (read.after same)

theorem answerPost_ensures : Ensures permitted history (answerPost ctx) (fun _ _ => True) := by
  apply Ensures.bind ((readRequest_ensures ctx history).permit fun _ _ => nofun)
  rintro later rpc _ ⟨bounded, parsed⟩
  exact (handlePost_ensures discipline later rpc bounded parsed).exceptAll
    fun _ _ => ensures_error

theorem mcpProxy_permits :
    Prog.Safe permitted (fun _ _ => True) (fun _ _ => True) [] (mcpProxy ctx) := by
  refine Prog.Safe.recover (?_ : Prog.Safe _ _ (fun _ _ => True) _ _) ?_
  · apply Prog.Safe.bind (Prog.Safe.request (discipline.free _ .pluginPreAuth rfl trivial))
    rintro asked answer _ rfl
    cases answer with
    | some resp => trivial
    | none =>
      have ans := answerPost_ensures discipline ([] ++ [⟨.pluginPreAuth, none⟩])
      unfold Ensures at ans
      exact ans.weaken
  · intro later exit _ _
    cases exit <;> trivial

end Handlers

theorem mcpProxy_disciplined (ctx : Context) :
    Prog.Safe (Disciplined ctx) (fun _ _ => True) (fun _ _ => True) [] (mcpProxy ctx) :=
  mcpProxy_permits (disciplined ctx)

theorem mcpProxy_safe (ctx : Context) :
    Prog.Safe (Guarded ctx) (fun _ _ => True) (fun _ _ => True) [] (mcpProxy ctx) :=
  (mcpProxy_disciplined ctx).permit fun _ _ disciplined => disciplined.1

/-- Complete mediation: in every run of the proxy, whatever the environment answers,
the part before a call of the upstream shows that every check passed. -/
theorem forward_only_after_every_check (ctx : Context) (run before after : History)
    (outcome : Except Exit Response) (runs : Prog.Runs (mcpProxy ctx) run outcome)
    (call : ForwardCall) (answer : Ans (.forward call))
    (called : run = before ++ ⟨.forward call, answer⟩ :: after) :
    ∃ rpc subject, Mediated ctx before call rpc subject :=
  (Prog.Safe.run runs (mcpProxy_safe ctx)).1 before ⟨.forward call, answer⟩ after called call rfl

theorem exists_forward_split (run : History)
    (forwarded : run.any (fun event => isForward event.op) = true) :
    ∃ before call answer after, run = before ++ ⟨.forward call, answer⟩ :: after := by
  obtain ⟨⟨op, answer⟩, mem, isCall⟩ := List.any_eq_true.mp forwarded
  obtain ⟨before, after, split⟩ := List.append_of_mem mem
  cases op with
  | forward call => exact ⟨before, call, answer, after, split⟩
  | _ => cases isCall

theorem forward_only_after_every_check_ping : ∃ before call answer after,
      Prog.trace (sampleSnapshot [] emptyUpstream).answer
          (mcpProxy (sampleContext "application/json" pingBody)) =
        before ++ ⟨.forward call, answer⟩ :: after ∧
      ∃ rpc subject,
        Mediated (sampleContext "application/json" pingBody) before call rpc subject := by
  obtain ⟨before, call, answer, after, split⟩ := exists_forward_split
    (Prog.trace (sampleSnapshot [] emptyUpstream).answer
      (mcpProxy (sampleContext "application/json" pingBody))) (by decide +kernel)
  exact ⟨before, call, answer, after, split,
    forward_only_after_every_check (sampleContext "application/json" pingBody) _ before after _
      (Prog.runs_exec _ _) call answer split⟩

/-! ## Default deny -/

/-- No rule of the list allows anything on the server. -/
def NoAllowRule (serverSlug : String) (permissions : List ToolPermission) : Prop :=
  ∀ rule ∈ permissions, fnmatchcase serverSlug rule.serverPattern = true → rule.effect ≠ .allow

/-- A caller without an allow rule for the server reaches it with none of the methods
that require a permission. -/
theorem gated_methods_unreachable_without_allow (ctx : Context) (run : History)
    (outcome : Except Exit Response) (runs : Prog.Runs (mcpProxy ctx) run outcome)
    (noAllow : ∀ (subject : Subject) permissions,
      Saw run (.permissionsForSubject subject.tenantId subject.subjectType
        subject.subjectId) (.ok permissions) →
        NoAllowRule ctx.request.serverSlug permissions)
    (gated : ∀ rpc, parseRequest ctx.platform.jsonLimits ctx.request.body = .ok rpc →
      rbacRequired rpc.method = true) :
    ∀ event ∈ run, isForward event.op = false := by
  by_contra reached
  have forwarded : run.any (fun event => isForward event.op) = true := by
    push Not at reached
    obtain ⟨event, mem, isCall⟩ := reached
    exact List.any_eq_true.mpr ⟨event, mem, by simpa using isCall⟩
  obtain ⟨before, call, answer, after, split⟩ := exists_forward_split run forwarded
  obtain ⟨rpc, subject, mediated⟩ := (Prog.Safe.run runs (mcpProxy_safe ctx)).1
    before ⟨.forward call, answer⟩ after split call rfl
  obtain ⟨name, permissions, _, saw, allowed⟩ :=
    mediated.permission (gated rpc mediated.parsed)
  obtain ⟨rule, mem, matched, effect⟩ := exists_allow_of_allowed fnmatchcase
    subject.subjectId ctx.request.serverSlug name permissions allowed
  have inRun : before <+: run := ⟨_, split.symm⟩
  have matchesServer := (Bool.and_eq_true_iff.mp matched).1
  exact noAllow subject permissions (saw.mono inRun) rule mem matchesServer effect

theorem gated_methods_unreachable_without_allow_sample :
    parseRequest pythonLimits twoNamesBody = .ok ⟨.toolsCall, some (.int 1),
        some [("name", .str "read_file")]⟩ ∧
      ∀ event ∈ Prog.trace (sampleSnapshot [] emptyUpstream).answer
          (mcpProxy (sampleContext "application/json" twoNamesBody)),
        isForward event.op = false := by
  have decided : parseRequest pythonLimits twoNamesBody =
      .ok ⟨.toolsCall, some (.int 1), some [("name", .str "read_file")]⟩ := by
    decide +kernel
  refine ⟨decided, gated_methods_unreachable_without_allow
    (sampleContext "application/json" twoNamesBody) _ _ (Prog.runs_exec _ _) ?_ ?_⟩
  · intro subject perms saw
    have ans := Prog.answer_of_mem_trace _ _ _ saw
    have noRows : perms = [] := Except.ok.inj ans
    rw [noRows]
    intro rule mem
    cases mem
  · intro rpc parsed
    rw [← Except.ok.inj (decided.symm.trans parsed)]
    rfl

/-- A subject without a single rule has its `tools/list` forwarded; only the answer is
filtered. -/
theorem list_forwarded_without_rules :
    (sampleDatabase []).getPermissionsForSubject sampleSubject.tenantId
        sampleSubject.subjectType sampleSubject.subjectId = [] ∧
      ∃ run outcome, Prog.Runs (mcpProxy (sampleContext "application/json" listBody)) run outcome ∧
        ∃ event ∈ run, isForward event.op = true := by
  refine ⟨rfl, _, _, Prog.runs_exec (sampleSnapshot [] emptyUpstream).answer _, ?_⟩
  apply List.any_eq_true.mp
  decide +kernel

end Portcullis.Gateway.Mediation
