import Portcullis.Gateway.Checks

/-!
# Runs of the proxy handlers, stage by stage

Where a run of each stage may stop and what it consists of when it goes on.  Statements
about whole runs of a handler are read off these.
-/

namespace Portcullis.Gateway.Stages

open Auth.Rbac Auth.ToolFilter Gateway.JsonRpc Gateway.Mediation Gateway.Router Gateway.Session Lib
  Models List

/-! ## Identity -/

/-- The caller is the one subject the authenticator named, and nothing was recorded. -/
structure Identified (run : History) (subject : Subject) : Prop where
  uses : Of [.preAuth, .identity] run
  only : ∀ other, Authenticated run other ↔ other = subject

def namesCaller (subject : Subject) (event : Event Op Ans) : Bool :=
  match event with
  | ⟨.authenticate _, .ok caller⟩ => decide (caller = subject)
  | _ => false

instance (run : History) (subject : Subject) : Decidable (Authenticated run subject) :=
  decidable_of_iff (∃ event ∈ run, namesCaller subject event = true) <| by
    constructor
    · rintro ⟨⟨op, answer⟩, member, named⟩
      unfold namesCaller at named
      split at named
      · rename_i token caller same
        cases same
        rw [of_decide_eq_true named] at member
        exact ⟨token, member⟩
      · cases named
    · rintro ⟨token, saw⟩
      exact ⟨_, saw, decide_eq_true rfl⟩

section Identity

variable {ctx : Context} {rpcId : Option RpcId} {run : History}

theorem authenticateCaller_run {outcome : Except Exit Subject}
    (runs : Prog.Runs (authenticateCaller ctx rpcId) run outcome) (subject : Subject) :
    (Authenticated run subject ↔ outcome = .ok subject) ∧
      (outcome = .ok subject → Of [.identity] run) := by
  unfold authenticateCaller at runs
  dsimp only at runs
  split at runs
  · obtain ⟨rfl, rfl⟩ := respond_run runs
    simp [Authenticated, Saw]
  obtain ⟨answer, rest, rfl, named⟩ := request_bind_run runs
  rcases answer with exn | found
  · cases exn with
    | valueError =>
      obtain ⟨_, rest, rfl, refused⟩ := request_bind_run named
      obtain ⟨rfl, rfl⟩ := respond_run refused
      simp [Authenticated, Saw]
    | _ =>
      obtain ⟨rfl, rfl⟩ := raise_run named
      simp [Authenticated, Saw]
  · obtain ⟨rfl, rfl⟩ := pure_run named
    simp [Authenticated, Saw, Of, kind, eq_comm]

theorem runPreAuthChecks_run {outcome : Except Exit Subject}
    (runs : Prog.Runs (runPreAuthChecks ctx rpcId) run outcome) (subject : Subject) :
    (Authenticated run subject ↔ outcome = .ok subject) ∧
      (outcome = .ok subject → Of [.preAuth, .identity] run) := by
  rcases runs.bind_cases with ⟨exit, checked, rfl⟩ | ⟨first, _, rest, rfl, checked, caller⟩ <;>
    have before := (checkPreAuth_ensures ctx [] rpcId).of checked
  · exact ⟨iff_of_false (fun ⟨_, saw⟩ => before.absent (by simp [kind]) _ saw) nofun, nofun⟩
  obtain ⟨named, uses⟩ := authenticateCaller_run caller subject
  rw [← named] at uses ⊢
  have later : Authenticated (first ++ rest) subject ↔ Authenticated rest subject :=
    exists_congr fun token => mem_append.trans
      (or_iff_right fun early => before.absent (by simp [kind]) _ early)
  exact ⟨later, fun same => of_append before.mono ((uses same).mono)⟩

theorem runPreAuthChecks_identified {subject : Subject}
    (runs : Prog.Runs (runPreAuthChecks ctx rpcId) run (.ok subject)) : Identified run subject where
  uses := (runPreAuthChecks_run runs subject).2 rfl
  only other := (runPreAuthChecks_run runs other).1.trans
    ⟨fun same => (Except.ok.inj same).symm, fun same => congrArg Except.ok same.symm⟩

theorem runPreAuthChecks_failed {exit : Exit}
    (runs : Prog.Runs (runPreAuthChecks ctx rpcId) run (.error exit)) (subject : Subject) :
    ¬ Authenticated run subject :=
  fun named => nomatch (runPreAuthChecks_run runs subject).1.mp named

end Identity

/-! ## Permission -/

/-- The rules of the subject were read and do not allow the resource. -/
def Denied (ctx : Context) (run : History) (subject : Subject) (rpc : JsonRpcRequest) : Prop :=
  ∃ resource permissions decision, resourceName rpc = some resource ∧
    Saw run (.permissionsForSubject subject.tenantId subject.subjectType subject.subjectId)
      (.ok permissions) ∧
    evaluateOn ctx subject resource permissions = .ok decision ∧ decision.allowed = false

def denialRecord (ctx : Context) (subject : Subject) (rpc : JsonRpcRequest) (resource : Json)
    (decision : PermissionDecision) : AuditRecord :=
  callerRecord ctx subject rpc .rbacDeny "denied" (some resource) (denialDetail decision)

section Permission

variable {ctx : Context} {subject : Subject} {rpc : JsonRpcRequest} {run : History}

theorem checkPermission_run {outcome : Except Exit Unit}
    (runs : Prog.Runs (checkPermission ctx subject rpc) run outcome) :
    (Of [.permissions] run ∧ ¬ Denied ctx run subject rpc) ∨
      ∃ exit resource perms decision metered recorded, outcome = .error exit ∧
        resourceName rpc = some resource ∧
        evaluateOn ctx subject resource perms = .ok decision ∧
        decision.allowed = false ∧
        run = [⟨.permissionsForSubject subject.tenantId subject.subjectType subject.subjectId,
            .ok perms⟩,
          ⟨.recordUsageQueued ⟨subject.tenantId, 0, 0, 1, 0⟩, metered⟩,
          ⟨.recordEvent (denialRecord ctx subject rpc resource decision), recorded⟩] := by
  have unasked : Of [.permissions] [] ∧ ¬ Denied ctx [] subject rpc :=
    ⟨of_nil _, by rintro ⟨_, _, _, _, saw, _⟩; cases saw⟩
  unfold checkPermission at runs
  split at runs
  · obtain ⟨rfl, _⟩ := pure_run runs
    exact .inl unasked
  split at runs
  · obtain ⟨rfl, _⟩ := respond_run runs
    exact .inl unasked
  rename_i resource named
  obtain ⟨answer, rest, rfl, asked⟩ := request_bind_run runs
  have undenied : (∀ perms decision, answer = .ok perms →
      evaluateOn ctx subject resource perms = .ok decision → decision.allowed = true) →
      rest = [] → Of [.permissions] (⟨_, answer⟩ :: rest) ∧
        ¬ Denied ctx (⟨_, answer⟩ :: rest) subject rpc := by
    rintro grants rfl
    refine ⟨by simp [Of, kind], ?_⟩
    rintro ⟨other, rules, found, sameName, saw, evaluated, refused⟩
    cases mem_singleton.mp saw
    cases named.symm.trans sameName
    cases refused.symm.trans (grants rules found rfl evaluated)
  rcases orRaise_bind_run asked with ⟨exn, rfl, rfl, _⟩ | ⟨perms, rfl, read⟩
  · exact .inl (undenied (by rintro _ _ ⟨⟩) rfl)
  rcases orRaise_bind_run read with ⟨exn, raised, rfl, _⟩ | ⟨decision, decided, settled⟩
  · refine .inl (undenied ?_ rfl)
    rintro _ _ ⟨⟩ evaluated
    cases raised.symm.trans evaluated
  split at settled
  · rename_i allowed
    obtain ⟨rfl, _⟩ := pure_run settled
    refine .inl (undenied ?_ rfl)
    rintro _ _ ⟨⟩ evaluated
    cases decided.symm.trans evaluated
    exact allowed
  · rename_i refused
    obtain ⟨metered, rest, rfl, counted⟩ := request_bind_run settled
    obtain ⟨recorded, rest, rfl, ended⟩ := request_bind_run counted
    obtain ⟨rfl, rfl⟩ := respond_run ended
    exact .inr ⟨_, resource, perms, decision, metered, recorded, rfl, named, decided,
      by simpa using refused, rfl⟩

theorem checkPermission_passed {granted : Unit}
    (runs : Prog.Runs (checkPermission ctx subject rpc) run (.ok granted)) :
    Of [.permissions] run ∧ ¬ Denied ctx run subject rpc :=
  (checkPermission_run runs).resolve_right fun ⟨_, _, _, _, _, _, same, _⟩ => nomatch same

end Permission

/-! ## Rate limit -/

/-- The limiter answered a check of the run. -/
def Limited (run : History) (allowed : Bool) : Prop :=
  ∃ key policy result, Saw run (.limiterCheck key policy) (.ok result) ∧ result.allowed = allowed

def isVerdict (allowed : Bool) (event : Event Op Ans) : Bool :=
  match event with
  | ⟨.limiterCheck _ _, .ok result⟩ => result.allowed == allowed
  | _ => false

instance (run : History) (allowed : Bool) : Decidable (Limited run allowed) :=
  decidable_of_iff (∃ event ∈ run, isVerdict allowed event = true) <| by
    constructor
    · rintro ⟨⟨op, answer⟩, member, verdict⟩
      unfold isVerdict at verdict
      split at verdict
      · rename_i key policy result same
        cases same
        exact ⟨key, policy, result, member, by simpa using verdict⟩
      · cases verdict
    · rintro ⟨key, policy, result, saw, same⟩
      exact ⟨_, saw, by simp [isVerdict, same]⟩

variable {allowed : Bool} {first rest : History}

theorem Limited.append (limited : Limited (first ++ rest) allowed) :
    Limited first allowed ∨ Limited rest allowed := by
  obtain ⟨key, policy, result, saw, same⟩ := limited
  rcases mem_append.mp saw with before | after
  · exact .inl ⟨key, policy, result, before, same⟩
  · exact .inr ⟨key, policy, result, after, same⟩

theorem Limited.after (limited : Limited rest allowed) (first : History) :
    Limited (first ++ rest) allowed := by
  obtain ⟨key, policy, result, saw, same⟩ := limited
  exact ⟨key, policy, result, mem_append_right _ saw, same⟩

theorem Limited.before (limited : Limited first allowed) (rest : History) :
    Limited (first ++ rest) allowed := by
  obtain ⟨key, policy, result, saw, same⟩ := limited
  exact ⟨key, policy, result, mem_append_left _ saw, same⟩

theorem Of.not_limited {kinds : List Kind} {run : History} (within : Of kinds run)
    (allowed : Bool) (other : Kind.limits ∉ kinds := by decide) : ¬ Limited run allowed := by
  rintro ⟨key, policy, result, saw, _⟩
  exact other (within ⟨.limiterCheck key policy, .ok result⟩ saw)

/-- A passed rate-limit check: the limiter allowed the call. -/
structure Allowance (run : History) (rlHeaders : Headers) : Prop where
  uses : Of [.limits] run
  allowed : Limited run true
  unrefused : ¬ Limited run false
  headers : ∃ result, rlHeaders = rateLimitHeaders result

section RateLimit

variable {ctx : Context} {subject : Subject} {toolOrMethod : String} {rpcId : Option RpcId}
  {run : History}

theorem checkRateLimit_run {outcome : Except Exit Headers}
    (runs : Prog.Runs (checkRateLimit ctx subject toolOrMethod rpcId) run outcome) :
    (¬ Limited run true ∧ ∃ exit, outcome = .error exit) ∨
      ∃ rlHeaders, Allowance run rlHeaders ∧ outcome = .ok rlHeaders := by
  obtain ⟨listed, rest, rfl, asked⟩ := request_bind_run runs
  rcases orRaise_bind_run asked with ⟨_, _, rfl, rfl⟩ | ⟨policies, rfl, read⟩
  · exact .inl ⟨by simp [Limited, Saw], _, rfl⟩
  rcases orRaise_bind_run read with ⟨_, _, rfl, rfl⟩ | ⟨policy, _, resolved⟩
  · exact .inl ⟨by simp [Limited, Saw], _, rfl⟩
  obtain ⟨answer, rest, rfl, checked⟩ := request_bind_run resolved
  rcases answer with exn | result
  · cases exn with
    | redisError =>
      obtain ⟨rfl, rfl⟩ := respond_run checked
      exact .inl ⟨by simp [Limited, Saw], _, rfl⟩
    | _ =>
      obtain ⟨rfl, rfl⟩ := raise_run checked
      exact .inl ⟨by simp [Limited, Saw], _, rfl⟩
  · dsimp only at checked
    split at checked
    · rename_i allowed
      obtain ⟨rfl, rfl⟩ := pure_run checked
      exact .inr ⟨_, ⟨by simp [Of, kind], by simp [Limited, Saw, allowed],
        by simp [Limited, Saw, allowed], result, rfl⟩, rfl⟩
    · rename_i refused
      obtain ⟨_, rest, rfl, ended⟩ := request_bind_run checked
      obtain ⟨rfl, rfl⟩ := respond_run ended
      exact .inl ⟨by simp [Limited, Saw, refused], _, rfl⟩

theorem checkRateLimit_passed {rlHeaders : Headers}
    (runs : Prog.Runs (checkRateLimit ctx subject toolOrMethod rpcId) run (.ok rlHeaders)) :
    Allowance run rlHeaders := by
  obtain ⟨_, _, no⟩ | ⟨_, allowance, ⟨⟩⟩ := checkRateLimit_run runs
  · cases no
  · exact allowance

theorem checkRateLimit_failed {exit : Exit}
    (runs : Prog.Runs (checkRateLimit ctx subject toolOrMethod rpcId) run (.error exit)) :
    ¬ Limited run true :=
  (checkRateLimit_run runs).elim And.left fun ⟨_, _, no⟩ => nomatch no

end RateLimit

/-! ## Upstream response -/

def inboundId (ctx : Context) : String := (ctx.request.header "mcp-session-id").getD ""

def issuedId (upstream : UpstreamResponse) : String :=
  (upstream.header "mcp-session-id").getD ""

def ownText (ctx : Context) (subject : Subject) : String :=
  payloadText subject.tenantId subject.subjectId ctx.request.serverSlug

/-- The deletion of an inbound session that the issued one replaces. -/
def replacing (ctx : Context) (upstream : UpstreamResponse) (answer : Except Exn Unit) : History :=
  if inboundId ctx ≠ "" ∧ inboundId ctx ≠ issuedId upstream then
    [⟨.redisDelete (sessionKey (inboundId ctx)), answer⟩]
  else []

def recording (ctx : Context) (subject : Subject) (upstream : UpstreamResponse)
    (answer : Except Exn Unit) : Event Op Ans :=
  ⟨.redisSet (sessionKey (issuedId upstream)) (ownText ctx subject) sessionTtlSeconds, answer⟩

inductive PersistRun (ctx : Context) (subject : Subject) (upstream : UpstreamResponse) :
    History → Except Exit Headers → Prop where
  | unissued (absent : issuedId upstream = "" ∨ isValidSessionId (issuedId upstream) = false) :
      PersistRun ctx subject upstream [] (.ok [])
  | refused {reads : History} {exit : Exit}
      (valid : isValidSessionId (issuedId upstream) = true) (uses : Of [.sessionRead] reads) :
      PersistRun ctx subject upstream reads (.error exit)
  | recorded {reads : History} {dropped : Except Exn Unit}
      (valid : isValidSessionId (issuedId upstream) = true) (uses : Of [.sessionRead] reads) :
      PersistRun ctx subject upstream
        (reads ++ replacing ctx upstream dropped ++ [recording ctx subject upstream (.ok ())])
        (.ok [("Mcp-Session-Id", issuedId upstream)])
  | unrecorded {reads : History} {dropped : Except Exn Unit} {exn : Exn}
      (valid : isValidSessionId (issuedId upstream) = true) (uses : Of [.sessionRead] reads) :
      PersistRun ctx subject upstream
        (reads ++ replacing ctx upstream dropped ++ [recording ctx subject upstream (.error exn)])
        (.error (.raise exn))

section Response

variable {ctx : Context} {subject : Subject} {rpc : JsonRpcRequest} {rpcId : Option RpcId}
  {upstream : UpstreamResponse} {run : History}

theorem dropReplaced_run {outcome : Except Exit Unit}
    (runs : Prog.Runs (dropReplaced (inboundId ctx) (issuedId upstream)) run outcome) :
    ∃ dropped, run = replacing ctx upstream dropped ∧ outcome = .ok () := by
  unfold dropReplaced delete at runs
  unfold replacing
  split at runs
  · rename_i replaced
    obtain ⟨answer, rest, rfl, ended⟩ := request_bind_run runs
    obtain ⟨rfl, rfl⟩ := pure_run ended
    exact ⟨answer, by rw [if_pos replaced], rfl⟩
  · rename_i kept
    obtain ⟨rfl, rfl⟩ := pure_run runs
    exact ⟨.ok (), by rw [if_neg kept], rfl⟩

theorem persistSession_run {outcome : Except Exit Headers}
    (runs : Prog.Runs (persistSession ctx subject rpcId upstream) run outcome) :
    PersistRun ctx subject upstream run outcome := by
  unfold persistSession at runs
  dsimp only at runs
  split at runs
  · rename_i absent
    obtain ⟨rfl, rfl⟩ := pure_run runs
    exact .unissued absent
  · rename_i issued
    have shaped : isValidSessionId ((upstream.header "mcp-session-id").getD "") = true := by
      simpa using (not_or.mp issued).2
    have valid : isValidSessionId (issuedId upstream) = true := shaped
    rcases runs.bind_cases with ⟨exit, failed, rfl⟩ | ⟨reads, old, rest, rfl, looked, later⟩
    · exact .refused valid (lookup_of failed)
    have reading := lookup_of looked
    split at later
    · obtain ⟨rfl, rfl⟩ := respond_run later
      exact .refused valid (by simpa using reading)
    rcases later.bind_cases with ⟨exit, failed, _⟩ | ⟨drops, _, rest, rfl, dropping, setting⟩
    · obtain ⟨_, _, no⟩ := dropReplaced_run failed
      cases no
    obtain ⟨dropped, rfl, _⟩ := dropReplaced_run dropping
    unfold record at setting
    rw [if_pos shaped] at setting
    rcases setting.bind_cases with ⟨exit, failed, rfl⟩ | ⟨first, _, rest, rfl, written, ended⟩
    · obtain ⟨answer, rest, rfl, raised⟩ := request_bind_run failed
      cases answer with
      | ok value => cases (pure_run raised).2
      | error exn =>
        obtain ⟨rfl, same⟩ := raise_run raised
        cases same
        rw [← append_assoc]
        exact .unrecorded valid reading
    · obtain ⟨answer, rest, rfl, raised⟩ := request_bind_run written
      obtain ⟨rfl, rfl⟩ := pure_run ended
      cases answer with
      | error exn => cases (raise_run raised).2
      | ok value =>
        obtain ⟨rfl, _⟩ := pure_run raised
        rw [append_nil, ← append_assoc]
        exact .recorded valid reading

/-- A buffered upstream body is within the configured bounds. -/
def fitsBuffer (ctx : Context) (upstream : UpstreamResponse) : Bool :=
  match declaredTooLarge (upstream.header "content-length") ctx.settings.maxResponseBodyBytes with
  | .ok declared =>
    !declared && decide (upstream.content.length ≤ ctx.settings.maxResponseBodyBytes)
  | .error _ => false

theorem checkResponseSize_run {stream : Bool} {outcome : Except Exit Unit}
    (runs : Prog.Runs (checkResponseSize ctx rpcId stream upstream) run outcome) :
    run = [] ∧ (outcome = .ok () ↔ stream = true ∨ fitsBuffer ctx upstream = true) := by
  unfold checkResponseSize at runs
  split at runs
  · rename_i streamed
    obtain ⟨rfl, rfl⟩ := pure_run runs
    simp [streamed]
  · rename_i buffered
    simp only [buffered, fitsBuffer]
    rcases orRaise_bind_run runs with ⟨exn, raised, rfl, rfl⟩ | ⟨declared, read, sized⟩
    · simp [raised]
    rw [read]
    split at sized
    · rename_i tooLarge
      obtain ⟨rfl, rfl⟩ := respond_run sized
      simp [tooLarge]
    · rename_i small
      split at sized
      · rename_i long
        obtain ⟨rfl, rfl⟩ := respond_run sized
        simp [long]
      · rename_i short
        obtain ⟨rfl, rfl⟩ := pure_run sized
        simp only [true_and, true_iff, Bool.and_eq_true, decide_eq_true_eq]
        exact .inr ⟨by simpa using small, not_lt.mp short⟩

def allowedRecord (ctx : Context) (subject : Subject) (rpc : JsonRpcRequest)
    (upstream : UpstreamResponse) : AuditRecord :=
  callerRecord ctx subject rpc .toolCall "allowed" (resourceName rpc)
    (.obj [("upstream_status", .int upstream.statusCode)])

def auditing (ctx : Context) (subject : Subject) (rpc : JsonRpcRequest)
    (upstream : UpstreamResponse) : History :=
  if isAudited rpc.method ∧ upstream.statusCode < 500 then
    [⟨.recordEvent (allowedRecord ctx subject rpc upstream), ()⟩]
  else []

/-- The response is handed on as it streams. -/
def streams (upstream : UpstreamResponse) (stream : Bool) : Bool :=
  isEventStream ((upstream.header "content-type").getD "") || stream

inductive AnswerRun (ctx : Context) (subject : Subject) (rpc : JsonRpcRequest)
    (rlHeaders : Headers) (stream : Bool) (upstream : UpstreamResponse) :
    History → Except Exit Response → Prop where
  | notified (notification : rpc.id = none) : AnswerRun ctx subject rpc rlHeaders stream upstream []
        (.ok (notificationResponse ctx upstream rlHeaders))
  | oversized {exit : Exit} (named : rpc.id ≠ none) (buffered : stream = false)
      (large : fitsBuffer ctx upstream = false) :
      AnswerRun ctx subject rpc rlHeaders stream upstream [] (.error exit)
  | unpersisted {persisting : History} {exit : Exit} (named : rpc.id ≠ none)
      (sized : stream = true ∨ fitsBuffer ctx upstream = true)
      (persist : PersistRun ctx subject upstream persisting (.error exit)) :
      AnswerRun ctx subject rpc rlHeaders stream upstream persisting (.error exit)
  | streamed {persisting : History} {sessionHeaders : Headers} (named : rpc.id ≠ none)
      (sized : stream = true ∨ fitsBuffer ctx upstream = true)
      (persist : PersistRun ctx subject upstream persisting (.ok sessionHeaders))
      (streaming : streams upstream stream = true) :
      AnswerRun ctx subject rpc rlHeaders stream upstream persisting (.ok (rawResponse upstream
          (rlHeaders ++ requestIdHeaders ctx.request ++ sessionHeaders) "text/event-stream"))
  | filtered {persisting filtering : History} {sessionHeaders : Headers}
      {outcome : Except Exit Response} {keys : String × String} (named : rpc.id ≠ none)
      (sized : stream = true ∨ fitsBuffer ctx upstream = true)
      (persist : PersistRun ctx subject upstream persisting (.ok sessionHeaders))
      (buffered : streams upstream stream = false) (listing : listKeys rpc.method = some keys)
      (filter : Prog.Runs (filteredResponse ctx subject keys.1 keys.2 upstream
        (rlHeaders ++ requestIdHeaders ctx.request ++ sessionHeaders)) filtering outcome) :
      AnswerRun ctx subject rpc rlHeaders stream upstream (persisting ++ filtering) outcome
  | buffered {persisting : History} {sessionHeaders : Headers} (named : rpc.id ≠ none)
      (sized : stream = true ∨ fitsBuffer ctx upstream = true)
      (persist : PersistRun ctx subject upstream persisting (.ok sessionHeaders))
      (buffered : streams upstream stream = false) (unlisted : listKeys rpc.method = none) :
      AnswerRun ctx subject rpc rlHeaders stream upstream
        (persisting ++ auditing ctx subject rpc upstream)
        (.ok (rawResponse upstream
          (rlHeaders ++ requestIdHeaders ctx.request ++ sessionHeaders) "application/json"))

theorem PersistRun.uses {outcome : Except Exit Headers}
    (runs : PersistRun ctx subject upstream run outcome) :
    Of [.sessionRead, .sessionWrite] run := by
  have written : ∀ (reads : History) (dropped answer : Except Exn Unit),
      Of [.sessionRead] reads → Of [.sessionRead, .sessionWrite]
        (reads ++ replacing ctx upstream dropped ++ [recording ctx subject upstream answer]) := by
    intro reads dropped answer reading
    apply of_append (of_append reading.mono ?_) (by simp [Of, recording, kind])
    unfold replacing
    split <;> simp [Of, kind]
  cases runs with
  | unissued _ => exact of_nil _
  | refused _ reading => exact reading.mono
  | recorded _ reading => exact written _ _ _ reading
  | unrecorded _ reading => exact written _ _ _ reading

variable {outcome : Except Exit Response}

theorem AnswerRun.uses {rlHeaders : Headers} {stream : Bool}
    (runs : AnswerRun ctx subject rpc rlHeaders stream upstream run outcome) :
    Of [.sessionRead, .sessionWrite, .permissions, .audit] run := by
  cases runs with
  | notified _ => exact of_nil _
  | oversized _ _ _ => exact of_nil _
  | unpersisted _ _ persist => exact persist.uses.mono
  | streamed _ _ persist _ => exact persist.uses.mono
  | filtered _ _ persist _ _ filter =>
    exact of_append persist.uses.mono
      (((filteredResponse_ensures ctx [] subject _ _ upstream _).of filter).mono)
  | buffered _ _ persist _ _ =>
    apply of_append persist.uses.mono
    unfold auditing
    split <;> simp [Of, kind]

theorem bufferedResponse_run {headers : Headers}
    (runs : Prog.Runs (bufferedResponse ctx subject rpc upstream headers) run outcome) :
    run = auditing ctx subject rpc upstream ∧
      outcome = .ok (rawResponse upstream headers "application/json") := by
  unfold bufferedResponse auditCall at runs
  unfold auditing
  split at runs
  · rename_i audited
    obtain ⟨_, rest, rfl, ended⟩ := request_bind_run runs
    obtain ⟨rfl, rfl⟩ := pure_run ended
    exact ⟨by rw [if_pos audited]; rfl, rfl⟩
  · rename_i unaudited
    obtain ⟨rfl, rfl⟩ := pure_run runs
    exact ⟨by rw [if_neg unaudited], rfl⟩

theorem respondTo_run {rlHeaders : Headers} {stream : Bool}
    (runs : Prog.Runs (respondTo ctx subject rpc rlHeaders stream upstream) run outcome) :
    AnswerRun ctx subject rpc rlHeaders stream upstream run outcome := by
  unfold respondTo at runs
  split at runs
  · rename_i notification
    obtain ⟨rfl, rfl⟩ := pure_run runs
    exact .notified (Option.isNone_iff_eq_none.mp notification)
  · rename_i request
    have named : rpc.id ≠ none := fun absent => request (Option.isNone_iff_eq_none.mpr absent)
    rcases runs.bind_cases with ⟨exit, failed, rfl⟩ | ⟨first, _, rest, rfl, passed, later⟩
    · obtain ⟨rfl, sized⟩ := checkResponseSize_run failed
      have large : ¬ (stream = true ∨ fitsBuffer ctx upstream = true) :=
        fun fits => by cases sized.mpr fits
      simp only [not_or, Bool.not_eq_true] at large
      exact .oversized named large.1 large.2
    obtain ⟨rfl, sized⟩ := checkResponseSize_run passed
    have fits := sized.mp rfl
    rw [nil_append]
    rcases later.bind_cases with ⟨exit, failed, rfl⟩ |
      ⟨persisting, sessionHeaders, rest, rfl, persisted, answering⟩
    · exact .unpersisted named fits (persistSession_run failed)
    have persist := persistSession_run persisted
    split at answering
    · rename_i streaming
      obtain ⟨rfl, rfl⟩ := pure_run answering
      rw [append_nil]
      exact .streamed named fits persist streaming
    · rename_i buffered
      have held : streams upstream stream = false := by simpa [streams] using buffered
      split at answering
      · rename_i listKey nameKey listing
        exact .filtered named fits persist held listing answering
      · rename_i unlisted
        obtain ⟨rfl, rfl⟩ := bufferedResponse_run answering
        exact .buffered named fits persist held unlisted

end Response

/-! ## Forwarding -/

section Forwarding

variable {ctx : Context} {subject : Subject} {server : McpServer} {rpc : JsonRpcRequest}
  {rpcId : Option RpcId} {run : History}

theorem forward_run {call : ForwardCall} {rlHeaders : Headers}
    {outcome : Except Exit UpstreamResponse}
    (runs : Prog.Runs (forward ctx call rpcId rlHeaders) run outcome) :
    (∃ upstream, run = [⟨.forward call, .ok upstream⟩] ∧ outcome = .ok upstream) ∨
      ∃ exn exit, run = [⟨.forward call, .error exn⟩] ∧ outcome = .error exit := by
  obtain ⟨answer, rest, rfl, ans⟩ := request_bind_run runs
  cases answer with
  | ok upstream =>
    obtain ⟨rfl, rfl⟩ := pure_run ans
    exact .inl ⟨upstream, rfl, rfl⟩
  | error exn =>
    right
    cases exn with
    | upstreamError =>
      obtain ⟨rfl, rfl⟩ := respond_run ans
      exact ⟨_, _, rfl, rfl⟩
    | _ =>
      obtain ⟨rfl, rfl⟩ := raise_run ans
      exact ⟨_, _, rfl, rfl⟩

theorem buildUpstreamHeaders_run {outcome : Except Exit Headers}
    (runs : Prog.Runs (buildUpstreamHeaders ctx server) run outcome) :
    Of [.environ] run ∧ ∃ headers, outcome = .ok headers := by
  refine ⟨(buildUpstreamHeaders_ensures ctx [] server).of runs, ?_⟩
  unfold buildUpstreamHeaders serviceTokenOf extractServiceToken at runs
  split at runs
  · split at runs
    · exact ⟨_, (pure_run runs).2⟩
    split at runs
    · exact ⟨_, (pure_run runs).2⟩
    · obtain ⟨value, rest, rfl, ended⟩ := request_bind_run runs
      exact ⟨_, (pure_run ended).2⟩
  · exact ⟨_, (pure_run runs).2⟩

theorem send_run {Value : Type} {call : Headers → ForwardCall} {rlHeaders : Headers}
    {next : UpstreamResponse → Gate Value} {outcome : Except Exit Value}
    (runs : Prog.Runs (do
      let headers ← buildUpstreamHeaders ctx server
      let upstream ← forward ctx (call headers) rpcId rlHeaders
      next upstream) run outcome) :
    ∃ building headers, Of [.environ] building ∧
      ((∃ exn exit, run = building ++ [⟨.forward (call headers), .error exn⟩] ∧
          outcome = .error exit) ∨
        ∃ upstream rest, run = building ++ ⟨.forward (call headers), .ok upstream⟩ :: rest ∧
          Prog.Runs (next upstream) rest outcome) := by
  rcases runs.bind_cases with ⟨exit, failed, rfl⟩ | ⟨building, headers, rest, rfl, built, ahead⟩
  · obtain ⟨_, _, no⟩ := buildUpstreamHeaders_run failed
    cases no
  refine ⟨building, headers, (buildUpstreamHeaders_run built).1, ?_⟩
  rcases ahead.bind_cases with ⟨exit, failed, rfl⟩ | ⟨sending, upstream, rest, rfl, sent, later⟩
  · rcases forward_run failed with ⟨_, _, no⟩ | ⟨exn, _, rfl, _⟩
    · cases no
    · exact .inl ⟨exn, exit, rfl, rfl⟩
  · rcases forward_run sent with ⟨_, rfl, same⟩ | ⟨_, _, _, no⟩
    · cases same
      exact .inr ⟨upstream, rest, rfl, later⟩
    · cases no

def explainRecord (ctx : Context) (subject : Subject) (rpc : JsonRpcRequest) : AuditRecord :=
  callerRecord ctx subject rpc .toolCall "allowed" (resourceName rpc)
    (.obj [("dry_run", .bool true)])

/-- Every check of the usage cap was passed. -/
def Uncapped (run : History) : Prop :=
  ∀ tenantId answer, Saw run (.checkUsageCap tenantId) answer → answer = .ok true

theorem checkCap_run {outcome : Except Exit Unit}
    (runs : Prog.Runs (checkCap ctx subject rpc) run outcome) :
    Of [.cap] run ∧ (outcome = .ok () ↔ Uncapped run) := by
  refine ⟨(checkCap_ensures ctx [] subject rpc).of runs, ?_⟩
  unfold checkCap at runs
  split at runs
  · obtain ⟨answer, rest, rfl, checked⟩ := request_bind_run runs
    have asked : ∀ later, Uncapped (⟨.checkUsageCap subject.tenantId, answer⟩ :: later) →
        answer = .ok true := fun later under => under _ _ (by simp [Saw])
    rcases orRaise_bind_run checked with ⟨exn, rfl, rfl, rfl⟩ | ⟨underCap, rfl, ending⟩
    · refine iff_of_false (by simp) fun under => ?_
      cases asked _ under
    split at ending
    · rename_i within
      obtain ⟨rfl, rfl⟩ := pure_run ending
      refine iff_of_true rfl ?_
      intro tenantId answer saw
      cases mem_singleton.mp saw
      rw [within]
    · rename_i beyond
      obtain ⟨rfl, rfl⟩ := respond_run ending
      refine iff_of_false (by simp) fun under => beyond ?_
      simpa using asked _ under
  · obtain ⟨rfl, rfl⟩ := pure_run runs
    refine iff_of_true rfl ?_
    intro tenantId answer saw
    cases saw

inductive ProxyRun (ctx : Context) (subject : Subject) (server : McpServer)
    (rpc : JsonRpcRequest) : History → Except Exit Response → Prop where
  | limited {limiting : History} {exit : Exit} (uses : Of [.limits, .metering] limiting)
      (unallowed : ¬ Limited limiting true) : ProxyRun ctx subject server rpc limiting (.error exit)
  | explained {limiting : History} {rlHeaders : Headers} {response : Response}
      (allowance : Allowance limiting rlHeaders) (dry : isDryRun ctx = true)
      (plain : response.headers = rlHeaders ++ requestIdHeaders ctx.request ++
        [("X-Portcullis-Dry-Run", "1")]) :
      ProxyRun ctx subject server rpc
        (limiting ++ [⟨.recordEvent (explainRecord ctx subject rpc), ()⟩]) (.ok response)
  | capped {limiting capping : History} {rlHeaders : Headers} {exit : Exit}
      (allowance : Allowance limiting rlHeaders) (real : isDryRun ctx = false)
      (uses : Of [.metering, .cap] capping) (beyond : ¬ Uncapped capping) :
      ProxyRun ctx subject server rpc (limiting ++ capping) (.error exit)
  | failed {limiting preparing : History} {rlHeaders : Headers} {call : ForwardCall} {exn : Exn}
      {exit : Exit} (allowance : Allowance limiting rlHeaders) (real : isDryRun ctx = false)
      (uses : Of [.metering, .cap, .environ] preparing) (under : Uncapped preparing) :
      ProxyRun ctx subject server rpc (limiting ++ preparing ++ [⟨.forward call, .error exn⟩])
        (.error exit)
  | answered {limiting preparing answering : History} {rlHeaders : Headers} {call : ForwardCall}
      {upstream : UpstreamResponse} {outcome : Except Exit Response}
      (allowance : Allowance limiting rlHeaders) (real : isDryRun ctx = false)
      (uses : Of [.metering, .cap, .environ] preparing) (under : Uncapped preparing)
      (answer : AnswerRun ctx subject rpc rlHeaders (wantsStream ctx) upstream answering outcome) :
      ProxyRun ctx subject server rpc
        (limiting ++ preparing ++ ⟨.forward call, .ok upstream⟩ :: answering) outcome

theorem proxyRequest_run {outcome : Except Exit Response}
    (runs : Prog.Runs (proxyRequest ctx subject server rpc) run outcome) :
    ProxyRun ctx subject server rpc run outcome := by
  rcases runs.bind_cases with ⟨exit, failed, rfl⟩ | ⟨limiting, rlHeaders, rest, rfl, passed, later⟩
  · exact .limited ((checkRateLimit_ensures ctx [] subject _ rpc.id).of failed)
      (checkRateLimit_failed failed)
  have allowance := checkRateLimit_passed passed
  split at later
  · rename_i dry
    obtain ⟨_, rest, rfl, ended⟩ := request_bind_run later
    obtain ⟨rfl, rfl⟩ := pure_run ended
    exact .explained allowance dry rfl
  · rename_i live
    have real : isDryRun ctx = false := by simpa using live
    obtain ⟨metered, rest, rfl, counted⟩ := request_bind_run later
    rcases counted.bind_cases with ⟨exit, failed, rfl⟩ | ⟨capping, _, rest, rfl, capped, onward⟩
    · obtain ⟨capUses, passes⟩ := checkCap_run failed
      refine .capped allowance real ?_ ?_
      · exact of_cons capUses.mono
      · intro under
        cases passes.mpr fun tenantId answer saw =>
          under tenantId answer (mem_cons_of_mem _ saw)
    · obtain ⟨capUses, passes⟩ := checkCap_run capped
      obtain ⟨building, headers, buildUses, sent⟩ := send_run onward
      have uses : Of [.metering, .cap, .environ] (⟨.recordUsageQueued ⟨subject.tenantId, 1,
            if rpc.method = .toolsCall then 1 else 0, 0, 0⟩, metered⟩ ::
              (capping ++ building)) := by
        exact of_cons
          (of_append capUses.mono buildUses.mono)
      have under : Uncapped (⟨.recordUsageQueued ⟨subject.tenantId, 1,
            if rpc.method = .toolsCall then 1 else 0, 0, 0⟩, metered⟩ ::
              (capping ++ building)) := by
        intro tenantId answer saw
        rcases mem_cons.mp saw with here | inside
        · cases here
        rcases mem_append.mp inside with checked | later
        · exact passes.mp rfl tenantId answer checked
        · exact absurd later (buildUses.absent (by simp [kind]) _)
      rcases sent with ⟨exn, exit, rfl, rfl⟩ | ⟨upstream, rest, rfl, answering⟩
      · have run := @ProxyRun.failed ctx subject server rpc _ _ _ (forwardCall server
          ctx.request.method headers ctx.request.body (wantsStream ctx)) exn exit allowance
          real uses under
        simpa using run
      · have run := @ProxyRun.answered ctx subject server rpc _ _ _ _ (forwardCall server
          ctx.request.method headers ctx.request.body (wantsStream ctx)) _ _ allowance real
          uses under (respondTo_run answering)
        simpa using run

theorem ProxyRun.uses {outcome : Except Exit Response}
    (runs : ProxyRun ctx subject server rpc run outcome) :
    Of [.limits, .metering, .cap, .environ, .upstream, .sessionRead, .sessionWrite, .permissions,
      .audit] run := by
  cases runs with
  | limited uses _ => exact uses.mono
  | explained allowance _ _ =>
    exact of_append allowance.uses.mono (by simp [Of, kind])
  | capped allowance _ uses _ =>
    exact of_append allowance.uses.mono uses.mono
  | failed allowance _ uses _ =>
    exact of_append (of_append allowance.uses.mono uses.mono)
      (by simp [Of, kind])
  | answered allowance _ uses _ answer =>
    apply of_append (of_append allowance.uses.mono uses.mono)
    exact of_cons answer.uses.mono

end Forwarding

/-! ## Terminating a session -/

def terminateRecord (ctx : Context) (subject : Subject) (rpc : JsonRpcRequest) : AuditRecord :=
  callerRecord ctx subject rpc .toolCall "allowed" (some (.str "session/terminate"))
    (.obj [("terminated_session_id", .str (inboundId ctx))])

inductive TerminateRun (ctx : Context) (subject : Subject) (rpc : JsonRpcRequest) :
    History → Except Exit Response → Prop where
  | refused {checking : History} {exit : Exit}
      (uses : Of [.sessionRead, .limits, .metering] checking)
      (unallowed : ¬ Limited checking true) :
      TerminateRun ctx subject rpc checking (.error exit)
  | failed {checking building : History} {deleted : Except Exn Unit} {call : ForwardCall}
      {exn : Exn} {exit : Exit} (uses : Of [.sessionRead, .limits] checking)
      (allowed : Limited checking true) (presented : inboundId ctx ≠ "")
      (built : Of [.environ] building) :
      TerminateRun ctx subject rpc
        (checking ++ ⟨.redisDelete (sessionKey (inboundId ctx)), deleted⟩ ::
          (building ++ [⟨.forward call, .error exn⟩]))
        (.error exit)
  | answered {checking building : History} {deleted : Except Exn Unit} {call : ForwardCall}
      {upstream : UpstreamResponse} {rlHeaders : Headers} {response : Response}
      (uses : Of [.sessionRead, .limits] checking) (allowed : Limited checking true)
      (limits : ∃ result, rlHeaders = rateLimitHeaders result)
      (presented : inboundId ctx ≠ "") (built : Of [.environ] building)
      (plain : response.headers = rlHeaders ++ requestIdHeaders ctx.request)
      (raw : response.body = .bytes upstream.content) :
      TerminateRun ctx subject rpc
        (checking ++ ⟨.redisDelete (sessionKey (inboundId ctx)), deleted⟩ ::
          (building ++ [⟨.forward call, .ok upstream⟩,
            ⟨.recordEvent (terminateRecord ctx subject rpc), ()⟩]))
        (.ok response)

theorem terminateSession_run {ctx : Context} {subject : Subject} {server : McpServer}
    {rpc : JsonRpcRequest} {run : History} {outcome : Except Exit Response}
    (runs : Prog.Runs (terminateSession ctx subject server rpc) run outcome) :
    TerminateRun ctx subject rpc run outcome := by
  unfold terminateSession at runs
  dsimp only at runs
  split at runs
  · obtain ⟨rfl, rfl⟩ := respond_run runs
    exact .refused (of_nil _) ((of_nil []).not_limited _)
  rename_i presented
  split at runs
  · obtain ⟨rfl, rfl⟩ := respond_run runs
    exact .refused (of_nil _) ((of_nil []).not_limited _)
  rcases runs.bind_cases with ⟨exit, failed, rfl⟩ | ⟨reads, found, rest, rfl, looked, later⟩
  · have uses := lookup_of failed
    exact .refused uses.mono (uses.not_limited _)
  have reading := lookup_of looked
  have stopped : ∀ exit, TerminateRun ctx subject rpc (reads ++ []) (.error exit) := fun exit => by
    rw [append_nil]
    exact .refused reading.mono (reading.not_limited _)
  cases found with
  | none =>
    obtain ⟨rfl, rfl⟩ := respond_run later
    exact stopped _
  | some record =>
    dsimp only at later
    split at later
    · obtain ⟨rfl, rfl⟩ := respond_run later
      exact stopped _
    rcases later.bind_cases with ⟨exit, failed, rfl⟩ |
      ⟨limiting, rlHeaders, rest, rfl, passed, deleting⟩
    · have uses := (checkRateLimit_ensures ctx [] subject _ rpc.id).of failed
      refine .refused (of_append reading.mono uses.mono) ?_
      intro limited
      rcases limited.append with before | after
      · exact absurd before (reading.not_limited _)
      · exact checkRateLimit_failed failed after
    have allowance := checkRateLimit_passed passed
    have checks : Of [.sessionRead, .limits] (reads ++ limiting) :=
      of_append reading.mono allowance.uses.mono
    have allowed : Limited (reads ++ limiting) true := allowance.allowed.after reads
    obtain ⟨deleted, rest, rfl, onward⟩ := request_bind_run deleting
    obtain ⟨building, headers, buildUses, sent⟩ := send_run onward
    rw [← append_assoc]
    rcases sent with ⟨exn, exit, rfl, rfl⟩ | ⟨upstream, rest, rfl, answering⟩
    · exact .failed checks allowed presented buildUses
    · obtain ⟨_, rest, rfl, ended⟩ := request_bind_run answering
      obtain ⟨rfl, rfl⟩ := pure_run ended
      exact .answered checks allowed allowance.headers presented buildUses rfl rfl

theorem TerminateRun.uses {ctx : Context} {subject : Subject} {rpc : JsonRpcRequest}
    {run : History} {outcome : Except Exit Response}
    (runs : TerminateRun ctx subject rpc run outcome) :
    Of [.sessionRead, .limits, .metering, .sessionWrite, .environ, .upstream, .audit] run := by
  -- what follows the deletion
  have acting : ∀ {checking building rest : History} {key : String} {deleted : Except Exn Unit},
      Of [.sessionRead, .limits] checking → Of [.environ] building → Of [.upstream, .audit] rest →
      Of [.sessionRead, .limits, .metering, .sessionWrite, .environ, .upstream, .audit]
        (checking ++ ⟨.redisDelete key, deleted⟩ :: (building ++ rest)) := by
    intro checking building rest key deleted uses built later
    apply of_append uses.mono
    exact of_cons (of_append built.mono later.mono)
  cases runs with
  | refused uses _ => exact uses.mono
  | failed uses _ _ built => exact acting uses built (by simp [Of, kind])
  | answered uses _ _ _ built _ _ => exact acting uses built (by simp [Of, kind])

/-! ## Whole handlers -/

/-- What holds once the caller is known, the server is resolved and the inbound session
is the caller's own. -/
structure Cleared (ctx : Context) (run : History) (subject : Subject) : Prop where
  uses : Of [.preAuth, .identity, .registry, .sessionRead, .permissions] run
  only : ∀ other, Authenticated run other ↔ other = subject
  session : SessionOwned ctx run subject

theorem authenticated_append {kinds : List Kind} (within : Of kinds rest)
    (subject : Subject) (other : Kind.identity ∉ kinds := by decide) :
    Authenticated (first ++ rest) subject ↔ Authenticated first subject := by
  constructor
  · rintro ⟨token, saw⟩
    rcases mem_append.mp saw with before | after
    · exact ⟨token, before⟩
    · exact absurd (within ⟨.authenticate token, .ok subject⟩ after) other
  · intro auth
    exact auth.mono (prefix_append _ _)

theorem Identified.cleared {ctx : Context} {caller : History} {subject : Subject}
    (identified : Identified caller subject) (uses : Of [.registry, .sessionRead] rest)
    (session : SessionOwned ctx rest subject) :
    Cleared ctx (caller ++ rest) subject where
  uses := of_append identified.uses.mono uses.mono
  only other := (authenticated_append uses other).trans (identified.only other)
  session := by
    intro sessionId presented ne
    obtain ⟨valid, raw, saw, owned⟩ := session sessionId presented ne
    exact ⟨valid, raw, mem_append_right _ saw, owned⟩

inductive PostRun (ctx : Context) (rpc : JsonRpcRequest) :
    History → Except Exit Response → Prop where
  | unidentified {run : History} {exit : Exit}
      (refused : Prog.Runs (runPreAuthChecks ctx rpc.id) run (.error exit)) :
      PostRun ctx rpc run (.error exit)
  | unresolved {caller resolving : History} {subject : Subject} {exit : Exit}
      (identified : Identified caller subject)
      (uses : Of [.registry, .sessionRead] resolving) :
      PostRun ctx rpc (caller ++ resolving) (.error exit)
  | unpermitted {checks deciding : History} {subject : Subject} {exit : Exit}
      (cleared : Cleared ctx checks subject) (silent : Of [.preAuth, .identity, .registry,
        .sessionRead] checks)
      (decide : Prog.Runs (checkPermission ctx subject rpc) deciding (.error exit)) :
      PostRun ctx rpc (checks ++ deciding) (.error exit)
  | terminating {checks terminating : History} {subject : Subject}
      {outcome : Except Exit Response} (cleared : Cleared ctx checks subject)
      (method : rpc.method = .sessionTerminate)
      (terminate : TerminateRun ctx subject rpc terminating outcome) :
      PostRun ctx rpc (checks ++ terminating) outcome
  | proxying {checks proxying : History} {subject : Subject} {server : McpServer}
      {outcome : Except Exit Response} (cleared : Cleared ctx checks subject)
      (permitted : ¬ Denied ctx checks subject rpc) (method : rpc.method ≠ .sessionTerminate)
      (proxied : ProxyRun ctx subject server rpc proxying outcome) :
      PostRun ctx rpc (checks ++ proxying) outcome

inductive GetRun (ctx : Context) : History → Except Exit Response → Prop where
  | unidentified {run : History} {exit : Exit}
      (refused : Prog.Runs (runPreAuthChecks ctx none) run (.error exit)) :
      GetRun ctx run (.error exit)
  | stopped {run : History} {exit : Exit}
      (uses : Of [.preAuth, .identity, .registry, .sessionRead, .limits, .metering] run) :
      GetRun ctx run (.error exit)
  | failed {checks preparing : History} {subject : Subject} {call : ForwardCall} {exn : Exn}
      {exit : Exit} (cleared : Cleared ctx checks subject)
      (uses : Of [.limits, .metering, .environ] preparing) :
      GetRun ctx (checks ++ preparing ++ [⟨.forward call, .error exn⟩]) (.error exit)
  | unpersisted {checks preparing persisting : History} {subject : Subject}
      {call : ForwardCall} {upstream : UpstreamResponse} {exit : Exit}
      (cleared : Cleared ctx checks subject)
      (uses : Of [.limits, .metering, .environ] preparing)
      (persist : PersistRun ctx subject upstream persisting (.error exit)) :
      GetRun ctx (checks ++ preparing ++ ⟨.forward call, .ok upstream⟩ :: persisting) (.error exit)
  | answered {checks preparing persisting : History} {subject : Subject} {call : ForwardCall}
      {upstream : UpstreamResponse} {rlHeaders sessionHeaders : Headers}
      (cleared : Cleared ctx checks subject)
      (uses : Of [.limits, .metering, .environ] preparing)
      (limits : ∃ result, rlHeaders = rateLimitHeaders result)
      (persist : PersistRun ctx subject upstream persisting (.ok sessionHeaders)) :
      GetRun ctx (checks ++ preparing ++ ⟨.forward call, .ok upstream⟩ :: persisting)
        (.ok (rawResponse upstream
          (rlHeaders ++ requestIdHeaders ctx.request ++ sessionHeaders) "text/event-stream"))

section Handlers

variable {ctx : Context} {rpc : JsonRpcRequest} {run : History}

variable {rpcId : Option RpcId} {outcome : Except Exit Response}

theorem cleared_run {caller resolving validating : History} {subject : Subject} {server : McpServer}
    {owned : Unit} (named : Prog.Runs (runPreAuthChecks ctx rpcId) caller (.ok subject))
    (resolved : Prog.Runs (resolveServer ctx subject rpcId) resolving (.ok server))
    (validated : Prog.Runs (validateSession ctx subject rpcId) validating (.ok owned)) :
    Cleared ctx (caller ++ (resolving ++ validating)) subject ∧
      Of [.preAuth, .identity, .registry, .sessionRead] (caller ++ (resolving ++ validating)) := by
  have resolveUses := (resolveServer_ensures ctx [] subject rpcId).of resolved
  have validateUses := validateSession_of validated
  have uses : Of [.registry, .sessionRead] (resolving ++ validating) :=
    of_append resolveUses.mono validateUses.mono
  have identified := runPreAuthChecks_identified named
  have ensures : Ensures (fun _ _ => True) [] (validateSession ctx subject rpcId)
      (fun later _ => SessionOwned ctx later subject ∧ InboundRead ctx later subject) :=
    validateSession_ensures (fun _ _ _ => trivial) [] subject rpcId
  have session : SessionOwned ctx validating subject := (ensured ensures validated).1
  refine ⟨identified.cleared uses ?_, of_append identified.uses.mono
    uses.mono⟩
  intro sessionId presented ne
  obtain ⟨valid, raw, saw, own⟩ := session sessionId presented ne
  exact ⟨valid, raw, mem_append_right _ saw, own⟩

/-- The caller is named, the server resolved and the session checked: the call stops in one of
these steps, or goes on. -/
theorem enter_run {Value : Type} {next : Subject → McpServer → Gate Value}
    {outcome : Except Exit Value}
    (runs : Prog.Runs (do
      let subject ← runPreAuthChecks ctx rpcId
      let server ← resolveServer ctx subject rpcId
      validateSession ctx subject rpcId
      next subject server) run outcome) :
    (∃ exit, Prog.Runs (runPreAuthChecks ctx rpcId) run (.error exit) ∧ outcome = .error exit) ∨
      (∃ caller resolving subject exit, run = caller ++ resolving ∧ Identified caller subject ∧
        Of [.registry, .sessionRead] resolving ∧ outcome = .error exit) ∨
      ∃ checks rest subject server, run = checks ++ rest ∧ Cleared ctx checks subject ∧
        Of [.preAuth, .identity, .registry, .sessionRead] checks ∧
          Prog.Runs (next subject server) rest outcome := by
  rcases runs.bind_cases with ⟨exit, failed, rfl⟩ | ⟨caller, subject, rest, rfl, named, later⟩
  · exact .inl ⟨exit, failed, rfl⟩
  have identified := runPreAuthChecks_identified named
  rcases later.bind_cases with ⟨exit, failed, rfl⟩ |
    ⟨resolving, server, rest, rfl, resolved, onward⟩
  · have uses := (resolveServer_ensures ctx [] subject rpcId).of failed
    exact .inr (.inl ⟨caller, _, subject, exit, rfl, identified, uses.mono, rfl⟩)
  have resolveUses := (resolveServer_ensures ctx [] subject rpcId).of resolved
  rcases onward.bind_cases with ⟨exit, failed, rfl⟩ | ⟨validating, _, rest, rfl, validated, ahead⟩
  · have uses := validateSession_of failed
    exact .inr (.inl ⟨caller, _, subject, exit, rfl, identified,
      of_append resolveUses.mono uses.mono, rfl⟩)
  obtain ⟨cleared, silent⟩ := cleared_run named resolved validated
  exact .inr (.inr ⟨caller ++ (resolving ++ validating), rest, subject, server, by simp, cleared,
    silent, ahead⟩)

theorem handlePost_run (runs : Prog.Runs (handlePost ctx rpc) run outcome) :
    PostRun ctx rpc run outcome := by
  rcases enter_run runs with ⟨exit, failed, rfl⟩ |
    ⟨caller, resolving, subject, exit, rfl, identified, uses, rfl⟩ |
    ⟨checks, rest, subject, server, rfl, cleared, silent, ahead⟩
  · exact .unidentified failed
  · exact .unresolved identified uses
  rcases ahead.bind_cases with ⟨exit, failed, rfl⟩ | ⟨deciding, _, rest, rfl, granted, ending⟩
  · exact .unpermitted cleared silent failed
  obtain ⟨grantUses, permitted⟩ := checkPermission_passed granted
  have checked : Cleared ctx (checks ++ deciding) subject :=
    { uses := of_append cleared.uses grantUses.mono
      only := fun other =>
        (authenticated_append grantUses other).trans (cleared.only other)
      session := cleared.session.mono (prefix_append _ _) }
  have undenied : ¬ Denied ctx (checks ++ deciding) subject rpc := by
    rintro ⟨resource, perms, decision, isNamed, saw, evaluated, refused⟩
    rcases mem_append.mp saw with before | after
    · exact silent.absent (by simp [kind]) _ before
    · exact permitted ⟨resource, perms, decision, isNamed, after, evaluated, refused⟩
  rw [← append_assoc]
  split at ending
  · rename_i method
    exact .terminating checked method (terminateSession_run ending)
  · rename_i method
    exact .proxying checked undenied method (proxyRequest_run ending)

theorem handleGet_run (runs : Prog.Runs (handleGet ctx) run outcome) : GetRun ctx run outcome := by
  rcases enter_run runs with ⟨exit, failed, rfl⟩ |
    ⟨caller, resolving, subject, exit, rfl, identified, uses, rfl⟩ |
    ⟨checks, rest, subject, server, rfl, cleared, silent, ahead⟩
  · exact .unidentified failed
  · exact .stopped (of_append identified.uses.mono uses.mono)
  rcases ahead.bind_cases with ⟨exit, failed, rfl⟩ |
    ⟨limiting, rlHeaders, rest, rfl, passed, metering⟩
  · have uses := (checkRateLimit_ensures ctx [] subject _ none).of failed
    exact .stopped (of_append silent.mono uses.mono)
  have allowance := checkRateLimit_passed passed
  obtain ⟨metered, rest, rfl, building⟩ := request_bind_run metering
  obtain ⟨preparing, headers, buildUses, sent⟩ := send_run building
  have uses : Of [.limits, .metering, .environ] (limiting ++
      ⟨.recordUsageQueued ⟨subject.tenantId, 1, 0, 0, 0⟩, metered⟩ :: preparing) := by
    apply of_append allowance.uses.mono
    exact of_cons buildUses.mono
  rcases sent with ⟨exn, exit, rfl, rfl⟩ | ⟨upstream, rest, rfl, ending⟩
  · have run := @GetRun.failed ctx _ _ _ (forwardCall server "GET" headers [] true) exn exit
      cleared uses
    simpa using run
  rcases ending.bind_cases with ⟨exit, failed, rfl⟩ |
    ⟨persisting, sessionHeaders, rest, rfl, persisted, ended⟩
  · have run := @GetRun.unpersisted ctx _ _ _ _ (forwardCall server "GET" headers [] true) _ _
      cleared uses (persistSession_run failed)
    simpa using run
  · obtain ⟨rfl, rfl⟩ := pure_run ended
    have run := @GetRun.answered ctx _ _ _ _ (forwardCall server "GET" headers [] true) _ _ _
      cleared uses allowance.headers (persistSession_run persisted)
    simpa using run

/-- The outcome of a handler inside its `try`: an exception becomes an error response. -/
def caught (ctx : Context) (rpcId : Option RpcId) :
    Except Exit Response → Except Exit Response
  | .error (.raise _) => .error (.respond (internalError ctx rpcId))
  | other => other

/-- The outcome of a route: an early return is its response. -/
def settled : Except Exit Response → Except Exit Response
  | .error (.respond response) => .ok response
  | other => other

theorem caught_run {prog : Gate Response}
    (runs : Prog.Runs (exceptAll prog fun _ => respond (internalError ctx rpcId)) run outcome) :
    ∃ inner, Prog.Runs prog run inner ∧ outcome = caught ctx rpcId inner := by
  rcases runs.recover_cases with ⟨value, passed, rfl⟩ | ⟨first, exit, rest, rfl, failed, handled⟩
  · exact ⟨.ok value, passed, rfl⟩
  cases exit with
  | respond resp =>
    obtain ⟨rfl, rfl⟩ := respond_run handled
    exact ⟨_, by simpa using failed, rfl⟩
  | raise exn =>
    obtain ⟨rfl, rfl⟩ := respond_run handled
    exact ⟨_, by simpa using failed, rfl⟩

theorem settled_run {prog : Gate Response} (runs : Prog.Runs (settle prog) run outcome) :
    ∃ inner, Prog.Runs prog run inner ∧ outcome = settled inner := by
  rcases runs.recover_cases with ⟨value, passed, rfl⟩ | ⟨first, exit, rest, rfl, failed, handled⟩
  · exact ⟨.ok value, passed, rfl⟩
  cases exit with
  | respond resp =>
    obtain ⟨rfl, rfl⟩ := pure_run handled
    exact ⟨_, by simpa using failed, rfl⟩
  | raise exn =>
    obtain ⟨rfl, rfl⟩ := raise_run handled
    exact ⟨_, by simpa using failed, rfl⟩

theorem readRequest_run {outcome : Except Exit JsonRpcRequest}
    (runs : Prog.Runs (readRequest ctx) run outcome) :
    run = [] ∧ ∀ rpc, outcome = .ok rpc →
      parseRequest ctx.platform.jsonLimits ctx.request.body = .ok rpc := by
  rcases orRaise_bind_run runs with ⟨_, _, rfl, rfl⟩ | ⟨declared, _, sized⟩
  · exact ⟨rfl, fun _ same => by cases same⟩
  split at sized
  · obtain ⟨rfl, rfl⟩ := respond_run sized
    exact ⟨rfl, fun _ same => by cases same⟩
  split at sized
  · obtain ⟨rfl, rfl⟩ := respond_run sized
    exact ⟨rfl, fun _ same => by cases same⟩
  split at sized
  · rename_i rpc parsed
    obtain ⟨rfl, rfl⟩ := pure_run sized
    exact ⟨rfl, fun _ same => by rw [parsed, Except.ok.inj same]⟩
  · obtain ⟨rfl, rfl⟩ := raise_run sized
    exact ⟨rfl, fun _ same => by cases same⟩
  · obtain ⟨rfl, rfl⟩ := respond_run sized
    exact ⟨rfl, fun _ same => by cases same⟩

theorem answerPost_run (runs : Prog.Runs (answerPost ctx) run outcome) :
    (run = [] ∧ ∃ exit, outcome = .error exit) ∨
      ∃ rpc inner, parseRequest ctx.platform.jsonLimits ctx.request.body = .ok rpc ∧
        PostRun ctx rpc run inner ∧ outcome = caught ctx rpc.id inner := by
  rcases runs.bind_cases with ⟨exit, failed, rfl⟩ | ⟨first, rpc, rest, rfl, read, handled⟩
  · exact .inl ⟨(readRequest_run failed).1, exit, rfl⟩
  · obtain ⟨rfl, parsed⟩ := readRequest_run read
    obtain ⟨inner, handling, rfl⟩ := caught_run handled
    exact .inr ⟨rpc, inner, parsed rpc rfl, handlePost_run handling, rfl⟩

theorem mcpProxy_run (runs : Prog.Runs (mcpProxy ctx) run outcome) :
    (∃ resp, run = [⟨.pluginPreAuth, some resp⟩] ∧ outcome = .ok resp) ∨
      ∃ rest inner, run = ⟨.pluginPreAuth, none⟩ :: rest ∧
        Prog.Runs (answerPost ctx) rest inner ∧ outcome = settled inner := by
  obtain ⟨inner, asked, rfl⟩ := settled_run runs
  obtain ⟨answer, rest, rfl, later⟩ := request_bind_run asked
  cases answer with
  | some resp =>
    obtain ⟨rfl, rfl⟩ := respond_run later
    exact .inl ⟨resp, rfl, rfl⟩
  | none => exact .inr ⟨rest, inner, rfl, later, rfl⟩

end Handlers

end Portcullis.Gateway.Stages
