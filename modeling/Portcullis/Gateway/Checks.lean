import Portcullis.Gateway.Footprint

/-!
# What each check of a handler establishes

The program logic of the proxy handlers carries, from check to check, the answers
that were seen so far.  A check that does not touch session records is shown to make
plain requests only, so what was last read of a session stays known across it.
-/

namespace Portcullis.Gateway.Mediation

open Auth.Rbac Auth.ToolFilter Gateway.JsonRpc Gateway.Router Gateway.Session Gateway.Stages Lib
  Lib.Glob Limits.Policies Limits.RedisBucket Models Security.Upstreams List

variable {history later : History}

/-- Kinds of requests that neither forward nor touch a session record. -/
def plainKinds : List Kind :=
  [.hook, .preAuth, .identity, .audit, .registry, .limits, .permissions, .metering, .cap, .environ]

def Within (kinds : List Kind) (_ : History) (op : Op) : Prop := kinds.contains (kind op) = true

def isGet : Op → Bool
  | .redisGet _ => true
  | _ => false

/-! ## Last reads -/

def noteGet (key : String) (seen : Option (Except Exn (Option String)))
    (event : Event Op Ans) : Option (Except Exn (Option String)) :=
  match event with
  | ⟨.redisGet asked, answer⟩ => if asked = key then some answer else seen
  | _ => seen

/-- The answer to the last `GET` of a key. -/
def lastGet (key : String) (history : History) : Option (Except Exn (Option String)) :=
  history.foldl (noteGet key) none

/-- Nothing was read between the two histories. -/
def SameReads (history later : History) : Prop := ∀ key, lastGet key later = lastGet key history

theorem SameReads.trans {middle : History} (first : SameReads history middle)
    (second : SameReads middle later) : SameReads history later := by
  intro key
  rw [second key, first key]

theorem lastGet_concat (key : String) (history : History) (event : Event Op Ans) :
    lastGet key (history ++ [event]) = noteGet key (lastGet key history) event := by
  simp [lastGet]

theorem sameReads_append (history added : History)
    (noGet : ∀ event ∈ added, isGet event.op = false) : SameReads history (history ++ added) := by
  intro key
  induction added using List.reverseRecOn with
  | nil => rw [append_nil]
  | append_singleton prev event ih =>
    rw [← append_assoc, lastGet_concat,
      ih fun other mem => noGet other (mem_append_left _ mem)]
    have silent := noGet event (by simp)
    obtain ⟨op, answer⟩ := event
    cases op with
    | redisGet asked => cases silent
    | _ => rfl

theorem sameReads_concat (history : History) (op : Op) (answer : Ans op)
    (noGet : isGet op = false) : SameReads history (history ++ [⟨op, answer⟩]) :=
  sameReads_append history _ (by simpa using noGet)

theorem saw_of_lastGet (key : String) (history : History) (answer : Except Exn (Option String))
    (last : lastGet key history = some answer) : Saw history (.redisGet key) answer := by
  induction history using List.reverseRecOn with
  | nil => cases last
  | append_singleton prev event ih =>
    rw [lastGet_concat] at last
    obtain ⟨op, given⟩ := event
    cases op with
    | redisGet asked =>
      rw [noteGet] at last
      by_cases same : asked = key
      · rw [if_pos same] at last
        subst same
        rw [← Option.some.inj last]
        exact saw_last _ _ _
      · rw [if_neg same] at last
        exact (ih last).mono (prefix_append _ _)
    | _ => exact (ih last).mono (prefix_append _ _)

section Rules

variable {permitted : History → Op → Prop} {Value : Type} {kinds : List Kind}

def IsError (response : Response) : Prop :=
  ∃ rpcId code message, response.body = .json (makeError rpcId code message)

/-- The headers hand out no session id. -/
def Anonymous (headers : Headers) : Prop := ∀ sessionId, ("Mcp-Session-Id", sessionId) ∉ headers

theorem Anonymous.append {first rest : Headers} (left : Anonymous first) (right : Anonymous rest) :
    Anonymous (first ++ rest) := by
  intro sessionId mem
  rcases mem_append.mp mem with before | after
  · exact left sessionId before
  · exact right sessionId after

theorem anonymous_requestId (request : Request) : Anonymous (requestIdHeaders request) := by
  intro sessionId mem
  unfold requestIdHeaders at mem
  split at mem
  · cases mem
  · split at mem
    · cases mem
    · simp at mem

theorem anonymous_rateLimit (result : RateLimitResult) : Anonymous (rateLimitHeaders result) := by
  simp [Anonymous, rateLimitHeaders]

theorem anonymous_refusal (result : RateLimitResult) :
    Anonymous (rateLimitHeaders result ++ retryAfter result) :=
  (anonymous_rateLimit result).append (by simp [Anonymous, retryAfter])

def ErrorExit : Exit → Prop
  | .respond response => IsError response ∧ Anonymous response.headers
  | .raise _ => True

/-- The program makes permitted requests only, a value it returns meets the
postcondition, and what it answers early is a JSON-RPC error without a session id. -/
@[irreducible]
def Ensures (permitted : History → Op → Prop) (history : History) (program : Gate Value)
    (returns : History → Value → Prop) : Prop :=
  Prog.Safe permitted returns (fun _ exit => ErrorExit exit) history program

variable {history : History} {program : Gate Value} {returns : History → Value → Prop}
  {run : History}

theorem Ensures.bind {Result : Type} {continuation : Value → Gate Result}
    {ends : History → Result → Prop} (first : Ensures permitted history program returns)
    (rest : ∀ later value, history <+: later → returns later value →
      Ensures permitted later (continuation value) ends) :
    Ensures permitted history (program >>= continuation) ends := by
  unfold Ensures at *
  exact Prog.Safe.bind first rest

theorem ensures_pure {value : Value} (post : returns history value) :
    Ensures permitted history (pure value) returns := by
  unfold Ensures
  exact post

theorem ensures_jsonError {request : Request} {status : Nat} {rpcId : Option RpcId} {code : Int}
    {message : String} {extraHeaders : Headers} (plain : Anonymous extraHeaders) :
    Ensures permitted history
      (respond (jsonError request status rpcId code message extraHeaders)) returns := by
  unfold Ensures
  exact ⟨⟨rpcId, code, message, rfl⟩, (anonymous_requestId request).append plain⟩

theorem ensures_error {ctx : Context} {status : Nat} {rpcId : Option RpcId} {code : Int}
    {message : String} :
    Ensures permitted history (respond (ctx.error status rpcId code message)) returns :=
  ensures_jsonError (by simp [Anonymous])

theorem ensures_raise {exn : Exn} : Ensures permitted history (raise exn) returns := by
  unfold Ensures
  trivial

theorem ensures_orRaise (answer : Except Exn Value) : Ensures permitted history (orRaise answer)
      (fun later value => later = history ∧ answer = .ok value) := by
  cases answer with
  | ok value => exact ensures_pure ⟨rfl, rfl⟩
  | error exn => exact ensures_raise

theorem ensures_request {op : Op} (allowed : permitted history op) :
    Ensures permitted history (request op)
      (fun later answer => later = history ++ [⟨op, answer⟩]) := by
  unfold Ensures
  exact Prog.Safe.request allowed

theorem Ensures.exceptAll {handler : Exn → Gate Value}
    (body : Ensures permitted history program returns)
    (handled : ∀ later exn, Ensures permitted later (handler exn) returns) :
    Ensures permitted history (exceptAll program handler) returns := by
  unfold Ensures at *
  apply Prog.Safe.recover body
  intro later exit _ isError
  cases exit with
  | respond resp => exact isError
  | raise exn => exact handled later exn

theorem Ensures.conseq {weaker : History → Value → Prop}
    (body : Ensures permitted history program returns)
    (implies : ∀ later value, history <+: later → returns later value → weaker later value) :
    Ensures permitted history program weaker := by
  unfold Ensures at *
  exact Prog.Safe.conseq body implies

theorem Ensures.permit {allowed : History → Op → Prop}
    (body : Ensures permitted history program returns)
    (implies : ∀ later op, permitted later op → allowed later op) :
    Ensures allowed history program returns := by
  unfold Ensures at *
  exact Prog.Safe.permit body implies

theorem contains_mono {wider : List Kind} (subset : kinds ⊆ wider) {asked : Kind}
    (within : kinds.contains asked = true) : wider.contains asked = true :=
  elem_iff.mpr (subset (elem_iff.mp within))

theorem Ensures.calm (body : Ensures (Within kinds) history program returns)
    (allowed : ∀ later op, plainKinds.contains (kind op) = true → permitted later op)
    (quiet : kinds ⊆ plainKinds := by decide) :
    Ensures permitted history program
      (fun later value => returns later value ∧ SameReads history later) := by
  unfold Ensures at *
  have frame := Prog.Safe.frame body fun later op within =>
    allowed later op (contains_mono quiet within)
  refine frame.conseq ?_
  rintro later value _ ⟨ret, added, rfl, ofKinds⟩
  refine ⟨ret, sameReads_append history added ?_⟩
  intro event mem
  have isPlain := contains_mono quiet (ofKinds event mem)
  obtain ⟨op, answer⟩ := event
  cases op with
  | redisGet asked => cases isPlain
  | _ => rfl

/-! ### Runs -/

theorem Ensures.of {outcome : Except Exit Value} (body : Ensures (Within kinds) [] program returns)
    (runs : Prog.Runs program run outcome) : Of kinds run := by
  unfold Ensures at body
  intro event mem
  obtain ⟨before, after, split⟩ := append_of_mem mem
  exact elem_iff.mp ((Prog.Safe.run runs body).1 before event after split)

theorem ensured {value : Value} (body : Ensures permitted [] program returns)
    (runs : Prog.Runs program run (.ok value)) : returns run value := by
  unfold Ensures at body
  exact (Prog.Safe.run runs body).2

theorem ensured_exit {exit : Exit} (body : Ensures permitted [] program returns)
    (runs : Prog.Runs program run (.error exit)) : ErrorExit exit := by
  unfold Ensures at body
  exact (Prog.Safe.run runs body).2

end Rules

/-! ## What each check establishes -/

section Facts

variable (ctx : Context) (history : History)

def PreAuthAllowed : Prop :=
  ∃ limit window result,
    Saw history (.checkPreAuthLimit ctx.request.clientIp limit window) (.ok result) ∧
      result.allowed = true

def Authenticated (subject : Subject) : Prop :=
  ∃ token, Saw history (.authenticate token) (.ok subject)

structure Resolved (subject : Subject) (server : McpServer) : Prop where
  found : Saw history (.getBySlug subject.tenantId ctx.request.serverSlug) (.ok (some server))
  validUrl : validateUpstreamUrl ctx.platform.urls server.upstreamUrl
    ctx.settings.upstreamHostsTuple ctx.settings.environment = .ok ()
  notDisabled : server.status ≠ .disabled
  notUnhealthy : server.status ≠ .unhealthy

def storedRecord (raw : String) : Option SessionRecord :=
  match (Json.parseText ctx.platform.jsonLimits raw.toList).map (Json.resolve .last) with
  | .ok payload => recordOf ctx.platform.strOf payload
  | .error _ => none

def SessionOwned (subject : Subject) : Prop :=
  ∀ sessionId, ctx.request.header "mcp-session-id" = some sessionId → sessionId ≠ "" →
    isValidSessionId sessionId = true ∧
      ∃ raw, Saw history (.redisGet (sessionKey sessionId)) (.ok (some raw)) ∧
        storedRecord ctx raw =
          some ⟨subject.tenantId.str, subject.subjectId, ctx.request.serverSlug⟩

def RateAllowed (subject : Subject) (toolOrMethod : String) : Prop :=
  ∃ policies policy result, Saw history (.listPolicies subject.tenantId) (.ok policies) ∧
    effectivePolicy ctx subject toolOrMethod policies = .ok policy ∧
    Saw history (.limiterCheck (limiterKey ctx subject toolOrMethod policy) policy) (.ok result) ∧
    result.allowed = true

def Permitted (subject : Subject) (rpc : JsonRpcRequest) : Prop :=
  rbacRequired rpc.method = true → ∃ name permissions, resourceName rpc = some (.str name) ∧
      Saw history (.permissionsForSubject subject.tenantId subject.subjectType
        subject.subjectId) (.ok permissions) ∧
      (evaluatePermission fnmatchcase subject.subjectId ctx.request.serverSlug name
        permissions).allowed = true

end Facts

section FactsGrow

variable {ctx : Context} {history later : History} (grown : history <+: later)
include grown

theorem PreAuthAllowed.mono (fact : PreAuthAllowed ctx history) : PreAuthAllowed ctx later := by
  obtain ⟨limit, window, result, saw, allowed⟩ := fact
  exact ⟨limit, window, result, saw.mono grown, allowed⟩

variable {subject : Subject}

theorem Authenticated.mono (fact : Authenticated history subject) :
    Authenticated later subject := by
  obtain ⟨token, saw⟩ := fact
  exact ⟨token, saw.mono grown⟩

theorem Resolved.mono {server : McpServer} (fact : Resolved ctx history subject server) :
    Resolved ctx later subject server :=
  { fact with found := fact.found.mono grown }

theorem SessionOwned.mono (fact : SessionOwned ctx history subject) :
    SessionOwned ctx later subject := by
  intro sessionId presented ne
  obtain ⟨valid, raw, saw, owned⟩ := fact sessionId presented ne
  exact ⟨valid, raw, saw.mono grown, owned⟩

theorem Permitted.mono {rpc : JsonRpcRequest} (fact : Permitted ctx history subject rpc) :
    Permitted ctx later subject rpc := by
  intro required
  obtain ⟨name, perms, named, saw, allowed⟩ := fact required
  exact ⟨name, perms, named, saw.mono grown, allowed⟩

theorem RateAllowed.mono {toolOrMethod : String}
    (fact : RateAllowed ctx history subject toolOrMethod) :
    RateAllowed ctx later subject toolOrMethod := by
  obtain ⟨policies, policy, result, listed, effective, checked, allowed⟩ := fact
  exact ⟨policies, policy, result, listed.mono grown, effective, checked.mono grown, allowed⟩

end FactsGrow

theorem matchesOwner_some (record : SessionRecord) (tenantId : Uuid)
    (subjectId serverSlug : String) :
    matchesOwner (some record) tenantId subjectId serverSlug = true ↔
      record = ⟨tenantId.str, subjectId, serverSlug⟩ := by
  obtain ⟨tenant, subject, slug⟩ := record
  simp [matchesOwner, and_assoc]

theorem evaluateOn_allowed (ctx : Context) (subject : Subject) (resource : Json)
    (perms : List ToolPermission) (decision : PermissionDecision)
    (evaluated : evaluateOn ctx subject resource perms = .ok decision)
    (allowed : decision.allowed = true) :
    ∃ name, resource = .str name ∧
      (evaluatePermission fnmatchcase subject.subjectId ctx.request.serverSlug name
        perms).allowed = true := by
  unfold evaluateOn at evaluated
  split at evaluated
  · rename_i name
    rw [← Except.ok.inj evaluated] at allowed
    exact ⟨name, rfl, allowed⟩
  · split at evaluated
    · cases evaluated
    · rw [← Except.ok.inj evaluated] at allowed
      cases allowed

section Checks

variable (ctx : Context) (history : History)

theorem readRequest_ensures : Ensures (Within []) history (readRequest ctx)
      (fun _ rpc => ctx.request.body.length ≤ ctx.settings.maxRequestBodyBytes ∧
        parseRequest ctx.platform.jsonLimits ctx.request.body = .ok rpc) := by
  apply Ensures.bind (ensures_orRaise _)
  intro _ declared _ _
  split
  · exact ensures_error
  split
  · exact ensures_error
  rename_i bounded
  split
  · rename_i rpc parsed
    exact ensures_pure ⟨not_lt.mp bounded, parsed⟩
  · exact ensures_raise
  · exact ensures_error

variable (subject : Subject) (rpcId : Option RpcId)

theorem checkPreAuth_ensures : Ensures (Within [.preAuth]) history (checkPreAuth ctx rpcId)
      (fun later _ => PreAuthAllowed ctx later) := by
  apply Ensures.bind (ensures_orRaise _)
  rintro _ ⟨limit, window⟩ _ ⟨rfl, _⟩
  apply Ensures.bind (ensures_request rfl)
  rintro _ answer _ rfl
  cases answer with
  | error exn =>
    cases exn with
    | redisError => exact ensures_error
    | _ => exact ensures_raise
  | ok result =>
    by_cases allowed : result.allowed = true
    · simp only [allowed]
      exact ensures_pure ⟨limit, window, result, saw_last _ _ _, allowed⟩
    · simp only [allowed]
      exact ensures_jsonError (anonymous_refusal _)

theorem authenticateCaller_ensures :
    Ensures (Within [.identity, .audit]) history (authenticateCaller ctx rpcId)
      (fun later subject => Authenticated later subject) := by
  unfold authenticateCaller
  dsimp only
  split
  · exact ensures_error
  apply Ensures.bind (ensures_request rfl)
  rintro _ answer _ rfl
  cases answer with
  | ok subject => exact ensures_pure ⟨_, saw_last _ _ _⟩
  | error exn =>
    cases exn with
    | valueError =>
      apply Ensures.bind (ensures_request rfl)
      intro _ _ _ _
      exact ensures_error
    | _ => exact ensures_raise

theorem runPreAuthChecks_ensures :
    Ensures (Within [.preAuth, .identity, .audit]) history (runPreAuthChecks ctx rpcId)
      (fun later subject => PreAuthAllowed ctx later ∧ Authenticated later subject) := by
  apply Ensures.bind ((checkPreAuth_ensures ctx history rpcId).permit fun _ _ =>
    contains_mono (by decide))
  intro checked _ _ allowed
  refine ((authenticateCaller_ensures ctx checked rpcId).permit fun _ _ =>
    contains_mono (by decide)).conseq ?_
  intro later subject grown auth
  exact ⟨allowed.mono grown, auth⟩

theorem resolveServer_ensures :
    Ensures (Within [.registry]) history (resolveServer ctx subject rpcId)
      (fun later server => Resolved ctx later subject server) := by
  apply Ensures.bind (ensures_request rfl)
  rintro _ answer _ rfl
  rcases answer with exn | _ | server
  · exact ensures_raise
  · exact ensures_error
  · dsimp only
    split
    · exact ensures_error
    rename_i validUrl
    by_cases down : server.status = .disabled ∨ server.status = .unhealthy
    · rw [if_pos down]
      exact ensures_error
    · rw [if_neg down]
      rw [not_or] at down
      exact ensures_pure ⟨saw_last _ _ _, validUrl, down.1, down.2⟩

theorem checkRateLimit_ensures (toolOrMethod : String) (rpcId : Option RpcId) :
    Ensures (Within [.limits, .metering]) history (checkRateLimit ctx subject toolOrMethod rpcId)
      (fun later headers => RateAllowed ctx later subject toolOrMethod ∧ Anonymous headers) := by
  apply Ensures.bind (ensures_request rfl)
  rintro listedHistory listed _ rfl
  apply Ensures.bind (ensures_orRaise _)
  rintro _ policies _ ⟨rfl, rfl⟩
  apply Ensures.bind (ensures_orRaise _)
  rintro _ policy _ ⟨rfl, resolved⟩
  apply Ensures.bind (ensures_request rfl)
  rintro _ answer grown rfl
  cases answer with
  | error exn =>
    cases exn with
    | redisError => exact ensures_error
    | _ => exact ensures_raise
  | ok result =>
    dsimp only
    split
    · rename_i allowed
      have effective : effectivePolicy ctx subject toolOrMethod policies = .ok policy := by
        cases outcome : effectivePolicy ctx subject toolOrMethod policies with
        | error failure =>
          rw [outcome] at resolved
          cases resolved
        | ok found =>
          rw [outcome] at resolved
          exact congrArg Except.ok (Except.ok.inj resolved)
      exact ensures_pure ⟨⟨policies, policy, result, (saw_last _ _ _).mono grown,
        effective, saw_last _ _ _, allowed⟩, anonymous_rateLimit result⟩
    · apply Ensures.bind (ensures_request rfl)
      intro _ _ _ _
      exact ensures_jsonError (anonymous_refusal _)

theorem checkPermission_ensures (rpc : JsonRpcRequest) :
    Ensures (Within [.permissions, .metering, .audit]) history (checkPermission ctx subject rpc)
      (fun later _ => Permitted ctx later subject rpc) := by
  unfold checkPermission
  by_cases required : rbacRequired rpc.method = true
  · rw [if_neg (by simp [required])]
    cases named : resourceName rpc with
    | none => exact ensures_error
    | some resource =>
      apply Ensures.bind (ensures_request rfl)
      rintro _ answer _ rfl
      apply Ensures.bind (ensures_orRaise _)
      rintro _ perms _ ⟨rfl, rfl⟩
      apply Ensures.bind (ensures_orRaise _)
      rintro _ decision _ ⟨rfl, evaluated⟩
      split
      · rename_i allowed
        obtain ⟨name, isName, nameAllowed⟩ :=
          evaluateOn_allowed ctx subject resource perms decision evaluated allowed
        apply ensures_pure
        intro _
        exact ⟨name, perms, named.trans (congrArg some isName), saw_last _ _ _, nameAllowed⟩
      · apply Ensures.bind (ensures_request rfl)
        intro _ _ _ _
        apply Ensures.bind (ensures_request rfl)
        intro _ _ _ _
        exact ensures_error
  · rw [if_pos (by simp [required])]
    exact ensures_pure (fun needed => absurd needed required)

theorem serviceTokenOf_ensures (server : McpServer) :
    Ensures (Within [.environ]) history (serviceTokenOf server) (fun _ _ => True) := by
  unfold serviceTokenOf extractServiceToken
  split
  · split
    · exact ensures_pure trivial
    split
    · exact ensures_pure trivial
    · apply Ensures.bind (ensures_request rfl)
      intro _ _ _ _
      exact ensures_pure trivial
  · exact ensures_pure trivial

theorem buildUpstreamHeaders_ensures (server : McpServer) :
    Ensures (Within [.environ]) history (buildUpstreamHeaders ctx server) (fun _ _ => True) := by
  apply Ensures.bind (serviceTokenOf_ensures history server)
  intro _ _ _ _
  exact ensures_pure trivial

theorem checkCap_ensures (rpc : JsonRpcRequest) :
    Ensures (Within [.cap]) history (checkCap ctx subject rpc) (fun _ _ => True) := by
  unfold checkCap
  split
  · apply Ensures.bind (ensures_request rfl)
    intro _ _ _ _
    apply Ensures.bind (ensures_orRaise _)
    intro _ _ _ _
    split
    · exact ensures_pure trivial
    · exact ensures_error
  · exact ensures_pure trivial

theorem checkResponseSize_ensures (stream : Bool) (upstream : UpstreamResponse) :
    Ensures (Within []) history (checkResponseSize ctx rpcId stream upstream)
      (fun _ _ => True) := by
  unfold checkResponseSize
  split
  · exact ensures_pure trivial
  apply Ensures.bind (ensures_orRaise _)
  intro _ _ _ _
  split
  · exact ensures_error
  · split
    · exact ensures_error
    · exact ensures_pure trivial

theorem filterGenericList_ensures (listKey nameKey : String) (responseBody : Json) :
    Ensures (Within [.permissions]) history (filterGenericList ctx subject listKey nameKey responseBody)
      (fun _ _ => True) := by
  unfold filterGenericList
  split
  · split
    · split
      · exact ensures_pure trivial
      apply Ensures.bind (ensures_request rfl)
      intro _ _ _ _
      apply Ensures.bind (ensures_orRaise _)
      intro _ _ _ _
      apply Ensures.bind (ensures_orRaise _)
      intro _ _ _ _
      exact ensures_pure trivial
    · exact ensures_pure trivial
  · exact ensures_raise

theorem filteredResponse_ensures (listKey nameKey : String) (upstream : UpstreamResponse)
    (headers : Headers) :
    Ensures (Within [.permissions]) history
      (filteredResponse ctx subject listKey nameKey upstream headers)
      (fun _ resp => resp.headers = headers) := by
  unfold filteredResponse
  split
  · exact ensures_raise
  · exact ensures_pure rfl
  · apply Ensures.bind (filterGenericList_ensures ctx history subject listKey nameKey _)
    intro _ _ _ _
    split
    · exact ensures_pure rfl
    · exact ensures_raise

end Checks

/-! ## Session records -/

def readRecord (platform : Platform) (raw : String) : Except Exn (Option SessionRecord) :=
  match (Json.parseText platform.jsonLimits raw.toList).map (Json.resolve .last) with
  | .error .recursionError => .error .recursionError
  | .error _ => .ok none
  | .ok payload => .ok (recordOf platform.strOf payload)

def readAnswer (platform : Platform) :
    Except Exn (Option String) → Except Exn (Option SessionRecord)
  | .error _ => .ok none
  | .ok none => .ok none
  | .ok (some raw) => readRecord platform raw

/-- The last `GET` of the key was read as this record. -/
def LookedUp (platform : Platform) (key : String) (history : History)
    (found : Option SessionRecord) : Prop :=
  ∃ answer, lastGet key history = some answer ∧ readAnswer platform answer = .ok found

theorem LookedUp.after {platform : Platform} {key : String} {found : Option SessionRecord}
    (looked : LookedUp platform key history found)
    (unread : lastGet key later = lastGet key history) : LookedUp platform key later found := by
  obtain ⟨answer, last, reads⟩ := looked
  exact ⟨answer, unread.trans last, reads⟩

theorem LookedUp.saw {ctx : Context} {key : String} {history : History}
    {record : SessionRecord} (looked : LookedUp ctx.platform key history (some record)) :
    ∃ raw, Saw history (.redisGet key) (.ok (some raw)) ∧ storedRecord ctx raw = some record := by
  obtain ⟨answer, last, reads⟩ := looked
  have saw := saw_of_lastGet key history answer last
  rcases answer with exn | _ | raw
  · cases reads
  · cases reads
  · refine ⟨raw, saw, ?_⟩
    rw [readAnswer, readRecord] at reads
    rw [storedRecord]
    split at reads
    · cases reads
    · cases reads
    · rename_i payload parsed
      rw [parsed]
      exact Except.ok.inj reads

def ownRecord (ctx : Context) (subject : Subject) : SessionRecord :=
  ⟨subject.tenantId.str, subject.subjectId, ctx.request.serverSlug⟩

/-- The session header of the request was last read as the caller's own record. -/
def InboundRead (ctx : Context) (history : History) (subject : Subject) : Prop :=
  ∀ sessionId, ctx.request.header "mcp-session-id" = some sessionId → sessionId ≠ "" →
    LookedUp ctx.platform (sessionKey sessionId) history (some (ownRecord ctx subject))

theorem InboundRead.after {ctx : Context} {subject : Subject}
    (read : InboundRead ctx history subject) (same : SameReads history later) :
    InboundRead ctx later subject :=
  fun sessionId presented ne => (read sessionId presented ne).after (same _)

/-- A caller records only itself, under a key it last read as unknown or its own, and
deletes only a key it last read as its own. -/
def SessionWrite (ctx : Context) (history : History) : Op → Prop
  | .redisSet key value _ =>
    ∃ subject found, Authenticated history subject ∧
      value = payloadText subject.tenantId subject.subjectId ctx.request.serverSlug ∧
      LookedUp ctx.platform key history found ∧
      (found = none ∨ found = some (ownRecord ctx subject))
  | .redisDelete key =>
    ∃ subject, Authenticated history subject ∧
      LookedUp ctx.platform key history (some (ownRecord ctx subject))
  | _ => True

theorem sessionKey_injective (left right : String) (same : sessionKey left = sessionKey right) :
    left = right := by
  have chars := congrArg String.toList same
  rw [sessionKey, sessionKey, String.toList_append, String.toList_append] at chars
  exact String.toList_inj.mp (append_cancel_left chars)

section Reads

variable {permitted : History → Op → Prop} {ctx : Context}
  (reads : ∀ later op, Within [.sessionRead] later op → permitted later op) (history : History)
include reads

theorem lookup_ensures (sessionId : String) :
    Ensures permitted history (lookup ctx.platform sessionId)
      (fun later found => LookedUp ctx.platform (sessionKey sessionId) later found ∧
        ∀ key, key ≠ sessionKey sessionId → lastGet key later = lastGet key history) := by
  have asked : ∀ (answer : Except Exn (Option String)) (key : String),
      lastGet key (history ++ [⟨.redisGet (sessionKey sessionId), answer⟩]) =
        if sessionKey sessionId = key then some answer else lastGet key history :=
    fun answer key => lastGet_concat key history _
  apply Ensures.bind (ensures_request (reads _ (.redisGet _) rfl))
  rintro _ answer _ rfl
  have here := (asked answer (sessionKey sessionId)).trans (if_pos rfl)
  have elsewhere : ∀ key, key ≠ sessionKey sessionId →
      lastGet key (history ++ [⟨.redisGet (sessionKey sessionId), answer⟩]) = lastGet key history :=
    fun key other => (asked answer key).trans (if_neg other.symm)
  rcases answer with exn | _ | raw
  · exact ensures_pure ⟨⟨_, here, rfl⟩, elsewhere⟩
  · exact ensures_pure ⟨⟨_, here, rfl⟩, elsewhere⟩
  · dsimp only
    split
    · rename_i parsed
      exact ensures_pure ⟨⟨_, here, by rw [readAnswer, readRecord, parsed]⟩, elsewhere⟩
    · rename_i parsed
      exact ensures_pure ⟨⟨_, here, by rw [readAnswer, readRecord, parsed]⟩, elsewhere⟩
    · exact ensures_raise
    · rename_i payload parsed
      apply Ensures.bind (ensures_request (reads _ (.redisExpire _ _) rfl))
      rintro _ refreshed _ rfl
      have same := sameReads_concat
        (history ++ [⟨.redisGet (sessionKey sessionId), .ok (some raw)⟩])
        (.redisExpire (sessionKey sessionId) sessionTtlSeconds) refreshed rfl
      apply Ensures.bind (ensures_orRaise _)
      rintro _ _ _ ⟨rfl, _⟩
      refine ensures_pure ⟨⟨_, (same _).trans here, ?_⟩, ?_⟩
      · rw [readAnswer, readRecord, parsed]
      · exact fun key other => (same key).trans (elsewhere key other)

theorem validateSession_ensures (subject : Subject) (rpcId : Option RpcId) :
    Ensures permitted history (validateSession ctx subject rpcId)
      (fun later _ => SessionOwned ctx later subject ∧ InboundRead ctx later subject) := by
  unfold validateSession
  split
  · rename_i absent
    apply ensures_pure
    constructor
    · intro sessionId presented
      rw [absent] at presented
      cases presented
    · intro sessionId presented
      rw [absent] at presented
      cases presented
  · rename_i inbound presented
    have onlyInbound : ∀ sessionId,
        ctx.request.header "mcp-session-id" = some sessionId → sessionId = inbound := by
      intro sessionId other
      rw [presented] at other
      exact (Option.some.inj other).symm
    split
    · rename_i vacant
      apply ensures_pure
      exact ⟨fun sessionId other ne =>
          absurd ((onlyInbound sessionId other).trans vacant) ne,
        fun sessionId other ne =>
          absurd ((onlyInbound sessionId other).trans vacant) ne⟩
    · split
      · exact ensures_error
      rename_i wellFormed
      apply Ensures.bind ((lookup_ensures reads history inbound).exceptAll
        fun _ _ => ensures_error)
      rintro later found _ ⟨looked, _⟩
      cases found with
      | none => exact ensures_error
      | some record =>
        dsimp only
        split
        · rename_i owned
          rw [matchesOwner_some] at owned
          rw [owned] at looked
          apply ensures_pure
          constructor
          · intro sessionId other _
            rw [onlyInbound sessionId other]
            exact ⟨by simpa using wellFormed, looked.saw⟩
          · intro sessionId other _
            rw [onlyInbound sessionId other]
            exact looked
        · exact ensures_error

omit reads in
theorem lookup_of {sessionId : String} {run : History} {outcome : Except Exit _}
    (runs : Prog.Runs (lookup ctx.platform sessionId) run outcome) : Of [.sessionRead] run :=
  (lookup_ensures (fun _ _ => id) [] sessionId).of runs

omit reads in
theorem validateSession_of {subject : Subject} {rpcId : Option RpcId} {run : History}
    {outcome : Except Exit Unit}
    (runs : Prog.Runs (validateSession ctx subject rpcId) run outcome) : Of [.sessionRead] run :=
  (validateSession_ensures (fun _ _ => id) [] subject rpcId).of runs

end Reads

section Sessions

variable {permitted : History → Op → Prop} {ctx : Context} (history : History)

theorem delete_ensures (sessionId : String)
    (allowed : permitted history (.redisDelete (sessionKey sessionId))) :
    Ensures permitted history (delete sessionId) (fun later _ => SameReads history later) := by
  apply Ensures.bind (ensures_request allowed)
  rintro _ answer _ rfl
  exact ensures_pure (sameReads_concat _ _ _ rfl)

theorem record_ensures (sessionId : String) (tenantId : Uuid) (subjectId serverSlug : String)
    (allowed : permitted history (.redisSet (sessionKey sessionId)
      (payloadText tenantId subjectId serverSlug) sessionTtlSeconds)) :
    Ensures permitted history (record sessionId tenantId subjectId serverSlug)
      (fun _ _ => True) := by
  unfold record
  split
  · apply Ensures.bind (ensures_request allowed)
    intro later answer _ _
    exact (ensures_orRaise answer).conseq fun _ _ _ _ => trivial
  · exact ensures_pure trivial

theorem own_of_no_conflict (old : Option SessionRecord) (subject : Subject)
    (agrees : ¬ (old.isSome ∧ matchesOwner old subject.tenantId subject.subjectId
      ctx.request.serverSlug = false)) :
    old = none ∨ old = some (ownRecord ctx subject) := by
  cases old with
  | none => exact .inl rfl
  | some record =>
    right
    simp only [Option.isSome_some, true_and, Bool.not_eq_false, matchesOwner_some] at agrees
    rw [agrees, ownRecord]

variable (free : ∀ later op, isForward op = false → SessionWrite ctx later op → permitted later op)
include free

theorem permits_plain (later : History) (op : Op) (plain : plainKinds.contains (kind op) = true) :
    permitted later op := by
  cases op with
  | forward _ | redisGet _ | redisExpire _ _ | redisSet _ _ _ | redisDelete _ => cases plain
  | _ => exact free later _ rfl trivial

theorem permits_reads (later : History) (op : Op) (read : Within [.sessionRead] later op) :
    permitted later op := by
  cases op with
  | redisGet _ | redisExpire _ _ => exact free later _ rfl trivial
  | _ => cases read

theorem dropReplaced_ensures (subject : Subject) (issued : String) (before : History)
    (auth : Authenticated history subject) (read : InboundRead ctx before subject)
    (unread : ∀ key, key ≠ sessionKey issued → lastGet key history = lastGet key before) :
    Ensures permitted history (dropReplaced ((ctx.request.header "mcp-session-id").getD "") issued)
      (fun later _ => SameReads history later) := by
  unfold dropReplaced
  cases presented : ctx.request.header "mcp-session-id" with
  | none => exact ensures_pure fun _ => rfl
  | some inbound =>
    split
    · rename_i replaced
      have other : sessionKey inbound ≠ sessionKey issued :=
        fun same => replaced.2 (sessionKey_injective _ _ same)
      have own := (read inbound presented replaced.1).after (unread _ other)
      exact delete_ensures history inbound (free _ _ rfl ⟨subject, auth, own⟩)
    · exact ensures_pure fun _ => rfl

theorem persistSession_ensures (subject : Subject) (rpcId : Option RpcId)
    (upstream : UpstreamResponse) (auth : Authenticated history subject)
    (read : InboundRead ctx history subject) :
    Ensures permitted history (persistSession ctx subject rpcId upstream) (fun _ _ => True) := by
  unfold persistSession
  dsimp only
  split
  · exact ensures_pure trivial
  apply Ensures.bind (lookup_ensures (permits_reads free) history _)
  rintro later old grown ⟨looked, others⟩
  split
  · exact ensures_error
  rename_i agrees
  have own := own_of_no_conflict old subject agrees
  apply Ensures.bind (dropReplaced_ensures later free subject _ history
    (auth.mono grown) read others)
  intro dropped _ droppedGrown same
  have write : SessionWrite ctx dropped (.redisSet _ _ sessionTtlSeconds) :=
    ⟨subject, old, (auth.mono grown).mono droppedGrown, rfl,
      looked.after (same _), own⟩
  apply Ensures.bind (record_ensures dropped _ _ _ _ (free _ _ rfl write))
  intro _ _ _ _
  exact ensures_pure trivial

theorem respondTo_ensures (subject : Subject) (rpc : JsonRpcRequest) (rlHeaders : Headers)
    (stream : Bool) (upstream : UpstreamResponse)
    (auth : Authenticated history subject)
    (read : InboundRead ctx history subject) :
    Ensures permitted history (respondTo ctx subject rpc rlHeaders stream upstream)
      (fun _ _ => True) := by
  have plain := permits_plain free
  unfold respondTo
  split
  · exact ensures_pure trivial
  apply Ensures.bind ((checkResponseSize_ensures ctx history rpc.id stream upstream).calm plain)
  rintro sized _ sizedGrown ⟨_, same⟩
  apply Ensures.bind (persistSession_ensures sized free subject rpc.id upstream
    (auth.mono sizedGrown) (read.after same))
  intro persisted _ _ _
  split
  · exact ensures_pure trivial
  split
  · exact ((filteredResponse_ensures ctx persisted subject _ _ upstream _).calm
      plain).conseq fun _ _ _ _ => trivial
  unfold bufferedResponse auditCall
  split
  · apply Ensures.bind (ensures_request (plain _ _ rfl))
    intro _ _ _ _
    exact ensures_pure trivial
  · exact ensures_pure trivial

end Sessions

end Portcullis.Gateway.Mediation
