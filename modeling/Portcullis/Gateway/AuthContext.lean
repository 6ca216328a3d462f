import Portcullis.Gateway.Session

/-!
# Checks shared by the proxy handlers

The methods of `_AuthContext` in `app/gateway/router.py`, the permission check of
`mcp_proxy` and the upstream headers of `app/gateway/headers.py`.  Each check either
returns what it established or leaves the handler with an error response.
-/

namespace Portcullis.Gateway

open Auth.Rbac Gateway.JsonRpc Gateway.Session Lib Lib.Glob Lib.PyStr Limits.Policies
  Limits.RedisBucket Models Security.Upstreams

section Checks

variable (ctx : Context)

/-- `_json_error` on the request of the context. -/
def Context.error (status : Nat) (rpcId : Option RpcId) (code : Int) (message : String) :
    Response :=
  jsonError ctx.request status rpcId code message []

def defaultExn : DefaultError → Exn
  | .valueError => .valueError
  | .keyError => .keyError

def defaultLimit (defaultStr : String) : Except Exn (Int × Int) :=
  (parseDefault defaultStr).mapError defaultExn

/-- `authorization.removeprefix("Bearer ").strip()`. -/
def rawToken (authorization : String) : String :=
  let chars := authorization.toList
  let bearer := "Bearer ".toList
  String.ofList (strip (if bearer.isPrefixOf chars then chars.drop bearer.length else chars))

def retryAfter (result : RateLimitResult) : Headers :=
  [("Retry-After", wholeSeconds result.retryAfterSeconds)]

def authFailureRecord : AuditRecord where
  eventType := .authFailure
  outcome := "denied"
  tenantId := none
  subjectId := none
  subjectType := none
  serverSlug := ctx.request.serverSlug
  toolName := none
  rpcMethod := none
  clientIp := ctx.request.clientIp
  requestId := ctx.request.requestId
  detail := none

def checkPreAuth (rpcId : Option RpcId) : Gate Unit := do
  let (limit, window) ← orRaise (defaultLimit ctx.settings.authRateLimitDefault)
  match ← request (.checkPreAuthLimit ctx.request.clientIp limit window) with
  | .error .redisError =>
    respond (ctx.error 503 rpcId internalErrorCode "Rate limit backend unavailable")
  | .error exn => raise exn
  | .ok result =>
    if result.allowed then pure ()
    else respond (jsonError ctx.request 429 rpcId rateLimitedCode
      "Pre-auth rate limit exceeded" (rateLimitHeaders result ++ retryAfter result))

def authenticateCaller (rpcId : Option RpcId) : Gate Subject := do
  let token := rawToken ((ctx.request.header "authorization").getD "")
  let unauthorized := ctx.error 401 rpcId unauthorizedCode "Invalid or missing credentials"
  if token = "" then respond unauthorized
  else
    match ← request (.authenticate token) with
    | .error .valueError => do
      let _ ← request (.recordEvent (authFailureRecord ctx))
      respond unauthorized
    | .error exn => raise exn
    | .ok subject => pure subject

def runPreAuthChecks (rpcId : Option RpcId) : Gate Subject := do
  checkPreAuth ctx rpcId
  authenticateCaller ctx rpcId

variable (subject : Subject) (toolOrMethod : String)

def resolveServer (rpcId : Option RpcId) : Gate McpServer := do
  let slug := ctx.request.serverSlug
  match ← request (.getBySlug subject.tenantId slug) with
  | .error exn => raise exn
  | .ok none =>
    respond (ctx.error 404 rpcId methodNotFoundCode ("Server '" ++ slug ++ "' not found"))
  | .ok (some server) =>
    match validateUpstreamUrl ctx.platform.urls server.upstreamUrl
        ctx.settings.upstreamHostsTuple ctx.settings.environment with
    | .error _ =>
      respond (ctx.error 502 rpcId upstreamUnavailableCode
        ("Server '" ++ slug ++ "' upstream no longer allowed"))
    | .ok () =>
      if server.status = .disabled ∨ server.status = .unhealthy then
        respond (ctx.error 503 rpcId upstreamUnavailableCode
          ("Server '" ++ slug ++ "' is " ++ server.status.value))
      else pure server

/-- `validate_session`: an absent or empty header is a new session. -/
def validateSession (rpcId : Option RpcId) : Gate Unit :=
  match ctx.request.header "mcp-session-id" with
  | none => pure ()
  | some inbound =>
    if inbound = "" then pure ()
    else if !isValidSessionId inbound then
      respond (ctx.error 400 rpcId invalidParamsCode "Invalid Mcp-Session-Id")
    else do
      let found ← exceptAll (lookup ctx.platform inbound) fun _ =>
        respond (ctx.error 503 rpcId internalErrorCode "Session backend unavailable")
      match found with
      | none => respond (ctx.error 404 rpcId invalidParamsCode "Session not found")
      | some record =>
        if matchesOwner (some record) subject.tenantId subject.subjectId
            ctx.request.serverSlug then pure ()
        else respond (ctx.error 403 rpcId forbiddenCode "Session does not belong to caller")

def effectivePolicy (policies : List RateLimitPolicy) : Except DefaultError EffectivePolicy :=
  resolvePolicy (some subject.subjectId) (some subject.subjectType)
    (some ctx.request.serverSlug) (some toolOrMethod) policies ctx.settings.rateLimitDefault

/-- The key under which the limiter counts a call of the subject. -/
def limiterKey (policy : EffectivePolicy) : String :=
  checkKey subject.tenantId subject.subjectId ctx.request.serverSlug toolOrMethod policy.scope

/-- `check_rate_limit`; returns the rate-limit headers of later responses. -/
def checkRateLimit (rpcId : Option RpcId) :
    Gate Headers := do
  let policies ← orRaise (← request (.listPolicies subject.tenantId))
  let policy ← orRaise ((effectivePolicy ctx subject toolOrMethod policies).mapError defaultExn)
  match ← request (.limiterCheck (limiterKey ctx subject toolOrMethod policy) policy) with
  | .error .redisError =>
    respond (ctx.error 503 rpcId internalErrorCode "Rate limit backend unavailable")
  | .error exn => raise exn
  | .ok result =>
    if result.allowed then pure (rateLimitHeaders result)
    else do
      request (.recordUsageQueued ⟨subject.tenantId, 0, 0, 0, 1⟩)
      respond (jsonError ctx.request 429 rpcId rateLimitedCode "Rate limit exceeded"
        (rateLimitHeaders result ++ retryAfter result))

/-! ## Permission check -/

/-- `evaluate_permission` on a JSON value.  Matching a value that is no string raises
as soon as some rule applies to the server. -/
def evaluateOn (resource : Json) (permissions : List ToolPermission) :
    Except Exn PermissionDecision :=
  match resource with
  | .str name =>
    .ok (evaluatePermission fnmatchcase subject.subjectId ctx.request.serverSlug name permissions)
  | _ =>
    if permissions.any fun rule =>
        fnmatchcase ctx.request.serverSlug rule.serverPattern then .error .typeError
    else .ok ⟨false, none, "default deny"⟩

/-- `rbac_required_methods`. -/
def rbacRequired : Method → Bool
  | .toolsCall => true
  | .resourcesRead => true
  | .resourcesSubscribe => true
  | .resourcesUnsubscribe => true
  | .promptsGet => true
  | .samplingCreateMessage => true
  | _ => false

def callerRecord (rpc : JsonRpcRequest) (eventType : AuditEventType) (outcome : String)
    (toolName : Option Json) (detail : Json) : AuditRecord where
  eventType := eventType
  outcome := outcome
  tenantId := some subject.tenantId
  subjectId := some subject.subjectId
  subjectType := some subject.subjectType
  serverSlug := ctx.request.serverSlug
  toolName := toolName
  rpcMethod := some rpc.method
  clientIp := ctx.request.clientIp
  requestId := ctx.request.requestId
  detail := some detail

def denialDetail (decision : PermissionDecision) : Json :=
  .obj [("rule_id", .str (match decision.ruleId with
      | none => "None"
      | some ruleId => ruleId.str)),
    ("reason", .str decision.reason)]

def resourceText (resource : Json) : String :=
  match resource with
  | .str name => name
  | other => ctx.platform.strOf other

/-- Step 4 of `mcp_proxy`. -/
def checkPermission (rpc : JsonRpcRequest) : Gate Unit :=
  if !rbacRequired rpc.method then pure ()
  else
    match resourceName rpc with
    | none =>
      respond (ctx.error 422 rpc.id invalidParamsCode
        (rpc.method.text ++ " requires resource identifier"))
    | some resource => do
      let permissions ← orRaise (← request (.permissionsForSubject subject.tenantId
        subject.subjectType subject.subjectId))
      let decision ← orRaise (evaluateOn ctx subject resource permissions)
      if decision.allowed then pure ()
      else do
        request (.recordUsageQueued ⟨subject.tenantId, 0, 0, 1, 0⟩)
        request (.recordEvent (callerRecord ctx subject rpc .rbacDeny "denied"
          (some resource) (denialDetail decision)))
        respond (ctx.error 403 rpc.id forbiddenCode
          ("Resource '" ++ resourceText ctx resource ++ "' is not permitted"))

/-! ## Upstream headers -/

def stripFromClient : List String :=
  ["authorization", "cookie", "set-cookie", "connection", "keep-alive", "proxy-authenticate",
    "proxy-authorization", "te", "trailers", "transfer-encoding", "upgrade", "host"]

/-- `dict(request.headers)`: one entry for a name, with its first value. -/
def headerDict (headers : Headers) : Headers :=
  headers.foldl (fun kept header =>
    if kept.any (fun seen => seen.1 = header.1) then kept else kept ++ [header]) []

/-- `PORTCULLIS_UPSTREAM_TOKEN_[A-Z0-9_]{1,64}`. -/
def isTokenEnvVar (name : String) : Bool :=
  let front := "PORTCULLIS_UPSTREAM_TOKEN_".toList
  let rest := name.toList.drop front.length
  front.isPrefixOf name.toList && decide (1 ≤ rest.length) && decide (rest.length ≤ 64) &&
    rest.all fun char => char.isUpper || char.isDigit || char == '_'

def extractServiceToken (envVarName : Option String) : Gate (Option String) :=
  match envVarName with
  | none => pure none
  | some name =>
    if name = "" ∨ isTokenEnvVar name = false then pure none
    else do
      let value := (← request (.getenv name)).getD ""
      pure (if value = "" then none else some value)

def lowerName (name : String) : String := String.ofList (name.toList.map Char.toLower)

/-- `build_upstream_headers`. -/
def sanitizeHeaders (clientHeaders : Headers) (serviceToken : Option String) : Headers :=
  let kept := clientHeaders.filter fun header => !stripFromClient.contains (lowerName header.1)
  match serviceToken with
  | none => kept
  | some token => kept ++ [("Authorization", "Bearer " ++ token)]

def serviceTokenOf (server : McpServer) : Gate (Option String) :=
  if server.authMode = .serviceToken then extractServiceToken server.serviceTokenEnvVar
  else pure none

def buildUpstreamHeaders (server : McpServer) : Gate Headers := do
  let serviceToken ← serviceTokenOf server
  pure (sanitizeHeaders (headerDict ctx.request.headers) serviceToken)

end Checks

end Portcullis.Gateway
