import Portcullis.Auth.ToolFilter

/-!
# Proxy handlers

`mcp_proxy` and `mcp_sse_stream` of `app/gateway/router.py`.  Timing, metrics and log
output are left out; every check, every early return and every effect on the
database, on Redis and on the upstream is a request of the program, in source order.
-/

namespace Portcullis.Gateway.Router

open Auth.Rbac Auth.ToolFilter Gateway.JsonRpc Gateway.Session Lib Lib.PyStr Models

section Handlers

variable (ctx : Context)

/-! ## Request body -/

/-- Compare a declared length with a limit; a digit `int` does not read raises. -/
def declaredTooLarge (declared : Option String) (limit : Nat) : Except Exn Bool :=
  match declared with
  | none => .ok false
  | some text =>
    if !isDigitText text.toList then .ok false
    else match parseInt text.toList with
      | none => .error .valueError
      | some length => .ok (decide ((limit : Int) < length))

/-- The code and the status that `mcp_proxy` reads off the message of a rejection. -/
def rejectionCode (message : String) : Int × Nat :=
  if occursIn "code=-32700".toList message.toList then (parseErrorCode, 400)
  else if occursIn "code=-32601".toList message.toList then (methodNotFoundCode, 404)
  else (invalidRequestCode, 400)

def rejectionText (message : String) : String :=
  match splitOnce ' ' message.toList with
  | none => message
  | some (_, rest) => String.ofList rest

/-- Step 1 of `mcp_proxy`. -/
def readRequest : Gate JsonRpcRequest := do
  let tooLarge := ctx.error 413 none invalidRequestCode "Request body too large"
  let declared ← orRaise (declaredTooLarge (ctx.request.header "content-length")
    ctx.settings.maxRequestBodyBytes)
  if declared then respond tooLarge
  else if ctx.settings.maxRequestBodyBytes < ctx.request.body.length then respond tooLarge
  else
    match parseRequest ctx.platform.jsonLimits ctx.request.body with
    | .ok rpc => pure rpc
    | .error .recursionError => raise .recursionError
    | .error (.valueError rejection) =>
      let (code, status) := rejectionCode rejection.message
      respond (ctx.error status none code (rejectionText rejection.message))

/-! ## Forwarding -/

variable (subject : Subject) (server : McpServer) (rpc : JsonRpcRequest)
  (upstream : UpstreamResponse)

def forwardCall (method : String) (headers : Headers) (body : Encoding.Bytes) (stream : Bool) :
    ForwardCall where
  upstreamUrl := server.upstreamUrl
  path := ""
  method := method
  headers := headers
  body := body
  stream := stream
  server := server

/-- `proxy.forward` with its `except UpstreamError`. -/
def forward (call : ForwardCall) (rpcId : Option RpcId) (rlHeaders : Headers) :
    Gate UpstreamResponse := do
  match ← request (.forward call) with
  | .ok upstream => pure upstream
  | .error .upstreamError =>
    respond (jsonError ctx.request 502 rpcId upstreamUnavailableCode "Upstream server error"
      rlHeaders)
  | .error exn => raise exn

/-- Step 4b of `mcp_proxy`. -/
def terminateSession (rpc : JsonRpcRequest) :
    Gate Response := do
  let inbound := (ctx.request.header "mcp-session-id").getD ""
  if inbound = "" then
    respond (ctx.error 400 rpc.id invalidParamsCode
      "session/terminate requires Mcp-Session-Id header")
  else if !isValidSessionId inbound then
    respond (ctx.error 400 rpc.id invalidParamsCode "Invalid Mcp-Session-Id")
  else do
    match ← lookup ctx.platform inbound with
    | none => respond (ctx.error 404 rpc.id invalidParamsCode "Session not found")
    | some record =>
      if !matchesOwner (some record) subject.tenantId subject.subjectId
          ctx.request.serverSlug then
        respond (ctx.error 403 rpc.id forbiddenCode "Not authorized to terminate this session")
      else do
        let rlHeaders ← checkRateLimit ctx subject "session/terminate" rpc.id
        delete inbound
        let headers ← buildUpstreamHeaders ctx server
        let upstream ← forward ctx
          (forwardCall server ctx.request.method headers ctx.request.body false) rpc.id
          rlHeaders
        request (.recordEvent (callerRecord ctx subject rpc .toolCall "allowed"
          (some (.str "session/terminate"))
          (.obj [("terminated_session_id", .str inbound)])))
        pure { status := upstream.statusCode
               headers := rlHeaders ++ requestIdHeaders ctx.request
               mediaType := some "application/json"
               body := .bytes upstream.content }

/-! ## Dry run -/

def truthyQuery : List String := ["1", "true", "yes"]

def isDryRun : Bool :=
  truthyQuery.contains (lowerName ((ctx.request.queryParam "dry_run").getD ""))

def explanation (rlHeaders : Headers) : Json :=
  .obj [("jsonrpc", .str "2.0"), ("id", rpcIdJson rpc.id),
    ("result", .obj [("allowed", .bool true), ("server_slug", .str ctx.request.serverSlug),
      ("method", .str rpc.method.text), ("tool", (resourceName rpc).getD .null),
      ("subject_type", .str subject.subjectType.value),
      ("rate_limit", .obj (rlHeaders.map fun header => (header.1, .str header.2))),
      ("upstream_would_forward_to", .str server.upstreamUrl)])]

def explainDryRun (rlHeaders : Headers) : Gate Response := do
  request (.recordEvent (callerRecord ctx subject rpc .toolCall "allowed" (resourceName rpc)
    (.obj [("dry_run", .bool true)])))
  pure { status := 200
         headers := rlHeaders ++ requestIdHeaders ctx.request ++ [("X-Portcullis-Dry-Run", "1")]
         mediaType := some "application/json"
         body := .json (explanation ctx subject server rpc rlHeaders) }

/-! ## Upstream response -/

def dropReplaced (inbound issued : String) : Gate Unit :=
  if inbound ≠ "" ∧ inbound ≠ issued then delete inbound else pure ()

/-- Step of both handlers that records the session id an upstream issued, and the
header that hands it to the client. -/
def persistSession (rpcId : Option RpcId) (upstream : UpstreamResponse) : Gate Headers :=
  let inbound := (ctx.request.header "mcp-session-id").getD ""
  let issued := (upstream.header "mcp-session-id").getD ""
  if issued = "" ∨ isValidSessionId issued = false then pure []
  else do
    let existing ← lookup ctx.platform issued
    if existing.isSome ∧ matchesOwner existing subject.tenantId subject.subjectId
        ctx.request.serverSlug = false then
      respond (ctx.error 409 rpcId invalidRequestCode "Session id conflict")
    else do
      dropReplaced inbound issued
      record issued subject.tenantId subject.subjectId ctx.request.serverSlug
      pure [("Mcp-Session-Id", issued)]

/-- `str.startswith`. -/
def isEventStream (contentType : String) : Bool :=
  "text/event-stream".toList.isPrefixOf contentType.toList

def orDefault (contentType fallback : String) : String :=
  if contentType = "" then fallback else contentType

/-- The bounds on a buffered upstream body. -/
def checkResponseSize (rpcId : Option RpcId) (stream : Bool) (upstream : UpstreamResponse) :
    Gate Unit :=
  if stream then pure ()
  else do
    let tooLarge := ctx.error 502 rpcId upstreamUnavailableCode "Upstream response too large"
    let declared ← orRaise (declaredTooLarge (upstream.header "content-length")
      ctx.settings.maxResponseBodyBytes)
    if declared then respond tooLarge
    else if ctx.settings.maxResponseBodyBytes < upstream.content.length then respond tooLarge
    else pure ()

/-- The list and the name key of a filtered method. -/
def listKeys : Method → Option (String × String)
  | .toolsList => some ("tools", "name")
  | .resourcesList => some ("resources", "uri")
  | .promptsList => some ("prompts", "name")
  | .rootsList => some ("roots", "uri")
  | _ => none

def rawResponse (headers : Headers) (fallback : String) :
    Response where
  status := upstream.statusCode
  headers := headers
  mediaType := some (orDefault ((upstream.header "content-type").getD "") fallback)
  body := .bytes upstream.content

/-- The filtered branch of the response handling.  A body that is no JSON is passed
through, and a number JSON cannot express makes the rendering raise. -/
def filteredResponse (listKey nameKey : String) (upstream : UpstreamResponse) (headers : Headers) :
    Gate Response :=
  match Json.loads ctx.platform.jsonLimits upstream.content with
  | .error .recursionError => raise .recursionError
  | .error _ => pure (rawResponse upstream headers "application/json")
  | .ok responseBody => do
    let filtered ← filterGenericList ctx subject listKey nameKey responseBody
    if filtered.isFinite then
      pure { status := upstream.statusCode
             headers := headers
             mediaType := some "application/json"
             body := .json filtered }
    else raise .valueError

def isAudited (method : Method) : Bool :=
  [Method.toolsCall, .resourcesRead, .promptsGet, .samplingCreateMessage].contains method

def auditCall (upstream : UpstreamResponse) : Gate Unit :=
  if isAudited rpc.method ∧ upstream.statusCode < 500 then
    request (.recordEvent (callerRecord ctx subject rpc .toolCall "allowed" (resourceName rpc)
      (.obj [("upstream_status", .int upstream.statusCode)])))
  else pure ()

def bufferedResponse (headers : Headers) : Gate Response := do
  auditCall ctx subject rpc upstream
  pure (rawResponse upstream headers "application/json")

/-- The answer to a notification. -/
def notificationResponse (rlHeaders : Headers) : Response :=
  let issued := (upstream.header "mcp-session-id").getD ""
  { status := 202
    headers := rlHeaders ++ requestIdHeaders ctx.request ++
      (if issued ≠ "" ∧ some issued ≠ ctx.request.header "mcp-session-id" then
        [("Mcp-Session-Id", issued)] else [])
    mediaType := none
    body := .empty }

/-- Steps 8 and 9 of `mcp_proxy`. -/
def respondTo (rlHeaders : Headers) (stream : Bool) (upstream : UpstreamResponse) : Gate Response :=
  if rpc.id.isNone then pure (notificationResponse ctx upstream rlHeaders)
  else do
    checkResponseSize ctx rpc.id stream upstream
    let sessionHeaders ← persistSession ctx subject rpc.id upstream
    let headers := rlHeaders ++ requestIdHeaders ctx.request ++ sessionHeaders
    if isEventStream ((upstream.header "content-type").getD "") || stream then
      pure (rawResponse upstream headers "text/event-stream")
    else
      match listKeys rpc.method with
      | some (listKey, nameKey) =>
        filteredResponse ctx subject listKey nameKey upstream headers
      | none => bufferedResponse ctx subject rpc upstream headers

/-! ## Handlers -/

/-- `resource_name or method`.  A resource that is no string has been refused by the
permission check. -/
def toolOrMethod (rpc : JsonRpcRequest) : String :=
  match resourceName rpc with
  | some (.str name) => if name = "" then rpc.method.text else name
  | _ => rpc.method.text

def checkCap (rpc : JsonRpcRequest) : Gate Unit :=
  if rpc.method = .toolsCall then do
    let underCap ← orRaise (← request (.checkUsageCap subject.tenantId))
    if underCap then pure ()
    else respond (ctx.error 402 rpc.id invalidRequestCode "Monthly usage cap reached for this plan")
  else pure ()

def wantsStream : Bool :=
  occursIn "text/event-stream".toList ((ctx.request.header "accept").getD "").toList

/-- Steps 5 to 9 of `mcp_proxy`. -/
def proxyRequest (rpc : JsonRpcRequest) :
    Gate Response := do
  let rlHeaders ← checkRateLimit ctx subject (toolOrMethod rpc) rpc.id
  if isDryRun ctx then explainDryRun ctx subject server rpc rlHeaders
  else do
    request (.recordUsageQueued
      ⟨subject.tenantId, 1, if rpc.method = .toolsCall then 1 else 0, 0, 0⟩)
    checkCap ctx subject rpc
    let headers ← buildUpstreamHeaders ctx server
    let upstream ← forward ctx
      (forwardCall server ctx.request.method headers ctx.request.body (wantsStream ctx)) rpc.id
      rlHeaders
    respondTo ctx subject rpc rlHeaders (wantsStream ctx) upstream

/-- The part of `mcp_proxy` inside its `try`. -/
def handlePost (rpc : JsonRpcRequest) : Gate Response := do
  let subject ← runPreAuthChecks ctx rpc.id
  let server ← resolveServer ctx subject rpc.id
  validateSession ctx subject rpc.id
  checkPermission ctx subject rpc
  if rpc.method = .sessionTerminate then terminateSession ctx subject server rpc
  else proxyRequest ctx subject server rpc

def internalError (rpcId : Option RpcId) : Response :=
  ctx.error 500 rpcId internalErrorCode "Internal server error"

def answerPost : Gate Response := do
  let rpc ← readRequest ctx
  exceptAll (handlePost ctx rpc) fun _ => respond (internalError ctx rpc.id)

/-- `POST /mcp/{server_slug}`. -/
def mcpProxy : Gate Response := settle do
  match ← request .pluginPreAuth with
  | some response => respond response
  | none => answerPost ctx

def handleGet : Gate Response := do
  let subject ← runPreAuthChecks ctx none
  let server ← resolveServer ctx subject none
  validateSession ctx subject none
  let rlHeaders ← checkRateLimit ctx subject "stream" none
  request (.recordUsageQueued ⟨subject.tenantId, 1, 0, 0, 0⟩)
  let headers ← buildUpstreamHeaders ctx server
  let upstream ← forward ctx (forwardCall server "GET" headers [] true) none rlHeaders
  let sessionHeaders ← persistSession ctx subject none upstream
  pure (rawResponse upstream (rlHeaders ++ requestIdHeaders ctx.request ++ sessionHeaders)
    "text/event-stream")

/-- `GET /mcp/{server_slug}`. -/
def mcpSseStream : Gate Response := settle do
  exceptAll (handleGet ctx) fun _ => respond (internalError ctx none)

end Handlers

end Portcullis.Gateway.Router
