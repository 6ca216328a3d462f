import Portcullis.Gateway.JsonRpc
import Portcullis.Lib.Prog
import Portcullis.Limits.RedisBucket
import Portcullis.Security.Upstreams

/-!
# Requests, responses and effects of the gateway

What the proxy handlers of `app/gateway/router.py` read and return, and the requests
they make to the database, to Redis, to the metering queue and to the upstream.  A
handler is a program over these requests: an early `return` is a failure that carries
the response, a raised exception a failure that carries its class.
-/

namespace Portcullis.Gateway

open Auth.Rbac Gateway.JsonRpc Lib Lib.Encoding Lib.PyStr Limits.Policies Limits.RedisBucket Models
  Security.Upstreams

/-- Exception classes the handlers tell apart. -/
inductive Exn where
  | redisError
  | valueError
  | keyError
  | typeError
  | attributeError
  | recursionError
  | upstreamError
  | databaseError
  | other
  deriving DecidableEq, Repr

abbrev Headers := List (String × String)

inductive Body where
  | empty
  | json (value : Json)
  | bytes (content : Bytes)
  deriving DecidableEq

structure Response where
  status : Nat
  headers : Headers
  mediaType : Option String
  body : Body
  deriving DecidableEq

/-- The inbound request.  Header names are lower case, as the server delivers them. -/
structure Request where
  serverSlug : String
  method : String
  headers : Headers
  query : List (String × String)
  body : Bytes
  clientIp : String
  requestId : Option String

structure Settings where
  maxRequestBodyBytes : Nat
  maxResponseBodyBytes : Nat
  authRateLimitDefault : String
  rateLimitDefault : String
  upstreamAllowedHosts : String
  environment : Environment

/-- Behaviour of the interpreter and its libraries: limits of the JSON decoder, URL
tables, and `str()` of a JSON value that is no string. -/
structure Platform where
  jsonLimits : Json.Limits
  urls : UrlTables
  strOf : Json → String

structure Context where
  settings : Settings
  platform : Platform
  request : Request

def Settings.upstreamHostsTuple (settings : Settings) : List String :=
  let items := (settings.upstreamAllowedHosts.toList.splitOn ',').map strip
  (items.filter fun item => !item.isEmpty).map String.ofList

/-- `request.headers.get`: the first header of that name. -/
def Request.header (request : Request) (name : String) : Option String :=
  (request.headers.find? fun header => header.1 = name).map Prod.snd

/-- `request.query_params.get`: the last parameter of that name. -/
def Request.queryParam (request : Request) (name : String) : Option String :=
  (request.query.reverse.find? fun param => param.1 = name).map Prod.snd

structure UpstreamResponse where
  statusCode : Nat
  headers : Headers
  content : Bytes

/-- `httpx.Headers.get`: the values of all headers of that name. -/
def UpstreamResponse.header (response : UpstreamResponse) (name : String) : Option String :=
  match (response.headers.filter fun header => header.1 = name).map Prod.snd with
  | [] => none
  | first :: rest => some (rest.foldl (fun joined value => joined ++ ", " ++ value) first)

structure AuditRecord where
  eventType : AuditEventType
  outcome : String
  tenantId : Option Uuid
  subjectId : Option String
  subjectType : Option SubjectType
  serverSlug : String
  toolName : Option Json
  rpcMethod : Option Method
  clientIp : String
  requestId : Option String
  detail : Option Json

structure UsageDelta where
  tenantId : Uuid
  requests : Nat
  toolCalls : Nat
  rbacDenials : Nat
  rateLimitRejections : Nat

/-- The arguments of `McpProxy.forward`. -/
structure ForwardCall where
  upstreamUrl : String
  path : String
  method : String
  headers : Headers
  body : Bytes
  stream : Bool
  server : McpServer

inductive Op where
  | pluginPreAuth
  | checkPreAuthLimit (clientIp : String) (limit window : Int)
  | authenticate (rawToken : String)
  | recordEvent (record : AuditRecord)
  | getBySlug (tenantId : Uuid) (slug : String)
  | listPolicies (tenantId : Uuid)
  | limiterCheck (key : String) (policy : EffectivePolicy)
  | permissionsForSubject (tenantId : Uuid) (subjectType : SubjectType) (subjectId : String)
  | redisGet (key : String)
  | redisExpire (key : String) (seconds : Nat)
  | redisSet (key value : String) (seconds : Nat)
  | redisDelete (key : String)
  | recordUsageQueued (delta : UsageDelta)
  | checkUsageCap (tenantId : Uuid)
  | getenv (name : String)
  | forward (call : ForwardCall)

/-- Audit recording and queued metering never raise; the plugin hook answers with a
response only when a registered plugin short-circuits the request. -/
abbrev Ans : Op → Type
  | .pluginPreAuth => Option Response
  | .checkPreAuthLimit _ _ _ => Except Exn RateLimitResult
  | .authenticate _ => Except Exn Subject
  | .recordEvent _ => Unit
  | .getBySlug _ _ => Except Exn (Option McpServer)
  | .listPolicies _ => Except Exn (List RateLimitPolicy)
  | .limiterCheck _ _ => Except Exn RateLimitResult
  | .permissionsForSubject _ _ _ => Except Exn (List ToolPermission)
  | .redisGet _ => Except Exn (Option String)
  | .redisExpire _ _ => Except Exn Unit
  | .redisSet _ _ _ => Except Exn Unit
  | .redisDelete _ => Except Exn Unit
  | .recordUsageQueued _ => Unit
  | .checkUsageCap _ => Except Exn Bool
  | .getenv _ => Option String
  | .forward _ => Except Exn UpstreamResponse

inductive Exit where
  | respond (response : Response)
  | raise (exn : Exn)
  deriving DecidableEq

abbrev Gate := Prog Op Ans Exit

def request (op : Op) : Gate (Ans op) := Prog.request op

def respond {Value : Type} (response : Response) : Gate Value := .fail (.respond response)

def raise {Value : Type} (exn : Exn) : Gate Value := .fail (.raise exn)

/-- Continue with an answer, or raise what it raised. -/
def orRaise {Value : Type} : Except Exn Value → Gate Value
  | .ok value => pure value
  | .error exn => raise exn

theorem exec_orRaise_ok_iff {Value : Type} (env : (op : Op) → Ans op)
    (answer : Except Exn Value) (value : Value) :
    (orRaise answer).exec env = .ok value ↔ answer = .ok value := by
  cases answer with
  | ok ans => simp [orRaise]
  | error exn => simp [orRaise, raise]

/-- `try: ... except Exception: ...`, which a `return` passes through. -/
def exceptAll {Value : Type} (body : Gate Value) (handler : Exn → Gate Value) : Gate Value :=
  body.recover fun exit =>
    match exit with
    | .respond response => respond response
    | .raise exn => handler exn

/-- The end of a handler: what it returned early is its response. -/
def settle (body : Gate Response) : Gate Response :=
  body.recover fun exit =>
    match exit with
    | .respond response => pure response
    | .raise exn => raise exn

theorem exec_settle_ok_iff (env : (op : Op) → Ans op) (body : Gate Response) (resp : Response) :
    (settle body).exec env = .ok resp ↔
      body.exec env = .ok resp ∨ body.exec env = .error (.respond resp) := by
  rw [settle, Prog.exec_recover]
  cases body.exec env with
  | ok ret => simp
  | error exit => cases exit <;> simp [raise]

/-! ## Responses -/

def requestIdHeaders (request : Request) : Headers :=
  match request.requestId with
  | none => []
  | some requestId => if requestId = "" then [] else [("X-Request-Id", requestId)]

def jsonError (request : Request) (status : Nat) (rpcId : Option RpcId) (code : Int)
    (message : String) (extraHeaders : Headers) : Response where
  status := status
  headers := requestIdHeaders request ++ extraHeaders
  mediaType := some "application/json"
  body := .json (makeError rpcId code message)

/-- `str(int(seconds))`. -/
def wholeSeconds (seconds : ℚ) : String := toString (seconds.num.tdiv seconds.den)

def rateLimitHeaders (result : RateLimitResult) : Headers :=
  [("RateLimit-Limit", toString result.limit), ("RateLimit-Remaining", toString result.remaining),
    ("RateLimit-Reset", wholeSeconds result.resetAfterSeconds)]

end Portcullis.Gateway
