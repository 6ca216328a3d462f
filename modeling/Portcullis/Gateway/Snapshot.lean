import Portcullis.Gateway.Router
import Portcullis.Repositories.Database

/-!
# Requests against a snapshot

The state a request meets: database rows, what Redis holds and answers, and what the
authenticator and the upstream do.  It answers every request of a handler, so a
handler against a snapshot is a function.
-/

namespace Portcullis.Gateway

open Auth.Rbac Gateway.JsonRpc Lib Lib.Encoding Limits.Policies Limits.RedisBucket Models
  Repositories

structure Snapshot where
  database : Database
  plugin : Option Response
  preAuth : String → Int → Int → Except Exn RateLimitResult
  authenticate : String → Except Exn Subject
  limiter : String → EffectivePolicy → Except Exn RateLimitResult
  redis : String → Except Exn (Option String)
  redisWrites : Except Exn Unit
  underCap : Uuid → Except Exn Bool
  environment : String → Option String
  upstream : ForwardCall → Except Exn UpstreamResponse

def Snapshot.answer (snapshot : Snapshot) : (op : Op) → Ans op
  | .pluginPreAuth => snapshot.plugin
  | .checkPreAuthLimit clientIp limit window => snapshot.preAuth clientIp limit window
  | .authenticate rawToken => snapshot.authenticate rawToken
  | .recordEvent _ => ()
  | .getBySlug tenantId slug => .ok (snapshot.database.getBySlug tenantId slug)
  | .listPolicies tenantId => .ok (snapshot.database.listPolicies tenantId)
  | .limiterCheck key policy => snapshot.limiter key policy
  | .permissionsForSubject tenantId subjectType subjectId =>
    .ok (snapshot.database.getPermissionsForSubject tenantId subjectType subjectId)
  | .redisGet key => snapshot.redis key
  | .redisExpire _ _ => snapshot.redisWrites
  | .redisSet _ _ _ => snapshot.redisWrites
  | .redisDelete _ => snapshot.redisWrites
  | .recordUsageQueued _ => ()
  | .checkUsageCap tenantId => snapshot.underCap tenantId
  | .getenv name => snapshot.environment name
  | .forward call => snapshot.upstream call

/-! ## A small deployment -/

def sampleSubject : Subject := ⟨"auth0|64f1a2b3c4d5", .oauthSubject, ⟨1#128⟩⟩

def sampleServer : McpServer where
  id := ⟨2#128⟩
  tenantId := sampleSubject.tenantId
  slug := "github-mcp"
  upstreamUrl := "https://mcp.internal/mcp"
  authMode := .none
  serviceTokenEnvVar := none
  status := .active

def sampleAllowance : RateLimitResult := ⟨true, 100, 99, 60, 0⟩

def sampleDatabase (permissions : List ToolPermission) : Database where
  servers := [sampleServer]
  roles := [⟨⟨3#128⟩, sampleSubject.tenantId, "analyst"⟩]
  bindings := [⟨⟨4#128⟩, ⟨3#128⟩, sampleSubject.subjectType, sampleSubject.subjectId⟩]
  permissions := permissions
  policies := []

def sampleSnapshot (permissions : List ToolPermission) (upstream : UpstreamResponse) :
    Snapshot where
  database := sampleDatabase permissions
  plugin := none
  preAuth _ _ _ := .ok sampleAllowance
  authenticate _ := .ok sampleSubject
  limiter _ _ := .ok sampleAllowance
  redis _ := .ok none
  redisWrites := .ok ()
  underCap _ := .ok true
  environment _ := none
  upstream _ := .ok upstream

def sampleSettings : Settings where
  maxRequestBodyBytes := 1048576
  maxResponseBodyBytes := 10485760
  authRateLimitDefault := "20/minute"
  rateLimitDefault := "100/minute"
  upstreamAllowedHosts := "mcp.internal"
  environment := .production

def sampleContext (accept : String) (body : Bytes) : Context where
  settings := sampleSettings
  platform := ⟨pythonLimits, Security.Upstreams.asciiTables, fun _ => ""⟩
  request :=
    { serverSlug := "github-mcp"
      method := "POST"
      headers := [("authorization", "Bearer token"), ("accept", accept)]
      query := []
      body := body
      clientIp := "127.0.0.1"
      requestId := none }

def listBody : Bytes :=
  asciiBytes "\x7b\"jsonrpc\":\"2.0\",\"id\":1,\"method\":\"tools/list\"\x7d"

def terminateBody : Bytes :=
  asciiBytes "\x7b\"jsonrpc\":\"2.0\",\"id\":1,\"method\":\"session/terminate\"\x7d"

def inSession (ctx : Context) (sessionId : String) : Context :=
  { ctx with request :=
    { ctx.request with headers := ctx.request.headers ++ [("mcp-session-id", sessionId)] } }

def emptyUpstream : UpstreamResponse := ⟨200, [], []⟩

end Portcullis.Gateway
