import Portcullis.Gateway.Registry
import Portcullis.Gateway.SessionRace
import Portcullis.Security.Authority

/-!
# Outbound requests and the allow-list

The URLs the gateway requests on behalf of a registered server.  A proxied request is
checked against the current allow-list and requests the URL that was checked; a health
probe is not checked again, and appends the health path to the URL.
-/

namespace Portcullis.Gateway.Outbound

open Auth.Rbac Gateway.Mediation Gateway.Registry Gateway.Router Gateway.SessionRace Lib Models
  Security.Authority Security.Upstreams

/-! ## The URLs -/

/-- `McpProxy._build_url`. -/
def buildUrl (upstreamUrl path : String) : List Char :=
  rstripSlash upstreamUrl.toList ++ path.toList

/-- The URL `HealthMonitor._check_url` requests. -/
def checkUrl (upstreamUrl healthCheckPath : String) : List Char :=
  rstripSlash upstreamUrl.toList ++ healthCheckPath.toList

theorem ne_empty_of_mem_hosts {settings : Settings} {allowed : String}
    (mem : allowed ∈ settings.upstreamHostsTuple) : allowed ≠ "" := by
  rintro rfl
  simp [Settings.upstreamHostsTuple] at mem

/-! ## Proxied requests -/

/-- A call of the upstream has no path and a URL on the current allow-list. -/
def Aimed (ctx : Context) (_ : History) (op : Op) : Prop :=
  ∀ call, op = .forward call → call.path = "" ∧
    validateUpstreamUrl ctx.platform.urls call.upstreamUrl ctx.settings.upstreamHostsTuple
      ctx.settings.environment = .ok ()

theorem Resolved.aimed {ctx : Context} {later : History} {subject : Subject} {server : McpServer}
    (resolved : Resolved ctx later subject server) (method : String) (headers : Headers)
    (body : Encoding.Bytes) (stream : Bool) :
    Aimed ctx later (.forward (forwardCall server method headers body stream)) := by
  intro call same
  rw [← Op.forward.inj same]
  exact ⟨rfl, resolved.validUrl⟩

theorem aims (ctx : Context) : Discipline ctx (Aimed ctx) where
  free later op other _ := by
    rintro call rfl
    cases other
  serves mediated := Resolved.aimed mediated.target _ _ _ _

theorem Call.aimed (call : Call) :
    Prog.Safe (Aimed call.context) (fun _ _ => True) (fun _ _ => True) [] call.program := by
  cases call with
  | post ctx => exact mcpProxy_permits (aims ctx)
  | get ctx =>
    exact mcpSseStream_permits (aims ctx).free
      fun headers resolved => Resolved.aimed resolved _ _ _ _

section Urls

variable {tables : UrlTables} (lowerKeeps : ∀ text, tables.lower text = [] → text = [])
include lowerKeeps

theorem authority_checkUrl {settings : Settings} {url : String} {environment : Environment}
    (passed : validateUpstreamUrl tables url settings.upstreamHostsTuple environment = .ok ())
    (path : String) :
    authority (checkUrl url path) =
      if afterAuthority (rstripSlash url.toList) = [] then
        authority url.toList ++ lead path.toList
      else authority url.toList := by
  obtain ⟨named, scheme, absolute⟩ :=
    absolute_of_validated lowerKeeps (fun _ => ne_empty_of_mem_hosts) passed
  obtain ⟨_, stripped⟩ := absolute.rstripSlash named
  rw [checkUrl, stripped.authority_append, authority_rstripSlash absolute named]

theorem hostOf_buildUrl {settings : Settings} {url : String} {environment : Environment}
    (passed : validateUpstreamUrl tables url settings.upstreamHostsTuple environment = .ok ()) :
    OnList tables settings.upstreamHostsTuple (hostOf tables (buildUrl url "")) := by
  have same : authority (buildUrl url "") = authority url.toList := by
    have appended := authority_checkUrl lowerKeeps passed ""
    have bare : lead "".toList = [] := rfl
    rw [bare, List.append_nil, ite_self] at appended
    exact appended
  rw [hostOf, same]
  exact (of_validateUpstreamUrl passed).2

end Urls

/-! ## Probes -/

/-- The health path continues the authority of the URL: nothing of the URL follows its
authority, and the path does not start with a delimiter. -/
def Continues (upstreamUrl healthCheckPath : String) : Prop :=
  afterAuthority (rstripSlash upstreamUrl.toList) = [] ∧ lead healthCheckPath.toList ≠ []

instance (upstreamUrl healthCheckPath : String) :
    Decidable (Continues upstreamUrl healthCheckPath) :=
  inferInstanceAs (Decidable (_ ∧ _))

/-- The current allow-list has the host of the URL or, where the path continues the
authority, the host of the two together. -/
structure Listed (tables : UrlTables) (hosts : List String)
    (upstreamUrl healthCheckPath : String) : Prop where
  apart : ¬ Continues upstreamUrl healthCheckPath →
    OnList tables hosts (hostname tables (authority upstreamUrl.toList))
  joined : Continues upstreamUrl healthCheckPath → OnList tables hosts
      (hostname tables (authority upstreamUrl.toList ++ lead healthCheckPath.toList))

theorem probe_listed_iff {library : Library}
    (lowerKeeps : ∀ text, library.urls.lower text = [] → text = []) {server : RegisteredServer}
    (acc : Accepted library server) (hosts : List String) :
    OnList library.urls hosts
        (hostOf library.urls (checkUrl server.upstreamUrl server.healthCheckPath)) ↔
      Listed library.urls hosts server.upstreamUrl server.healthCheckPath := by
  obtain ⟨registering, passed⟩ := acc.url
  rw [hostOf, authority_checkUrl lowerKeeps passed]
  by_cases continues : Continues server.upstreamUrl server.healthCheckPath
  · rw [if_pos continues.1]
    exact ⟨fun listed => ⟨fun apart => absurd continues apart, fun _ => listed⟩,
      fun listed => listed.joined continues⟩
  · have same : (if afterAuthority (rstripSlash server.upstreamUrl.toList) = [] then
          authority server.upstreamUrl.toList ++ lead server.healthCheckPath.toList
        else authority server.upstreamUrl.toList) = authority server.upstreamUrl.toList := by
      split
      · rename_i bare
        have delimited : lead server.healthCheckPath.toList = [] :=
          not_not.mp fun started => continues ⟨bare, started⟩
        rw [delimited, List.append_nil]
      · rfl
    rw [same]
    exact ⟨fun listed => ⟨fun _ => listed, fun joined => absurd joined continues⟩,
      fun listed => listed.apart continues⟩

/-- What the gateway requests for a registered server, whatever settings its registration
met: proxied requests stay on the current allow-list, and probes do just under a condition
on the URL and the health path that no check enforces. -/
theorem outbound_urls_listed_iff (library : Library)
    (lowerKeeps : ∀ text, library.urls.lower text = [] → text = [])
    (operations : List Operation) (server : RegisteredServer)
    (registered : server ∈ (run library noServers operations).servers.rows)
    (settings : Settings) :
    ((∀ (call : Call) (history : History) (outcome : Except Exit Response),
        call.context.settings = settings → call.context.platform.urls = library.urls →
        Prog.Runs call.program history outcome →
        ∀ (forwarded : ForwardCall) (answer : Ans (.forward forwarded)),
          (⟨.forward forwarded, answer⟩ : Event Op Ans) ∈ history →
          forwarded.server.id = server.id →
          OnList library.urls settings.upstreamHostsTuple
            (hostOf library.urls (buildUrl forwarded.upstreamUrl forwarded.path))) ∧
      OnList library.urls settings.upstreamHostsTuple
        (hostOf library.urls (checkUrl server.upstreamUrl server.healthCheckPath))) ↔
    Listed library.urls settings.upstreamHostsTuple server.upstreamUrl server.healthCheckPath := by
  have probed := probe_listed_iff lowerKeeps (accepted_run library operations server registered)
    settings.upstreamHostsTuple
  refine ⟨fun outbound => probed.mp outbound.2, fun listed => ⟨?_, probed.mpr listed⟩⟩
  intro call history outcome sameSettings sameTables runs forwarded answer mem _
  obtain ⟨before, after, split⟩ := List.append_of_mem mem
  obtain ⟨path, passed⟩ := (Prog.Safe.run runs (Call.aimed call)).1 before _ after split
    forwarded rfl
  rw [sameSettings, sameTables] at passed
  rw [path]
  exact hostOf_buildUrl lowerKeeps passed

def sampleLibrary : Library := ⟨asciiTables, fun text => .ok [text]⟩

def sampleCommand (healthCheckPath : Text 1 500) : ServerCreate where
  name := ⟨"GitHub", by decide⟩
  slug := ⟨"github-mcp", by decide⟩
  upstreamUrl := ⟨"https://mcp.internal", by decide⟩
  transport := .streamableHttp
  authMode := .none
  serviceTokenEnvVar := none
  sslCa := none
  sslCert := none
  sslKey := none
  healthCheckPath := healthCheckPath
  bridgeCommand := none
  bridgePort := none

def sampleRegistration (healthCheckPath : Text 1 500) : Operation :=
  .create ⟨sampleSettings, false⟩ none 0 ⟨2#128⟩ sampleSubject.tenantId
    (sampleCommand healthCheckPath)

def sampleRow (healthCheckPath : Text 1 500) : RegisteredServer :=
  createdRow ⟨2#128⟩ sampleSubject.tenantId (sampleCommand healthCheckPath)

def healthPath : Text 1 500 := ⟨"/health", by decide⟩

theorem sample_registered : sampleRow healthPath ∈
    (run sampleLibrary noServers [sampleRegistration healthPath]).servers.rows := by
  decide +kernel

theorem outbound_urls_listed_iff_sample : sampleRow healthPath ∈
        (run sampleLibrary noServers [sampleRegistration healthPath]).servers.rows ∧
      OnList asciiTables sampleSettings.upstreamHostsTuple
        (hostOf asciiTables (checkUrl "https://mcp.internal" "/health")) := by
  have listed : Listed asciiTables sampleSettings.upstreamHostsTuple "https://mcp.internal"
      "/health" :=
    ⟨fun _ => by decide +kernel, fun continues => absurd continues (by decide +kernel)⟩
  exact ⟨sample_registered, ((outbound_urls_listed_iff sampleLibrary
    (fun _ => List.map_eq_nil_iff.mp) _ _
    sample_registered sampleSettings).mpr listed).2⟩

/-- A registered health path takes the probe to another host, and a host that has left the
allow-list is probed on. -/
theorem probe_off_allow_list : (∃ server ∈ (run sampleLibrary noServers
          [sampleRegistration ⟨"@attacker.example/", by decide⟩]).servers.rows,
        hostOf asciiTables (checkUrl server.upstreamUrl server.healthCheckPath) =
            "attacker.example".toList ∧
          ¬ OnList asciiTables sampleSettings.upstreamHostsTuple "attacker.example".toList) ∧
      ∃ server ∈ (run sampleLibrary noServers [sampleRegistration healthPath]).servers.rows,
        ¬ OnList asciiTables
          { sampleSettings with upstreamAllowedHosts := "mcp.example" }.upstreamHostsTuple
          (hostOf asciiTables (checkUrl server.upstreamUrl server.healthCheckPath)) := by
  refine ⟨⟨sampleRow ⟨"@attacker.example/", by decide⟩, ?_⟩,
    ⟨sampleRow healthPath, sample_registered, ?_⟩⟩ <;> decide +kernel

end Portcullis.Gateway.Outbound
