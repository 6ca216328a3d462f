import Portcullis.Auth.Licenses
import Portcullis.Gateway.Effects
import Portcullis.Lib.Table
import Portcullis.Lib.Transactions

/-!
# Server registry

`app/gateway/registry.py` over the servers table of `app/repositories/servers.py`.  The
settings are those of the process that handles a command, so they may differ from one
command to the next.  A command that raises leaves the registry as it was.
-/

namespace Portcullis.Gateway.Registry

open Auth.Licenses Lib List
open Lib.Transactions (commit commit_of_error commit_of_ok ok_of_bind ok_of_map)
open Models Security.Upstreams

/-! ## The table -/

def ServerConflict (left right : RegisteredServer) : Prop :=
  left.id = right.id ∨ left.tenantId = right.tenantId ∧ left.slug = right.slug

instance : DecidableRel ServerConflict := fun left right =>
  inferInstanceAs (Decidable (left.id = right.id ∨
    left.tenantId = right.tenantId ∧ left.slug = right.slug))

instance : Std.Symm ServerConflict :=
  ⟨fun _ _ conflict => conflict.imp Eq.symm fun both => ⟨both.1.symm, both.2.symm⟩⟩

abbrev ServerTable := Table ServerConflict

structure Tables where
  servers : ServerTable
  roles : List Role
  permissions : List ToolPermission

def getBySlug (servers : ServerTable) (tenantId : Uuid) (slug : String) :
    Option RegisteredServer :=
  servers.rows.find? fun server => server.tenantId = tenantId && server.slug = slug

def countServers (servers : ServerTable) (tenantId : Uuid) : Nat :=
  servers.rows.countP fun server => server.tenantId = tenantId

/-! ## Commands -/

/-- A string field with `min_length` and `max_length`. -/
abbrev Text (low high : Nat) := { text : String // low ≤ text.length ∧ text.length ≤ high }

def isSlugChar (char : Char) : Bool := char.isLower || char.isDigit || char == '-'

/-- What the normalisation of slugs lets through. -/
abbrev Slug := { text : String // text ≠ "" ∧ text.toList.all isSlugChar = true }

structure ServerCreate where
  name : Text 1 200
  slug : Slug
  upstreamUrl : Text 1 2000
  transport : ServerTransport
  authMode : ServerAuthMode
  serviceTokenEnvVar : Option String
  sslCa : Option String
  sslCert : Option String
  sslKey : Option String
  healthCheckPath : Text 1 500
  bridgeCommand : Option String
  bridgePort : Option Nat

structure ServerUpdate where
  name : Option (Text 1 200)
  slug : Option Slug
  upstreamUrl : Option (Text 1 2000)
  transport : Option ServerTransport
  authMode : Option ServerAuthMode
  serviceTokenEnvVar : Option String
  sslCa : Option String
  sslCert : Option String
  sslKey : Option String
  healthCheckPath : Option (Text 1 500)
  bridgeCommand : Option String
  bridgePort : Option Nat
  status : Option ServerStatus

inductive RegistryError where
  | url (error : UrlError)
  | value (message : String)
  | slugConflict (message : String)
  | key (message : String)
  | data
  deriving DecidableEq, Repr

/-- URL tables and `shlex.split`, whose failure carries a text. -/
structure Library where
  urls : UrlTables
  shlexSplit : String → Except String (List String)

structure RegistrySettings where
  gateway : Settings
  stdioBridgeEnabled : Bool

/-! ## Checks -/

def tokenEnvStem : List Char := "PORTCULLIS_UPSTREAM_TOKEN_".toList

/-- `PORTCULLIS_UPSTREAM_TOKEN_[A-Z0-9_]{1,64}`, matched in full. -/
def isTokenEnvVar (value : String) : Bool :=
  let name := value.toList.drop tokenEnvStem.length
  tokenEnvStem.isPrefixOf value.toList && decide (1 ≤ name.length) &&
    decide (name.length ≤ 64) && name.all fun char => char.isUpper || char.isDigit || char == '_'

def validateTokenEnvAllowlist (value : Option String) : Except RegistryError Unit :=
  if value.all isTokenEnvVar then .ok ()
  else .error (.value
    "service_token_env_var must match 'PORTCULLIS_UPSTREAM_TOKEN_[A-Z0-9_]\x7b1,64\x7d'")

def isShellChar (char : Char) : Bool :=
  [';', '|', '&', '$', Char.ofNat 0x60, '\n', '\r'].contains char

variable (library : Library)

def validateBridgeCommand (value : String) : Except RegistryError Unit :=
  match library.shlexSplit value with
  | .error text => .error (.value ("bridge_command does not parse: " ++ text))
  | .ok argv =>
    if argv.isEmpty then .error (.value "bridge_command must name an executable")
    else if 2000 < value.length then .error (.value "bridge_command is too long")
    else if argv.any fun token => token.toList.any isShellChar then
      .error (.value "bridge_command must be a plain argv string (no shell syntax)")
    else .ok ()

def validateUrl (settings : RegistrySettings) (url : String) : Except RegistryError Unit :=
  (validateUpstreamUrl library.urls url settings.gateway.upstreamHostsTuple
    settings.gateway.environment).mapError RegistryError.url

def isBlank (value : Option String) : Bool := value.all fun text => text = ""

def tokenRequired : RegistryError :=
  .value "service_token_env_var is required when auth_mode is 'service_token'"

/-- The checks of the transport; a bridge is not asked for its token. -/
def validateTransport (settings : RegistrySettings) (command : ServerCreate) :
    Except RegistryError Unit :=
  match command.transport with
  | .stdioBridge =>
    if !settings.stdioBridgeEnabled then
      .error (.value "stdio_bridge transport is disabled (set STDIO_BRIDGE_ENABLED=true to opt in)")
    else match command.bridgeCommand with
      | none => .error (.value "bridge_command is required when transport is 'stdio_bridge'")
      | some bridgeCommand =>
        if bridgeCommand = "" then
          .error (.value "bridge_command is required when transport is 'stdio_bridge'")
        else validateBridgeCommand library bridgeCommand
  | .streamableHttp =>
    if command.authMode = .serviceToken ∧ isBlank command.serviceTokenEnvVar then
      .error tokenRequired
    else .ok ()

/-! ## Service -/

/-- The length of the column `slug`. -/
def slugLength : Nat := 100

/-- Any integrity error is reported as a conflict of slugs, a violated check on the token
variable included. -/
def insertServer (servers : ServerTable) (row : RegisteredServer) (reported : String) :
    Except RegistryError ServerTable :=
  let conflict := RegistryError.slugConflict
    ("A server with slug '" ++ reported ++ "' already exists")
  if slugLength < row.slug.length then .error .data
  else if row.authMode = .serviceToken ∧ row.serviceTokenEnvVar = none then .error conflict
  else match servers.insert row with
    | some inserted => .ok inserted
    | none => .error conflict

def createdRow (newId tenantId : Uuid) (command : ServerCreate) : RegisteredServer where
  id := newId
  tenantId := tenantId
  slug := command.slug
  upstreamUrl := command.upstreamUrl
  authMode := command.authMode
  serviceTokenEnvVar := command.serviceTokenEnvVar
  status := .active
  name := command.name
  transport := command.transport
  sslCa := command.sslCa
  sslCert := command.sslCert
  sslKey := command.sslKey
  healthCheckPath := command.healthCheckPath
  consecutiveHealthFailures := 0
  lastHealthCheckAt := none
  bridgeCommand := command.bridgeCommand
  bridgePort := command.bridgePort

def create (registry : Tables) (settings : RegistrySettings) (license : Option License)
    (now : Instant) (newId tenantId : Uuid) (command : ServerCreate) :
    Except RegistryError (Tables × RegisteredServer) := do
  validateUrl library settings command.upstreamUrl
  validateTokenEnvAllowlist command.serviceTokenEnvVar
  validateTransport library settings command
  (requireLicense license now 0 (countServers registry.servers tenantId + 1)).mapError
    fun error => .value error.message
  let server := createdRow newId tenantId command
  let servers ← insertServer registry.servers server command.slug
  pure ({ registry with servers := servers }, server)

/-- The fields of the command that are set. -/
def updatedRow (server : RegisteredServer) (command : ServerUpdate) : RegisteredServer :=
  { server with
    name := (command.name.map Subtype.val).getD server.name
    slug := (command.slug.map Subtype.val).getD server.slug
    upstreamUrl := (command.upstreamUrl.map Subtype.val).getD server.upstreamUrl
    transport := command.transport.getD server.transport
    authMode := command.authMode.getD server.authMode
    serviceTokenEnvVar := command.serviceTokenEnvVar <|> server.serviceTokenEnvVar
    sslCa := command.sslCa <|> server.sslCa
    sslCert := command.sslCert <|> server.sslCert
    sslKey := command.sslKey <|> server.sslKey
    healthCheckPath := (command.healthCheckPath.map Subtype.val).getD server.healthCheckPath
    bridgeCommand := command.bridgeCommand <|> server.bridgeCommand
    bridgePort := command.bridgePort <|> server.bridgePort
    status := command.status.getD server.status }

def notFound (slug : String) : RegistryError := .key ("Server '" ++ slug ++ "' not found")

def validateGivenUrl (settings : RegistrySettings) :
    Option (Text 1 2000) → Except RegistryError Unit
  | none => .ok ()
  | some url => validateUrl library settings url

/-- The checks of an update: a new URL, and the token variable of the merged row. -/
def validateUpdate (settings : RegistrySettings) (server : RegisteredServer)
    (command : ServerUpdate) : Except RegistryError Unit := do
  validateGivenUrl library settings command.upstreamUrl
  let updated := updatedRow server command
  if updated.authMode = .serviceToken ∧ isBlank updated.serviceTokenEnvVar then
    .error tokenRequired
  else validateTokenEnvAllowlist updated.serviceTokenEnvVar

/-- A conflict report names the slug of the command, `None` if it has none. -/
def update (registry : Tables) (settings : RegistrySettings) (tenantId : Uuid) (slug : String)
    (command : ServerUpdate) : Except RegistryError (Tables × RegisteredServer) :=
  match getBySlug registry.servers tenantId slug with
  | none => .error (notFound slug)
  | some server => do
    validateUpdate library settings server command
    let updated := updatedRow server command
    let servers ← insertServer (registry.servers.delete fun row => row.id = server.id) updated
      ((command.slug.map Subtype.val).getD "None")
    pure ({ registry with servers := servers }, updated)

/-- The exact-slug rules of the tenant's roles go with the server. -/
def delete (registry : Tables) (tenantId : Uuid) (slug : String) :
    Except RegistryError Tables :=
  match getBySlug registry.servers tenantId slug with
  | none => .error (notFound slug)
  | some server => .ok { registry with
        servers := registry.servers.delete fun row => row.id = server.id
        permissions := registry.permissions.filter fun permission =>
          !(permission.serverPattern = slug && registry.roles.any fun role =>
            role.id = permission.roleId && role.tenantId = tenantId) }

/-! ## Runs -/

inductive Operation where
  | create (settings : RegistrySettings) (license : Option License) (now : Instant)
      (newId tenantId : Uuid) (command : ServerCreate)
  | update (settings : RegistrySettings) (tenantId : Uuid) (slug : String) (command : ServerUpdate)
  | delete (tenantId : Uuid) (slug : String)

def perform (registry : Tables) : Operation → Except RegistryError Tables
  | .create settings license now newId tenantId command =>
    (create library registry settings license now newId tenantId command).map Prod.fst
  | .update settings tenantId slug command =>
    (update library registry settings tenantId slug command).map Prod.fst
  | .delete tenantId slug => delete registry tenantId slug

def run (registry : Tables) (operations : List Operation) : Tables :=
  Transactions.run (perform library) registry operations

variable {library} {registry : Tables}

variable {settings : RegistrySettings} {after : Tables} {server : RegisteredServer}
  {tenantId : Uuid} {command : ServerUpdate}

theorem ok_of_validateUrl {url : String} (passed : validateUrl library settings url = .ok ()) :
    validateUpstreamUrl library.urls url settings.gateway.upstreamHostsTuple
      settings.gateway.environment = .ok () := by
  unfold validateUrl at passed
  cases checked : validateUpstreamUrl library.urls url settings.gateway.upstreamHostsTuple
      settings.gateway.environment with
  | ok _ => rfl
  | error failure =>
    rw [checked] at passed
    cases passed

theorem insertServer_ok_iff {servers inserted : ServerTable} {row : RegisteredServer}
    {reported : String} :
    insertServer servers row reported = .ok inserted ↔ row.slug.length ≤ slugLength ∧
        ¬ (row.authMode = .serviceToken ∧ row.serviceTokenEnvVar = none) ∧
        servers.insert row = some inserted := by
  unfold insertServer
  split
  · rename_i long
    exact ⟨nofun, fun acc => absurd acc.1 (not_le.mpr long)⟩
  rename_i short
  split
  · rename_i bare
    exact ⟨nofun, fun acc => absurd bare acc.2.1⟩
  rename_i named
  cases added : servers.insert row with
  | none => exact ⟨nofun, fun acc => nomatch acc.2.2⟩
  | some table =>
    refine ⟨fun hok => ⟨not_lt.mp short, named, ?_⟩, fun acc => ?_⟩
    · rw [Except.ok.inj hok]
    · rw [Option.some.inj acc.2.2]

/-! ## What a command does -/

variable (library) in
/-- A server was created: what was checked, and the tables after it. -/
structure Creates (registry : Tables) (settings : RegistrySettings) (newId tenantId : Uuid)
    (command : ServerCreate) (after : Tables) (server : RegisteredServer) : Prop where
  url : validateUrl library settings command.upstreamUrl = .ok ()
  token : validateTokenEnvAllowlist command.serviceTokenEnvVar = .ok ()
  transport : validateTransport library settings command = .ok ()
  row : server = createdRow newId tenantId command
  named : ¬ (server.authMode = .serviceToken ∧ server.serviceTokenEnvVar = none)
  fresh : ∀ other ∈ registry.servers.rows, ¬ ServerConflict other server
  rows : after.servers.rows = registry.servers.rows ++ [server]
  roles : after.roles = registry.roles
  permissions : after.permissions = registry.permissions

theorem create_inv {license : Option License} {now : Instant} {newId : Uuid}
    {command : ServerCreate}
    (hok : create library registry settings license now newId tenantId command =
      .ok (after, server)) :
    Creates library registry settings newId tenantId command after server := by
  obtain ⟨_, urlPassed, tokenChecked⟩ := ok_of_bind hok
  obtain ⟨_, tokenPassed, transportChecked⟩ := ok_of_bind tokenChecked
  obtain ⟨_, transportPassed, licensed⟩ := ok_of_bind transportChecked
  obtain ⟨_, _, inserting⟩ := ok_of_bind licensed
  obtain ⟨servers, ins, done⟩ := ok_of_bind inserting
  obtain ⟨rfl, rfl⟩ := Prod.mk.inj (Except.ok.inj done)
  obtain ⟨_, named, added⟩ := insertServer_ok_iff.mp ins
  obtain ⟨rows, fresh⟩ := Table.of_insert added
  exact ⟨urlPassed, tokenPassed, transportPassed, rfl, named, fresh, rows, rfl, rfl⟩

variable (library) in
/-- The checks that an update of the server meets, those of the database included. -/
structure Updates (registry : Tables) (settings : RegistrySettings) (tenantId : Uuid)
    (slug : String) (command : ServerUpdate) (server : RegisteredServer) : Prop where
  found : getBySlug registry.servers tenantId slug = some server
  validated : validateUpdate library settings server command = .ok ()
  short : (updatedRow server command).slug.length ≤ slugLength
  free : ∀ other ∈ registry.servers.rows, other.id ≠ server.id →
    ¬ ServerConflict other (updatedRow server command)

variable (registry) in
/-- The server is replaced by its updated row, and nothing else is touched. -/
structure Replaces (server updated : RegisteredServer) (after : Tables) : Prop where
  rows : after.servers.rows =
    (registry.servers.rows.filter fun row => !decide (row.id = server.id)) ++ [updated]
  roles : after.roles = registry.roles
  permissions : after.permissions = registry.permissions

theorem Replaces.mem_iff {updated other : RegisteredServer}
    (replaces : Replaces registry server updated after) :
    other ∈ after.servers.rows ↔
      other ∈ registry.servers.rows ∧ other.id ≠ server.id ∨ other = updated := by
  rw [replaces.rows, mem_append, mem_filter, mem_singleton]
  simp

theorem update_inv {slug : String} {updated : RegisteredServer}
    (hok : update library registry settings tenantId slug command = .ok (after, updated)) :
    ∃ server, Updates library registry settings tenantId slug command server ∧
      updated = updatedRow server command ∧ Replaces registry server updated after := by
  unfold update at hok
  split at hok
  · cases hok
  rename_i server found
  obtain ⟨_, validated, inserting⟩ := ok_of_bind hok
  obtain ⟨servers, ins, done⟩ := ok_of_bind inserting
  obtain ⟨rfl, rfl⟩ := Prod.mk.inj (Except.ok.inj done)
  obtain ⟨short, _, added⟩ := insertServer_ok_iff.mp ins
  obtain ⟨rows, fresh⟩ := Table.of_insert added
  refine ⟨server, ⟨found, validated, short, fun other mem apart => ?_⟩, rfl, rows, rfl, rfl⟩
  exact fresh other (mem_filter.mpr ⟨mem, by simpa using apart⟩)

theorem validateUpdate_ok (validated : validateUpdate library settings server command = .ok ()) :
    validateGivenUrl library settings command.upstreamUrl = .ok () ∧
      ¬ ((updatedRow server command).authMode = .serviceToken ∧
        isBlank (updatedRow server command).serviceTokenEnvVar = true) ∧
      (updatedRow server command).serviceTokenEnvVar.all isTokenEnvVar = true := by
  obtain ⟨_, urlPassed, rest⟩ := ok_of_bind validated
  dsimp only at rest
  split at rest
  · cases rest
  rename_i named
  refine ⟨urlPassed, named, ?_⟩
  unfold validateTokenEnvAllowlist at rest
  split at rest
  · assumption
  · cases rest

theorem Updates.succeeds {slug : String}
    (updates : Updates library registry settings tenantId slug command server) :
    ∃ after, update library registry settings tenantId slug command =
      .ok (after, updatedRow server command) := by
  obtain ⟨_, named, _⟩ := validateUpdate_ok updates.validated
  obtain ⟨servers, added⟩ :=
    (registry.servers.delete fun row => row.id = server.id).exists_insert
      fun other mem => updates.free other (mem_filter.mp mem).1
        (by simpa using (mem_filter.mp mem).2)
  have ins : insertServer (registry.servers.delete fun row => row.id = server.id)
      (updatedRow server command) ((command.slug.map Subtype.val).getD "None") = .ok servers := by
    refine insertServer_ok_iff.mpr ⟨updates.short, ?_, added⟩
    rintro ⟨tokened, missing⟩
    exact named ⟨tokened, by rw [missing]; rfl⟩
  refine ⟨{ registry with servers := servers }, ?_⟩
  simp only [update, updates.found, updates.validated, ins, bind, Except.bind, pure,
    Except.pure]

/-- The server and its exact-slug rules are gone. -/
structure Deletes (registry : Tables) (tenantId : Uuid) (slug : String) (after : Tables)
    (server : RegisteredServer) : Prop where
  found : getBySlug registry.servers tenantId slug = some server
  rows : after.servers.rows = registry.servers.rows.filter fun row => !decide (row.id = server.id)
  roles : after.roles = registry.roles
  permissions : after.permissions = registry.permissions.filter fun permission =>
    !(permission.serverPattern = slug && registry.roles.any fun role =>
      role.id = permission.roleId && role.tenantId = tenantId)

theorem delete_inv {slug : String} (hok : delete registry tenantId slug = .ok after) :
    ∃ server, Deletes registry tenantId slug after server := by
  unfold delete at hok
  split at hok
  · cases hok
  · rename_i server found
    obtain rfl := Except.ok.inj hok
    exact ⟨server, found, rfl, rfl, rfl⟩

variable (library registry) in
inductive Adds : Operation → RegisteredServer → Prop
  | create {settings : RegistrySettings} {license : Option License} {now : Instant}
      {newId tenantId : Uuid} {command : ServerCreate} {after : Tables}
      {server : RegisteredServer}
      (creates : Creates library registry settings newId tenantId command after server) :
      Adds (.create settings license now newId tenantId command) server
  | update {settings : RegistrySettings} {tenantId : Uuid} {slug : String}
      {command : ServerUpdate} {server : RegisteredServer}
      (updates : Updates library registry settings tenantId slug command server) :
      Adds (.update settings tenantId slug command) (updatedRow server command)

theorem mem_of_commit {operation : Operation}
    (mem : server ∈ (commit (perform library) registry operation).servers.rows) :
    server ∈ registry.servers.rows ∨ Adds library registry operation server := by
  cases did : perform library registry operation with
  | error failure =>
    rw [commit_of_error did] at mem
    exact .inl mem
  | ok after =>
    rw [commit_of_ok did] at mem
    cases operation with
    | create settings license now newId tenantId command =>
      obtain ⟨⟨_, created⟩, hok, rfl⟩ := ok_of_map did
      have creates := create_inv hok
      rw [creates.rows, mem_append, mem_singleton] at mem
      rcases mem with prev | rfl
      · exact .inl prev
      · exact .inr (.create creates)
    | update settings tenantId slug command =>
      obtain ⟨⟨_, updated⟩, hok, rfl⟩ := ok_of_map did
      obtain ⟨old, updates, rfl, replaces⟩ := update_inv hok
      rcases replaces.mem_iff.mp mem with ⟨prev, _⟩ | rfl
      · exact .inl prev
      · exact .inr (.update updates)
    | delete tenantId slug =>
      obtain ⟨_, deletes⟩ := delete_inv did
      rw [deletes.rows] at mem
      exact .inl (mem_filter.mp mem).1

theorem Updates.replaces {settings : RegistrySettings} {tenantId : Uuid} {slug : String}
    {command : ServerUpdate} {server : RegisteredServer}
    (updates : Updates library registry settings tenantId slug command server) :
    Replaces registry server (updatedRow server command)
      (commit (perform library) registry (.update settings tenantId slug command)) := by
  obtain ⟨after, hok⟩ := updates.succeeds
  obtain ⟨_, again, _, replaces⟩ := update_inv hok
  obtain rfl := Option.some.inj (updates.found.symm.trans again.found)
  have committed : commit (perform library) registry
      (.update settings tenantId slug command) = after := by
    simp only [commit, perform, hok, Except.map]
  rw [committed]
  exact replaces

/-! ## What is stored -/

variable (library) in
/-- The URL passed the check under the settings of some command, and the health path meets
its schema. -/
structure Accepted (server : RegisteredServer) : Prop where
  url : ∃ settings : RegistrySettings, validateUpstreamUrl library.urls server.upstreamUrl
    settings.gateway.upstreamHostsTuple settings.gateway.environment = .ok ()
  path : 1 ≤ server.healthCheckPath.length ∧ server.healthCheckPath.length ≤ 500

theorem updatedRow_accepted (acc : Accepted library server)
    (checked : validateGivenUrl library settings command.upstreamUrl = .ok ()) :
    Accepted library (updatedRow server command) := by
  constructor
  · cases given : command.upstreamUrl with
    | none =>
      simp only [updatedRow, given]
      exact acc.url
    | some url =>
      rw [given] at checked
      simp only [updatedRow, given]
      exact ⟨settings, ok_of_validateUrl checked⟩
  · cases given : command.healthCheckPath with
    | none =>
      simp only [updatedRow, given]
      exact acc.path
    | some path =>
      simp only [updatedRow, given]
      exact path.property

theorem Adds.accepted {operation : Operation} (adds : Adds library registry operation server)
    (stored : ∀ server ∈ registry.servers.rows, Accepted library server) :
    Accepted library server := by
  cases adds with
  | create creates =>
    rename_i command _
    rw [creates.row]
    exact ⟨⟨_, ok_of_validateUrl creates.url⟩, command.healthCheckPath.property⟩
  | update updates =>
    exact updatedRow_accepted (stored _ (mem_of_find?_eq_some updates.found))
      (validateUpdate_ok updates.validated).1

def noServers : Tables := ⟨Table.empty, [], []⟩

theorem commit_accepted (operation : Operation)
    (stored : ∀ server ∈ registry.servers.rows, Accepted library server) :
    ∀ server ∈ (commit (perform library) registry operation).servers.rows,
      Accepted library server := by
  intro server mem
  rcases mem_of_commit mem with prev | adds
  · exact stored server prev
  · exact adds.accepted stored

theorem accepted_run (library : Library) (operations : List Operation) :
    ∀ server ∈ (run library noServers operations).servers.rows, Accepted library server :=
  Transactions.invariant_commit
    (fun registry : Tables => ∀ server ∈ registry.servers.rows, Accepted library server)
    (fun _ operation stored => commit_accepted operation stored)
    (fun _ mem => (not_mem_nil mem).elim) operations

end Portcullis.Gateway.Registry
