import Portcullis.Gateway.Outbound

/-!
# Safety of stored servers

With fixed settings and commands that pass their schemas, the URL and the token variable of
every stored server are as the registry checks them.  `RegistryService.create` also checks
the rules of the stdio bridge; `RegistryService.update` does not, so they hold just if no
update breaks them.
-/

namespace Portcullis.Gateway.RegistrySafety

open Gateway.Registry Lib
open Lib.Transactions (commit)
open Models Security.Upstreams

variable (library : Library) (settings : RegistrySettings)

/-! ## Schemas -/

/-- `validate_bridge_cmd` of both schemas, after the bound on the field. -/
def acceptsBridgeCmd (value : String) : Bool :=
  decide (value.length ≤ 2000) &&
    match library.shlexSplit value with
    | .error _ => false
    | .ok argv => !argv.isEmpty && !argv.any fun token => token.toList.any isShellChar

/-- The fields that are validated beyond their types. -/
def acceptsFields (serviceTokenEnvVar bridgeCommand : Option String)
    (bridgePort : Option Nat) : Bool :=
  serviceTokenEnvVar.all isTokenEnvVar && bridgeCommand.all (acceptsBridgeCmd library) &&
    bridgePort.all fun port => decide (1 ≤ port) && decide (port ≤ 65535)

/-- The operation meets the fixed settings, with a command that passes its schema. -/
def Conforms : Operation → Prop
  | .create given _ _ _ _ command =>
    given = settings ∧ acceptsFields library command.serviceTokenEnvVar command.bridgeCommand
      command.bridgePort = true
  | .update given _ _ command =>
    given = settings ∧ acceptsFields library command.serviceTokenEnvVar command.bridgeCommand
      command.bridgePort = true
  | .delete _ _ => True

abbrev Command := { operation : Operation // Conforms library settings operation }

def performCommand (registry : Tables) (command : Command library settings) :
    Except RegistryError Tables :=
  perform library registry command.val

/-! ## Rules -/

/-- What the registry is to ensure of every server. -/
structure Safe (server : RegisteredServer) : Prop where
  url : validateUpstreamUrl library.urls server.upstreamUrl settings.gateway.upstreamHostsTuple
    settings.gateway.environment = .ok ()
  token : server.authMode = .serviceToken →
    ∃ name, server.serviceTokenEnvVar = some name ∧ isTokenEnvVar name = true
  bridge : server.transport = .stdioBridge → settings.stdioBridgeEnabled = true ∧
    ∃ command, server.bridgeCommand = some command ∧ validateBridgeCommand library command = .ok ()

/-- What it ensures of each, whatever the commands. -/
structure Stored (server : RegisteredServer) : Prop where
  url : validateUpstreamUrl library.urls server.upstreamUrl settings.gateway.upstreamHostsTuple
    settings.gateway.environment = .ok ()
  token : server.serviceTokenEnvVar.all isTokenEnvVar = true
  named : ¬ (server.authMode = .serviceToken ∧ server.serviceTokenEnvVar = none)
  bridge : server.bridgeCommand.all (acceptsBridgeCmd library) = true

/-- A bridge is enabled and has a command. -/
def Bridged (server : RegisteredServer) : Prop :=
  server.transport = .stdioBridge →
    settings.stdioBridgeEnabled = true ∧ server.bridgeCommand.isSome = true

/-- An update that passes the checks of updates and sets the transport to a bridge finds
bridges enabled, and a command in the update or in the row. -/
def Bridges (registry : Tables) (command : Command library settings) : Prop :=
  match command.val with
  | .update _ tenantId slug update => ∀ server,
      Updates library registry settings tenantId slug update server →
      update.transport = some .stdioBridge →
      settings.stdioBridgeEnabled = true ∧
        (update.bridgeCommand.isSome = true ∨ server.bridgeCommand.isSome = true)
  | _ => True

variable {library settings} {registry : Tables}

theorem validateBridgeCommand_of_accepts {value : String}
    (acc : acceptsBridgeCmd library value = true) :
    validateBridgeCommand library value = .ok () := by
  unfold acceptsBridgeCmd at acc
  unfold validateBridgeCommand
  cases parsed : library.shlexSplit value with
  | error text => simp [parsed] at acc
  | ok argv =>
    simp only [parsed, Bool.and_eq_true, Bool.not_eq_true', decide_eq_true_eq] at acc
    simp [acc.1, acc.2.1, acc.2.2]

variable {server : RegisteredServer}

theorem Stored.safe_iff (stored : Stored library settings server) :
    Safe library settings server ↔ Bridged settings server := by
  constructor
  · intro safe bridge
    obtain ⟨enabled, command, given, _⟩ := safe.bridge bridge
    exact ⟨enabled, by rw [given]; rfl⟩
  · intro bridged
    refine ⟨stored.url, fun tokened => ?_, fun bridge => ?_⟩
    · obtain ⟨name, given⟩ :=
        Option.ne_none_iff_exists'.mp fun missing => stored.named ⟨tokened, missing⟩
      have token := stored.token
      rw [given] at token
      exact ⟨name, given, token⟩
    · obtain ⟨enabled, present⟩ := bridged bridge
      obtain ⟨command, given⟩ := Option.isSome_iff_exists.mp present
      have acc := stored.bridge
      rw [given] at acc
      exact ⟨enabled, command, given, validateBridgeCommand_of_accepts acc⟩

/-! ## Creation -/

theorem acceptsFields_iff {serviceTokenEnvVar bridgeCommand : Option String}
    {bridgePort : Option Nat} :
    acceptsFields library serviceTokenEnvVar bridgeCommand bridgePort = true ↔
      (serviceTokenEnvVar.all isTokenEnvVar = true ∧
        bridgeCommand.all (acceptsBridgeCmd library) = true) ∧
      bridgePort.all (fun port => decide (1 ≤ port) && decide (port ≤ 65535)) = true := by
  simp only [acceptsFields, Bool.and_eq_true]

theorem bridged_of_validateTransport {command : ServerCreate}
    (passed : validateTransport library settings command = .ok ())
    (bridge : command.transport = .stdioBridge) :
    settings.stdioBridgeEnabled = true ∧ command.bridgeCommand.isSome = true := by
  unfold validateTransport at passed
  rw [bridge] at passed
  dsimp only at passed
  split at passed
  · cases passed
  rename_i enabled
  split at passed
  · cases passed
  · rename_i bridgeCommand given
    exact ⟨by simpa using enabled, by rw [given]; rfl⟩

theorem stored_of_creates {newId tenantId : Uuid} {command : ServerCreate} {after : Tables}
    (creates : Creates library registry settings newId tenantId command after server)
    (acc : acceptsFields library command.serviceTokenEnvVar command.bridgeCommand
      command.bridgePort = true) :
    Stored library settings server ∧ Bridged settings server := by
  obtain ⟨⟨token, bridge⟩, _⟩ := acceptsFields_iff.mp acc
  have named := creates.named
  rw [creates.row] at named ⊢
  exact ⟨⟨ok_of_validateUrl creates.url, token, named, bridge⟩,
    bridged_of_validateTransport creates.transport⟩

/-! ## Updates -/

theorem all_orElse {Value : Type} {accepts : Value → Bool} {given old : Option Value}
    (givenAccepted : given.all accepts = true) (oldAccepted : old.all accepts = true) :
    (given <|> old).all accepts = true := by
  cases given with
  | none => exact oldAccepted
  | some value => exact givenAccepted

theorem stored_of_updates {tenantId : Uuid} {slug : String} {command : ServerUpdate}
    (updates : Updates library registry settings tenantId slug command server)
    (stored : Stored library settings server)
    (acc : acceptsFields library command.serviceTokenEnvVar command.bridgeCommand
      command.bridgePort = true) :
    Stored library settings (updatedRow server command) := by
  obtain ⟨urlPassed, named, token⟩ := validateUpdate_ok updates.validated
  refine ⟨?_, token, fun unnamed => named ⟨unnamed.1, ?_⟩, ?_⟩
  · cases given : command.upstreamUrl with
    | none =>
      simp only [updatedRow, given]
      exact stored.url
    | some url =>
      rw [given] at urlPassed
      simp only [updatedRow, given]
      exact ok_of_validateUrl urlPassed
  · rw [unnamed.2]
    rfl
  · exact all_orElse (acceptsFields_iff.mp acc).1.2 stored.bridge

theorem bridged_updatedRow_iff (bridged : Bridged settings server) (command : ServerUpdate) :
    Bridged settings (updatedRow server command) ↔
      (command.transport = some .stdioBridge → settings.stdioBridgeEnabled = true ∧
        (command.bridgeCommand.isSome = true ∨ server.bridgeCommand.isSome = true)) := by
  have present : (updatedRow server command).bridgeCommand.isSome = true ↔
      command.bridgeCommand.isSome = true ∨ server.bridgeCommand.isSome = true :=
    by cases given : command.bridgeCommand <;> simp [updatedRow, given]
  unfold Bridged
  rw [present]
  cases given : command.transport with
  | some transport => simp [updatedRow, given]
  | none =>
    simp only [updatedRow, given, reduceCtorEq, false_imp_iff, iff_true]
    exact fun bridge => (bridged bridge).imp_right .inr

/-! ## Runs -/

def AllStored (library : Library) (settings : RegistrySettings) (registry : Tables) : Prop :=
  ∀ server ∈ registry.servers.rows, Stored library settings server

def AllSafe (library : Library) (settings : RegistrySettings) (registry : Tables) : Prop :=
  ∀ server ∈ registry.servers.rows, Safe library settings server

theorem commit_allStored (command : Command library settings)
    (stored : AllStored library settings registry) :
    AllStored library settings (commit (performCommand library settings) registry command) := by
  obtain ⟨operation, conforms⟩ := command
  intro server mem
  rcases mem_of_commit mem with prev | adds
  · exact stored server prev
  cases adds with
  | create creates =>
    obtain ⟨rfl, acc⟩ := conforms
    exact (stored_of_creates creates acc).1
  | update updates =>
    obtain ⟨rfl, acc⟩ := conforms
    exact stored_of_updates updates (stored _ (List.mem_of_find?_eq_some updates.found)) acc

theorem commit_allSafe_iff (command : Command library settings)
    (stored : AllStored library settings registry) (safe : AllSafe library settings registry) :
    AllSafe library settings (commit (performCommand library settings) registry command) ↔
      Bridges library settings registry command := by
  have bridged : ∀ server ∈ registry.servers.rows, Bridged settings server :=
    fun server mem => (stored server mem).safe_iff.mp (safe server mem)
  have storedAfter := commit_allStored command stored
  obtain ⟨operation, conforms⟩ := command
  constructor
  · intro safeAfter
    cases operation with
    | create given license now newId tenantId create => trivial
    | delete tenantId slug => trivial
    | update given tenantId slug update =>
      obtain ⟨rfl, _⟩ := conforms
      intro server updates
      have mem := updates.replaces.mem_iff.mpr (.inr rfl)
      exact (bridged_updatedRow_iff (bridged server (List.mem_of_find?_eq_some updates.found))
        update).mp ((storedAfter _ mem).safe_iff.mp (safeAfter _ mem))
  · intro bridges server mem
    refine (storedAfter server mem).safe_iff.mpr ?_
    rcases mem_of_commit mem with prev | adds
    · exact bridged server prev
    cases adds with
    | create creates =>
      obtain ⟨rfl, acc⟩ := conforms
      exact (stored_of_creates creates acc).2
    | update updates =>
      obtain ⟨rfl, _⟩ := conforms
      exact (bridged_updatedRow_iff (bridged _ (List.mem_of_find?_eq_some updates.found))
        _).mpr (bridges _ updates)

/-- Every stored server is safe throughout a run just if no update breaks the rules of the
bridge. -/
theorem stored_servers_safe_iff (library : Library) (settings : RegistrySettings)
    (commands : List (Command library settings)) :
    (∀ first rest, commands = first ++ rest →
        ∀ server ∈ (Transactions.run (performCommand library settings) noServers
          first).servers.rows, Safe library settings server) ↔
      Transactions.Along (performCommand library settings) (Bridges library settings) noServers
        commands :=
  Transactions.throughout_iff_along _ _ (fun _ command stored => commit_allStored command stored)
    (fun _ command stored safe => commit_allSafe_iff command stored safe)
    (fun _ mem => (List.not_mem_nil mem).elim)
    (fun _ mem => (List.not_mem_nil mem).elim) commands

/-! ## A bridge by update -/

def sampleRegistry : RegistrySettings := ⟨sampleSettings, false⟩

def registration : Command Outbound.sampleLibrary sampleRegistry :=
  ⟨Outbound.sampleRegistration Outbound.healthPath, rfl, by decide⟩

def bridgeUpdate : ServerUpdate where
  name := none
  slug := none
  upstreamUrl := none
  transport := some .stdioBridge
  authMode := none
  serviceTokenEnvVar := none
  sslCa := none
  sslCert := none
  sslKey := none
  healthCheckPath := none
  bridgeCommand := none
  bridgePort := none
  status := none

def bridging : Command Outbound.sampleLibrary sampleRegistry :=
  ⟨.update sampleRegistry sampleSubject.tenantId "github-mcp" bridgeUpdate, rfl, by decide⟩

/-- A server becomes a bridge without a command, while bridges are disabled. -/
theorem update_makes_bridge : ¬ ∀ first rest, [registration, bridging] = first ++ rest →
      ∀ server ∈ (Transactions.run (performCommand Outbound.sampleLibrary sampleRegistry)
        noServers first).servers.rows, Safe Outbound.sampleLibrary sampleRegistry server := by
  intro always
  have safe := always [registration, bridging] [] rfl
    { Outbound.sampleRow Outbound.healthPath with transport := .stdioBridge } (by decide +kernel)
  exact absurd (safe.bridge rfl).1 (by decide)

end Portcullis.Gateway.RegistrySafety
