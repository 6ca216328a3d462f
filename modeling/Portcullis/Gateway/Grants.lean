import Portcullis.Gateway.RegistrySafety

/-!
# Rules that name a server

A permission rule names a server by its slug.  Deleting a server takes its exact-slug rules
along; renaming it leaves them behind, for whichever server takes the slug next.  The ledger
notes for each rule the server whose slug it was added for.
-/

namespace Portcullis.Gateway.Grants

open List

open Auth.Rbac (Plain)
open Gateway.Registry Lib
open Lib.Transactions (commit commit_of_error commit_of_ok ok_of_map)
open Models

/-! ## Rules -/

structure ToolPermissionCreate where
  serverPattern : Text 1 200
  toolPattern : Text 1 200
  effect : PermissionEffect
  priority : { priority : Int // -1000 ≤ priority ∧ priority ≤ 1000 }

inductive GrantError where
  | registry (error : RegistryError)
  | notFound (detail : String)
  | integrity
  deriving DecidableEq, Repr

def newPermission (roleId newId : Uuid) (body : ToolPermissionCreate) : ToolPermission where
  id := newId
  roleId := roleId
  serverPattern := body.serverPattern
  toolPattern := body.toolPattern
  effect := body.effect
  priority := body.priority

/-- `create_permission` of `app/api/roles.py`, by an administrator of the tenant. -/
def createPermission (registry : Tables) (tenantId roleId newId : Uuid)
    (body : ToolPermissionCreate) : Except GrantError Tables :=
  if registry.roles.any fun role => role.id = roleId && role.tenantId = tenantId then
    if registry.permissions.any fun permission => permission.id = newId then .error .integrity
    else .ok { registry with
        permissions := registry.permissions ++ [newPermission roleId newId body] }
  else .error (.notFound "Role not found")

/-! ## The ledger -/

/-- A rule, and the server whose slug was its pattern when it was added. -/
structure Grant where
  permission : Uuid
  tenantId : Uuid
  server : Uuid
  deriving DecidableEq, Repr

structure Ledger where
  registry : Tables
  grants : List Grant

inductive Operation where
  | registry (operation : Registry.Operation)
  | createPermission (tenantId roleId newId : Uuid) (body : ToolPermissionCreate)

/-- Rules with wildcards, and those that name no registered server, are not noted. -/
def noteGrant (registry : Tables) (tenantId newId : Uuid) (pattern : String) : List Grant :=
  match getBySlug registry.servers tenantId pattern with
  | some server => if Plain pattern then [⟨newId, tenantId, server.id⟩] else []
  | none => []

variable (library : Library)

def perform (ledger : Ledger) : Operation → Except GrantError Ledger
  | .registry operation =>
    match Registry.perform library ledger.registry operation with
    | .ok registry => .ok { ledger with registry := registry }
    | .error error => .error (.registry error)
  | .createPermission tenantId roleId newId body =>
    (createPermission ledger.registry tenantId roleId newId body).map fun registry =>
      { registry := registry
        grants := noteGrant ledger.registry tenantId newId body.serverPattern ++
          ledger.grants.filter fun grant => !decide (grant.permission = newId) }

/-! ## Where a rule applies -/

def Live (registry : Tables) (grant : Grant) (permission : ToolPermission) : Prop :=
  permission ∈ registry.permissions ∧ permission.id = grant.permission

/-- The server of the grant has the slug that the rule names. -/
def Names (registry : Tables) (grant : Grant) (permission : ToolPermission) : Prop :=
  ∃ server ∈ registry.servers.rows, server.id = grant.server ∧
    server.tenantId = grant.tenantId ∧ server.slug = permission.serverPattern

/-- The server of the grant is registered under the slug that the rule names, and the rule
matches no other server of the tenant. -/
def AppliesOnly (registry : Tables) (grant : Grant) (permission : ToolPermission) : Prop :=
  Names registry grant permission ∧
    ∀ server ∈ registry.servers.rows, server.tenantId = grant.tenantId →
      Glob.fnmatchcase server.slug permission.serverPattern = true → server.id = grant.server

/-- A live rule has a role of the tenant and names no wildcard. -/
structure Noted (registry : Tables) (grant : Grant) (permission : ToolPermission) : Prop where
  role : ∃ role ∈ registry.roles, role.id = permission.roleId ∧ role.tenantId = grant.tenantId
  plain : Plain permission.serverPattern

def AllLive (property : Tables → Grant → ToolPermission → Prop) (ledger : Ledger) : Prop :=
  ∀ grant ∈ ledger.grants, ∀ permission, Live ledger.registry grant permission →
    property ledger.registry grant permission

/-- An update that passes its checks gives a server with a live rule no other slug. -/
def KeepsSlug (ledger : Ledger) : Operation → Prop
  | .registry (.update settings tenantId slug command) => ∀ server,
      Updates library ledger.registry settings tenantId slug command server →
      ∀ grant ∈ ledger.grants, grant.server = server.id →
      (∃ permission, Live ledger.registry grant permission) →
      ∀ given, command.slug = some given → given.val = server.slug
  | _ => True

variable {library} {registry : Tables}

variable {tenantId : Uuid} {grant : Grant} {permission : ToolPermission}
  {operation : Registry.Operation} {ledger : Ledger}

theorem getBySlug_some {servers : ServerTable} {slug : String} {server : RegisteredServer}
    (found : getBySlug servers tenantId slug = some server) :
    server ∈ servers.rows ∧ server.tenantId = tenantId ∧ server.slug = slug := by
  have sel := List.find?_some found
  simp only [Bool.and_eq_true, decide_eq_true_eq] at sel
  exact ⟨mem_of_find?_eq_some found, sel⟩

theorem Names.appliesOnly (names : Names registry grant permission)
    (plain : Plain permission.serverPattern) :
    AppliesOnly registry grant permission := by
  refine ⟨names, fun other mem sameTenant matched => ?_⟩
  obtain ⟨server, serverIn, sameId, tenant, slug⟩ := names
  have exact := (Glob.fnmatchcase_iff_eq other.slug permission.serverPattern
    fun char mem => Auth.Rbac.not_wildcard_ne char (plain char mem)).mp matched
  rw [← sameId, registry.servers.eq_of_conflicts mem serverIn
    (.inr ⟨sameTenant.trans tenant.symm, exact.trans slug.symm⟩)]

/-! ## Commands of the registry -/

theorem commit_registry (ledger : Ledger) (operation : Registry.Operation) :
    commit (perform library) ledger (.registry operation) = { ledger with
        registry := commit (Registry.perform library) ledger.registry operation } := by
  unfold commit perform
  dsimp only
  cases Registry.perform library ledger.registry operation <;> rfl

theorem rules_commit (operation : Registry.Operation) :
    (commit (Registry.perform library) registry operation).roles = registry.roles ∧
      ∀ permission ∈ (commit (Registry.perform library) registry operation).permissions,
        permission ∈ registry.permissions := by
  unfold commit
  cases did : Registry.perform library registry operation with
  | error failure => exact ⟨rfl, fun _ mem => mem⟩
  | ok after =>
    cases operation with
    | create settings license now newId tenantId command =>
      obtain ⟨⟨_, created⟩, hok, rfl⟩ := ok_of_map did
      have creates := create_inv hok
      exact ⟨creates.roles, fun _ mem => creates.permissions ▸ mem⟩
    | update settings tenantId slug command =>
      obtain ⟨⟨_, updated⟩, hok, rfl⟩ := ok_of_map did
      obtain ⟨_, _, _, replaces⟩ := update_inv hok
      exact ⟨replaces.roles, fun _ mem => replaces.permissions ▸ mem⟩
    | delete tenantId slug =>
      obtain ⟨_, deletes⟩ := delete_inv did
      refine ⟨deletes.roles, fun permission mem => ?_⟩
      rw [deletes.permissions] at mem
      exact (mem_filter.mp mem).1

theorem noted_commit_registry (noted : Noted registry grant permission) :
    Noted (commit (Registry.perform library) registry operation) grant permission := by
  refine ⟨?_, noted.plain⟩
  rw [(rules_commit operation).1]
  exact noted.role

theorem live_of_commit
    (live : Live (commit (Registry.perform library) registry operation) grant permission) :
    Live registry grant permission :=
  ⟨(rules_commit operation).2 permission live.1, live.2⟩

theorem not_mem_of_deletes {slug : String} {after : Tables} {server : RegisteredServer}
    (deletes : Deletes registry tenantId slug after server)
    (noted : Noted registry grant permission) (tenant : grant.tenantId = tenantId)
    (named : permission.serverPattern = slug) : permission ∉ after.permissions := by
  obtain ⟨role, roleIn, roleId, roleTenant⟩ := noted.role
  have ofTenant : registry.roles.any (fun role =>
      role.id = permission.roleId && role.tenantId = tenantId) = true :=
    any_eq_true.mpr ⟨role, roleIn, by simp [roleId, roleTenant, tenant]⟩
  rw [deletes.permissions, mem_filter]
  simp [named, ofTenant]

theorem names_commit
    (live : Live (commit (Registry.perform library) registry operation) grant permission)
    (noted : Noted registry grant permission) (names : Names registry grant permission)
    (keeps : ∀ settings tenantId slug command server,
      operation = .update settings tenantId slug command →
      Updates library registry settings tenantId slug command server →
      grant.server = server.id → (updatedRow server command).slug = server.slug) :
    Names (commit (Registry.perform library) registry operation) grant permission := by
  obtain ⟨server, mem, sameId, tenant, named⟩ := names
  unfold commit at live ⊢
  cases did : Registry.perform library registry operation with
  | error failure => exact ⟨server, mem, sameId, tenant, named⟩
  | ok after =>
    rw [did] at live
    cases operation with
    | create settings license now newId tenantId command =>
      obtain ⟨⟨_, created⟩, hok, rfl⟩ := ok_of_map did
      refine ⟨server, ?_, sameId, tenant, named⟩
      rw [(create_inv hok).rows]
      exact mem_append_left _ mem
    | update settings tenantId slug command =>
      obtain ⟨⟨_, updated⟩, hok, rfl⟩ := ok_of_map did
      obtain ⟨old, updates, rfl, replaces⟩ := update_inv hok
      by_cases same : server.id = old.id
      · obtain rfl := registry.servers.eq_of_conflicts mem
          (mem_of_find?_eq_some updates.found) (.inl same)
        have kept := keeps _ _ _ _ _ rfl updates sameId.symm
        exact ⟨updatedRow server command, replaces.mem_iff.mpr (.inr rfl), sameId, tenant,
          kept.trans named⟩
      · exact ⟨server, replaces.mem_iff.mpr (.inl ⟨mem, same⟩), sameId, tenant, named⟩
    | delete tenantId slug =>
      obtain ⟨old, deletes⟩ := delete_inv did
      obtain ⟨oldIn, oldTenant, oldSlug⟩ := getBySlug_some deletes.found
      by_cases same : server.id = old.id
      · obtain rfl := registry.servers.eq_of_conflicts mem oldIn (.inl same)
        exact absurd live.1 (not_mem_of_deletes deletes noted (tenant.symm.trans oldTenant)
          (named.symm.trans oldSlug))
      · refine ⟨server, ?_, sameId, tenant, named⟩
        rw [deletes.rows, mem_filter]
        exact ⟨mem, by simpa using same⟩

/-! ## New rules -/

theorem createPermission_ok {roleId newId : Uuid} {body : ToolPermissionCreate} {after : Tables}
    (hok : createPermission registry tenantId roleId newId body = .ok after) :
    (∃ role ∈ registry.roles, role.id = roleId ∧ role.tenantId = tenantId) ∧
      (∀ permission ∈ registry.permissions, permission.id ≠ newId) ∧
      after = { registry with
        permissions := registry.permissions ++ [newPermission roleId newId body] } := by
  unfold createPermission at hok
  split at hok
  · rename_i known
    split at hok
    · cases hok
    rename_i fresh
    obtain ⟨role, mem, sel⟩ := any_eq_true.mp known
    simp only [Bool.and_eq_true, decide_eq_true_eq] at sel
    exact ⟨⟨role, mem, sel⟩, by simpa using fresh, (Except.ok.inj hok).symm⟩
  · cases hok

theorem of_mem_noteGrant {newId : Uuid} {pattern : String}
    (mem : grant ∈ noteGrant registry tenantId newId pattern) :
    Plain pattern ∧ ∃ server, getBySlug registry.servers tenantId pattern = some server ∧
      grant = ⟨newId, tenantId, server.id⟩ := by
  unfold noteGrant at mem
  split at mem
  · rename_i server found
    split at mem
    · rename_i plain
      exact ⟨plain, server, found, mem_singleton.mp mem⟩
    · cases mem
  · cases mem

/-- Servers and roles stay as they are; a live rule of the ledger is an older one, or new
and naming the server it is noted for. -/
theorem commit_createPermission {after : Ledger} {roleId newId : Uuid} {body : ToolPermissionCreate}
    (committed : commit (perform library) ledger
      (.createPermission tenantId roleId newId body) = after) :
    after.registry.servers = ledger.registry.servers ∧
      after.registry.roles = ledger.registry.roles ∧
      ∀ grant ∈ after.grants, ∀ permission, Live after.registry grant permission →
        grant ∈ ledger.grants ∧ Live ledger.registry grant permission ∨
          Noted ledger.registry grant permission ∧ Names ledger.registry grant permission := by
  cases did : perform library ledger (.createPermission tenantId roleId newId body) with
  | error failure =>
    rw [commit_of_error did] at committed
    subst committed
    exact ⟨rfl, rfl, fun grant granted permission live => .inl ⟨granted, live⟩⟩
  | ok result =>
    rw [commit_of_ok did] at committed
    subst committed
    obtain ⟨tables, hok, rfl⟩ := ok_of_map did
    obtain ⟨role, fresh, rfl⟩ := createPermission_ok hok
    refine ⟨rfl, rfl, fun grant granted permission live => ?_⟩
    obtain ⟨stored, sameId⟩ := live
    rcases mem_append.mp granted with recent | earlier
    · obtain ⟨plain, server, found, rfl⟩ := of_mem_noteGrant recent
      rcases mem_append.mp stored with old | new
      · exact absurd sameId (fresh permission old)
      · obtain rfl := mem_singleton.mp new
        obtain ⟨mem, tenant, slug⟩ := getBySlug_some found
        exact .inr ⟨⟨role, plain⟩, server, mem, rfl, tenant, slug⟩
    · obtain ⟨granted, kept⟩ := mem_filter.mp earlier
      rcases mem_append.mp stored with old | new
      · exact .inl ⟨granted, old, sameId⟩
      · obtain rfl := mem_singleton.mp new
        have apart : grant.permission ≠ newId := by simpa using kept
        exact absurd sameId.symm apart

/-! ## Runs -/

theorem commit_noted (ledger : Ledger) (operation : Operation) (noted : AllLive Noted ledger) :
    AllLive Noted (commit (perform library) ledger operation) := by
  intro grant granted permission live
  cases operation with
  | registry operation =>
    rw [commit_registry] at granted live ⊢
    exact noted_commit_registry (noted grant granted permission (live_of_commit live))
  | createPermission tenantId roleId newId body =>
    obtain ⟨_, roles, origin⟩ := commit_createPermission rfl
    have before : Noted ledger.registry grant permission := by
      rcases origin grant granted permission live with ⟨prev, liveBefore⟩ | ⟨new, _⟩
      · exact noted grant prev permission liveBefore
      · exact new
    exact ⟨roles ▸ before.role, before.plain⟩

theorem slug_updatedRow (server : RegisteredServer) (command : ServerUpdate) :
    (updatedRow server command).slug = server.slug ↔
      ∀ given, command.slug = some given → given.val = server.slug := by
  cases given : command.slug with
  | none => simp [updatedRow, given]
  | some slug => simp [updatedRow, given]

/-- An update that passes its checks and gives another slug leaves a live rule of the server
with a slug that is not the server's. -/
theorem keepsSlug_of_names {operation : Operation} (names : AllLive Names ledger)
    (namesAfter : AllLive Names (commit (perform library) ledger operation)) :
    KeepsSlug library ledger operation := by
  cases operation with
  | createPermission tenantId roleId newId body => trivial
  | registry operation =>
    cases operation with
    | create settings license now newId tenantId command => trivial
    | delete tenantId slug => trivial
    | update settings tenantId slug command =>
      rintro server updates grant granted same ⟨permission, live⟩
      rw [← slug_updatedRow]
      have replaces := updates.replaces
      rw [commit_registry] at namesAfter
      obtain ⟨old, oldIn, oldId, _, oldSlug⟩ := names grant granted permission live
      obtain ⟨new, newIn, newId, _, newSlug⟩ := namesAfter grant granted permission
        ⟨replaces.permissions ▸ live.1, live.2⟩
      obtain rfl := ledger.registry.servers.eq_of_conflicts
        (mem_of_find?_eq_some updates.found) oldIn (.inl (same.symm.trans oldId.symm))
      rcases replaces.mem_iff.mp newIn with ⟨_, apart⟩ | rfl
      · exact absurd (newId.trans same) apart
      · exact newSlug.trans oldSlug.symm

theorem names_of_keepsSlug {operation : Operation} (noted : AllLive Noted ledger)
    (names : AllLive Names ledger) (keeps : KeepsSlug library ledger operation) :
    AllLive Names (commit (perform library) ledger operation) := by
  intro grant granted permission live
  cases operation with
  | registry operation =>
    rw [commit_registry] at granted live ⊢
    have liveBefore := live_of_commit live
    refine names_commit live (noted grant granted permission liveBefore)
      (names grant granted permission liveBefore) ?_
    rintro settings tenantId slug command server rfl updates same
    exact (slug_updatedRow server command).mpr
      (keeps server updates grant granted same ⟨permission, liveBefore⟩)
  | createPermission tenantId roleId newId body =>
    obtain ⟨servers, _, origin⟩ := commit_createPermission rfl
    have before : Names ledger.registry grant permission := by
      rcases origin grant granted permission live with ⟨prev, liveBefore⟩ | ⟨_, new⟩
      · exact names grant prev permission liveBefore
      · exact new
    unfold Names at before ⊢
    rwa [servers]

theorem allLive_appliesOnly_iff (noted : AllLive Noted ledger) :
    AllLive AppliesOnly ledger ↔ AllLive Names ledger := by
  constructor
  · exact fun applies grant granted permission live => (applies grant granted permission live).1
  · exact fun names grant granted permission live =>
      (names grant granted permission live).appliesOnly (noted grant granted permission live).plain

theorem commit_appliesOnly_iff (ledger : Ledger) (operation : Operation)
    (noted : AllLive Noted ledger) (applies : AllLive AppliesOnly ledger) :
    AllLive AppliesOnly (commit (perform library) ledger operation) ↔
      KeepsSlug library ledger operation := by
  have names := (allLive_appliesOnly_iff noted).mp applies
  rw [allLive_appliesOnly_iff (commit_noted ledger operation noted)]
  exact ⟨keepsSlug_of_names names, names_of_keepsSlug noted names⟩

/-- From any registry, each rule applies throughout to the server it was added for and to no
other just if no server with a live rule is given another slug. -/
theorem grants_apply_only_iff (library : Library) (registry : Tables)
    (operations : List Operation) :
    (∀ first rest, operations = first ++ rest →
        AllLive AppliesOnly (Transactions.run (perform library) ⟨registry, []⟩ first)) ↔
      Transactions.Along (perform library) (KeepsSlug library) ⟨registry, []⟩ operations :=
  Transactions.throughout_iff_along _ _ (fun ledger operation => commit_noted ledger operation)
    (fun ledger operation => commit_appliesOnly_iff ledger operation)
    (fun _ granted => (not_mem_nil granted).elim)
    (fun _ granted => (not_mem_nil granted).elim) operations

/-! ## A slug that changes hands -/

def sampleRole : Role := ⟨⟨7#128⟩, sampleSubject.tenantId, "analyst"⟩

def sampleTables : Tables := ⟨Table.empty, [sampleRole], []⟩

def sampleRule : ToolPermissionCreate where
  serverPattern := ⟨"github-mcp", by decide⟩
  toolPattern := ⟨"*", by decide⟩
  effect := .allow
  priority := ⟨0, by decide⟩

def slugUpdate : ServerUpdate :=
  { RegistrySafety.bridgeUpdate with
    transport := none
    slug := some ⟨"github-old", by decide⟩ }

/-- A server is registered, a rule is added for it, the server is renamed, and another one is
registered under its former slug. -/
def reuse : List Operation :=
  [.registry (Outbound.sampleRegistration Outbound.healthPath),
    .createPermission sampleSubject.tenantId sampleRole.id ⟨8#128⟩ sampleRule,
    .registry (.update RegistrySafety.sampleRegistry sampleSubject.tenantId "github-mcp"
      slugUpdate),
    .registry (.create RegistrySafety.sampleRegistry none 0 ⟨3#128⟩ sampleSubject.tenantId
      (Outbound.sampleCommand Outbound.healthPath))]

/-- The rule is still there, and the server it matches is not the one it was added for. -/
theorem rule_opens_other_server : ¬ ∀ first rest, reuse = first ++ rest → AllLive AppliesOnly
      (Transactions.run (perform Outbound.sampleLibrary) ⟨sampleTables, []⟩ first) := by
  intro always
  have applies := always reuse [] (append_nil _).symm
    ⟨⟨8#128⟩, sampleSubject.tenantId, ⟨2#128⟩⟩ (by decide +kernel)
    (newPermission sampleRole.id ⟨8#128⟩ sampleRule) ⟨by decide +kernel, rfl⟩
  have moved := applies.2
    (createdRow ⟨3#128⟩ sampleSubject.tenantId (Outbound.sampleCommand Outbound.healthPath))
    (by decide +kernel) rfl (by decide +kernel)
  exact absurd moved (by decide)

end Portcullis.Gateway.Grants
