import Portcullis.Gateway.RegistrySafety

/-!
# Slug conflicts

When `RegistryService.create` and `RegistryService.update` raise a `SlugConflictError`.  Every
integrity error of the database is translated into one, and the table has constraints on more
than the slug.
-/

namespace Portcullis.Gateway.SlugConflicts

open Auth.Licenses Gateway.Registry Lib
open Lib.Transactions (commit commit_of_error)
open Models

def Raises {Value : Type} (result : Except RegistryError Value) : Prop :=
  ∃ message, result = .error (.slugConflict message)

section Claims

variable (library : Library) (registry : Tables)

/-- What `create` checks before it stores the row, and the width of the column. -/
structure Passes (settings : RegistrySettings) (license : Option License) (now : Instant)
    (tenantId : Uuid) (command : ServerCreate) : Prop where
  url : validateUrl library settings command.upstreamUrl = .ok ()
  token : validateTokenEnvAllowlist command.serviceTokenEnvVar = .ok ()
  transport : validateTransport library settings command = .ok ()
  license : requireLicense license now 0 (countServers registry.servers tenantId + 1) = .ok ()
  short : command.slug.val.length ≤ slugLength

def Taken (tenantId : Uuid) (slug : String) : Prop :=
  ∃ server ∈ registry.servers.rows, server.tenantId = tenantId ∧ server.slug = slug

/-- All other checks pass, and another server of the tenant has the slug. -/
def Warranted : Operation → Prop
  | .create settings license now _ tenantId command =>
    Passes library registry settings license now tenantId command ∧
      Taken registry tenantId command.slug
  | .update settings tenantId slug command =>
    ∃ server, getBySlug registry.servers tenantId slug = some server ∧
      validateUpdate library settings server command = .ok () ∧
      (updatedRow server command).slug.length ≤ slugLength ∧
      ∃ other ∈ registry.servers.rows, other.id ≠ server.id ∧ other.tenantId = tenantId ∧
        other.slug = (updatedRow server command).slug
  | .delete _ _ => False

/-- A registration under a free slug, accepted by all checks, violates another constraint: a
bridge in token mode names no variable, or the generated id is in use. -/
def Misreported : Operation → Prop
  | .create settings license now newId tenantId command =>
    Passes library registry settings license now tenantId command ∧
      ¬ Taken registry tenantId command.slug ∧
      (command.authMode = .serviceToken ∧ command.serviceTokenEnvVar = none ∨
        ∃ server ∈ registry.servers.rows, server.id = newId)
  | _ => False

end Claims

/-! ## Other errors -/

variable {Value Next Other : Type} {library : Library} {registry : Tables}
  {settings : RegistrySettings} {tenantId : Uuid}

theorem raises_map_iff {result : Except RegistryError Value} (change : Value → Next) :
    Raises (result.map change) ↔ Raises result := by
  cases result <;> simp [Raises, Except.map]

theorem raises_bind_iff {first : Except RegistryError Unit}
    {next : Unit → Except RegistryError Value} (silent : ¬ Raises first) :
    Raises (first >>= next) ↔ first = .ok () ∧ Raises (next ()) := by
  cases first with
  | ok value => exact ⟨fun raised => ⟨rfl, raised⟩, fun passed => passed.2⟩
  | error failure =>
    refine ⟨fun ⟨message, raised⟩ => absurd ⟨message, ?_⟩ silent, fun passed => nomatch passed.1⟩
    exact congrArg Except.error (Except.error.inj raised)

theorem mapError_silent {result : Except Other Value} {change : Other → RegistryError}
    (apart : ∀ failure message, change failure ≠ .slugConflict message) :
    ¬ Raises (result.mapError change) := by
  rintro ⟨message, raised⟩
  cases result with
  | ok value => cases raised
  | error failure => exact apart failure message (Except.error.inj raised)

theorem validateUrl_silent (url : String) : ¬ Raises (validateUrl library settings url) :=
  mapError_silent nofun

theorem validateTokenEnvAllowlist_silent (value : Option String) :
    ¬ Raises (validateTokenEnvAllowlist value) := by
  unfold validateTokenEnvAllowlist
  split <;> rintro ⟨_, ⟨⟩⟩

theorem validateTransport_silent (command : ServerCreate) :
    ¬ Raises (validateTransport library settings command) := by
  unfold validateTransport validateBridgeCommand
  repeat' split
  all_goals rintro ⟨_, ⟨⟩⟩

theorem validateUpdate_silent (server : RegisteredServer) (command : ServerUpdate) :
    ¬ Raises (validateUpdate library settings server command) := by
  have url : ¬ Raises (validateGivenUrl library settings command.upstreamUrl) := by
    cases command.upstreamUrl with
    | none => rintro ⟨_, ⟨⟩⟩
    | some url => exact validateUrl_silent url
  unfold validateUpdate
  rw [raises_bind_iff url]
  rintro ⟨_, raised⟩
  dsimp only at raised
  split at raised
  · obtain ⟨_, ⟨⟩⟩ := raised
  · exact validateTokenEnvAllowlist_silent _ raised

/-! ## Conflicts -/

theorem raises_insertServer_iff (servers : ServerTable) (row : RegisteredServer)
    (reported : String) :
    Raises (insertServer servers row reported) ↔ row.slug.length ≤ slugLength ∧
        (row.authMode = .serviceToken ∧ row.serviceTokenEnvVar = none ∨
          ∃ other ∈ servers.rows, ServerConflict other row) := by
  unfold insertServer Table.insert
  split_ifs with long unnamed fresh
  · simp [Raises, not_le.mpr long]
  · simp [Raises, not_lt.mp long, unnamed]
  · simp only [Raises, reduceCtorEq, exists_false, false_iff]
    rintro ⟨_, bare | ⟨other, mem, conflict⟩⟩
    · exact unnamed bare
    · exact fresh other mem conflict
  · push Not at fresh
    exact ⟨fun _ => ⟨not_lt.mp long, .inr fresh⟩, fun _ => ⟨_, rfl⟩⟩

theorem raises_store_iff {result : Except RegistryError ServerTable} (row : RegisteredServer) :
    Raises (do let servers ← result; pure ({ registry with servers := servers }, row)) ↔
      Raises result := by
  cases result <;> simp [Raises, bind, Except.bind, pure, Except.pure]

theorem raises_create_iff {license : Option License} {now : Instant} {newId : Uuid}
    {command : ServerCreate} :
    Raises (create library registry settings license now newId tenantId command) ↔
      Passes library registry settings license now tenantId command ∧
        (command.authMode = .serviceToken ∧ command.serviceTokenEnvVar = none ∨
          (∃ server ∈ registry.servers.rows, server.id = newId) ∨
          Taken registry tenantId command.slug) := by
  have licensed : ∀ {result : Except EntitlementError Unit},
      result.mapError (fun error => RegistryError.value error.message) = .ok () ↔
        result = .ok () := by
    intro result
    cases result <;> simp [Except.mapError]
  have conflicts : (∃ other ∈ registry.servers.rows,
      ServerConflict other (createdRow newId tenantId command)) ↔
        (∃ server ∈ registry.servers.rows, server.id = newId) ∨
          Taken registry tenantId command.slug := by
    simp only [ServerConflict, createdRow, Taken, and_or_left, exists_or]
  unfold create
  rw [raises_bind_iff (validateUrl_silent _), raises_bind_iff (validateTokenEnvAllowlist_silent _),
    raises_bind_iff (validateTransport_silent _), raises_bind_iff (mapError_silent nofun),
    raises_store_iff, raises_insertServer_iff, conflicts, licensed]
  exact ⟨fun ⟨url, token, transport, license, short, violated⟩ =>
      ⟨⟨url, token, transport, license, short⟩, violated⟩,
    fun ⟨passes, violated⟩ => ⟨passes.url, passes.token, passes.transport, passes.license,
      passes.short, violated⟩⟩

theorem raises_update_iff {slug : String} {command : ServerUpdate} :
    Raises (update library registry settings tenantId slug command) ↔
      Warranted library registry (.update settings tenantId slug command) := by
  unfold update
  cases found : getBySlug registry.servers tenantId slug with
  | none => simp [Raises, Warranted, notFound, found]
  | some server =>
    have tenant : server.tenantId = tenantId := by
      have sel := List.find?_some found
      simp only [Bool.and_eq_true, decide_eq_true_eq] at sel
      exact sel.1
    simp only [Warranted, found, Option.some.injEq, exists_eq_left']
    rw [raises_bind_iff (validateUpdate_silent _ _), raises_store_iff, raises_insertServer_iff]
    refine and_congr_right fun validated => and_congr_right fun _ => ?_
    have named : ¬ ((updatedRow server command).authMode = .serviceToken ∧
        (updatedRow server command).serviceTokenEnvVar = none) := fun ⟨tokened, missing⟩ =>
      (validateUpdate_ok validated).2.1 ⟨tokened, by rw [missing]; rfl⟩
    rw [or_iff_right named]
    -- the row that is updated has left the table, so only a slug can collide
    refine exists_congr fun other => ?_
    simp [Table.delete, ServerConflict, updatedRow, tenant]
    tauto

/-- A conflict of slugs is reported exactly when there is one, and every other rejection has
another error and changes nothing, unless the registration is misreported. -/
theorem slug_conflicts_exact_iff (library : Library) (registry : Tables) (operation : Operation) :
    ((Raises (perform library registry operation) ↔ Warranted library registry operation) ∧
        ∀ failure, perform library registry operation = .error failure →
          (Warranted library registry operation ∨ ∀ message, failure ≠ .slugConflict message) ∧
            commit (perform library) registry operation = registry) ↔
      ¬ Misreported library registry operation := by
  have exact_iff : (Raises (perform library registry operation) ↔
      Warranted library registry operation) ↔ ¬ Misreported library registry operation := by
    cases operation with
    | create settings license now newId tenantId command =>
      rw [perform, raises_map_iff, raises_create_iff]
      by_cases taken : Taken registry tenantId command.slug <;> simp [Warranted, Misreported, taken]
    | update settings tenantId slug command =>
      rw [perform, raises_map_iff, raises_update_iff]
      exact iff_of_true Iff.rfl not_false
    | delete tenantId slug =>
      refine iff_of_true (iff_of_false ?_ not_false) not_false
      rw [perform, delete]
      split <;> rintro ⟨_, ⟨⟩⟩
  rw [← exact_iff, and_iff_left_iff_imp]
  intro exactly failure failed
  refine ⟨or_iff_not_imp_left.mpr fun unwarranted message conflict => ?_, commit_of_error failed⟩
  exact unwarranted (exactly.mp ⟨message, conflict ▸ failed⟩)

/-! ## A bridge in token mode -/

def bridgeCommand : ServerCreate :=
  { Outbound.sampleCommand Outbound.healthPath with
    transport := .stdioBridge
    authMode := .serviceToken
    bridgeCommand := some "mcp-server" }

def bridgeSettings : RegistrySettings := ⟨sampleSettings, true⟩

def bridgeRegistration : Operation :=
  .create bridgeSettings none 0 ⟨2#128⟩ sampleSubject.tenantId bridgeCommand

/-- The first server of a registry is refused because its slug already exists. -/
theorem bridge_reported_as_conflict :
    RegistrySafety.Conforms Outbound.sampleLibrary bridgeSettings bridgeRegistration ∧
      Raises (perform Outbound.sampleLibrary noServers bridgeRegistration) ∧
      ¬ Warranted Outbound.sampleLibrary noServers bridgeRegistration := by
  refine ⟨⟨rfl, by decide⟩, ?_, ?_⟩
  · rw [bridgeRegistration, perform, raises_map_iff, raises_create_iff]
    refine ⟨?_, .inl ⟨rfl, rfl⟩⟩
    constructor <;> decide +kernel
  · rintro ⟨_, _, mem, _⟩
    exact List.not_mem_nil mem

end Portcullis.Gateway.SlugConflicts
