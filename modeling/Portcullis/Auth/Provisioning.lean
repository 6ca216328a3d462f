import Portcullis.Auth.Deprovisioning
import Portcullis.Auth.OrgBootstrap

/-!
# Provisioning a tenant

`ProvisioningService.provision_tenant` of `app/provisioning.py`, statement by statement.
`issue_key` commits in the middle: what fails before it leaves the database as it was, and
what fails after it leaves a tenant without a license.
-/

namespace Portcullis.Auth.Provisioning

open Auth.Accounts Auth.ApiKeys List
open Auth.Federation (ProvisionRequest Tenant TenantConflict ownerOf resolveIssuer
  tokenArgs)
open Auth.LicenseService Auth.OrgBootstrap Lib Lib.Session
open Metering.Usage (LicensePlan)
open Models
open Repositories.Audit (AuditEvent HashPayload newRow newestHash)

/-! ## The call -/

structure TenantRequest extends ProvisionRequest where
  plan : LicensePlan
  licensee : Option String
  seatLimit : Int
  serverLimit : Option Int
  expiresInDays : Int

structure TenantDraws where
  account : Draws
  tenantId : Uuid
  roles : RoleDraws
  license : Mint
  auditId : Uuid
  auditNow : Instant

inductive ProvisionFailure where
  | provisioningError (message : String)
  | overflowError
  deriving DecidableEq, Repr

structure ProvisionTenantResult where
  tenant : Tenant
  owner : User
  accessToken : String
  ownerPassword : String
  license : StoredLicense
  deriving DecidableEq

def planValue : LicensePlan → String
  | .community => "community"
  | .pro => "pro"
  | .enterprise => "enterprise"

section Rows

variable (service : Service) (request : TenantRequest) (draws : TenantDraws)

def tenantRow : Tenant := ⟨draws.tenantId, request.name, request.slug, request.issuerId⟩

def ownerRow : User :=
  ownerOf draws.account draws.tenantId request.toProvisionRequest
    (service.peppers.passwords.hashPassword service.argon2 draws.account.passwordSalt
      request.ownerPassword)

def memberRow : OrgMember :=
  ⟨draws.account.memberId, draws.tenantId, draws.account.userId.str, .orgOwner, none⟩

def keyRow : ApiKey :=
  issuedRow service.argon2
    (tokenArgs draws.account draws.tenantId draws.account.userId request.ownerEmail)
    service.peppers.activePepper

/-- `licensee or name`. -/
def licenseeOrName : String :=
  match request.licensee with
  | none => request.name
  | some licensee => if licensee = "" then request.name else licensee

def licenseRequest : IssueRequest where
  tenantId := draws.tenantId
  issuerId := request.issuerId
  plan := request.plan
  licensee := licenseeOrName request
  seatLimit := request.seatLimit
  serverLimit := request.serverLimit
  expiresInDays := request.expiresInDays

def auditEvent : AuditEvent where
  eventType := .tenantProvisioned
  outcome := "allowed"
  tenantId := some draws.tenantId
  subjectId := request.issuerId.map Uuid.str
  subjectType := some .apiKey
  serverSlug := none
  toolName := none
  rpcMethod := none
  clientIp := none
  requestId := none
  detail := some (.obj [("tenant_id", .str draws.tenantId.str), ("tenant_slug", .str request.slug),
    ("owner_email", .str request.ownerEmail), ("plan", .str (planValue request.plan))])

end Rows

abbrev Provision := Sql Op Ans ProvisionFailure

def slugInUse (slug : String) : ProvisionFailure :=
  .provisioningError ("tenant slug already in use: " ++ slug)

def limitReached : ProvisionFailure :=
  .provisioningError "Super admin has reached the maximum limit of 2 organizations"

def atLimit (issuer : User) : Bool :=
  issuer.isPlatformAdmin && decide (2 ≤ issuer.createdOrgCount)

/-- The issuer, in the default tenant or else in any. -/
def loadIssuer (issuerId : Uuid) : Provision (Option User) := do
  let resident : Option User ← select (.getUserById defaultTenantId issuerId)
  match resident with
  | some user => pure (some user)
  | none => select (.findUser issuerId)

def checkIssuer : Option Uuid → Provision (Option User)
  | none => pure none
  | some issuerId => do
    let issuer ← loadIssuer issuerId
    if issuer.any atLimit then refuse limitReached else pure issuer

/-- An integrity error is taken for a slug that was inserted in the meantime. -/
def rejectedTenant (slug : String) : Raised ProvisionFailure → Provision Unit
  | .database .violation => refuse (slugInUse slug)
  | .database .fault => .fail (.database .fault)
  | .own failure => refuse failure

def recordOwnership (issuerId tenantId : Uuid) (loaded : Option User) : Provision Unit := do
  let found : Option User ← select (.findUser issuerId)
  match found with
  | none => pure ()
  | some row =>
    -- the session hands out the object it has loaded before
    let issuer := loaded.getD row
    if issuer.isPlatformAdmin then
      insert (.organization issuerId tenantId (issuer.createdOrgCount + 1))
    else pure ()

/-- Its failure is swallowed, but the transaction is lost with it. -/
def noteIssuer (tenantId : Uuid) (loaded : Option User) : Option Uuid → Provision Unit
  | none => pure ()
  | some issuerId => (recordOwnership issuerId tenantId loaded).recover fun _ => pure ()

section Programs

variable (service : Service) (hash : HashPayload → String)

variable (request : TenantRequest)

/-- Everything up to the row of the key, which `issue_key` inserts before it commits. -/
def openTenant (draws : TenantDraws) : Provision Unit := do
  let taken : Bool ← select (.slugTaken request.slug)
  if taken then refuse (slugInUse request.slug)
  else do
    let issuer ← checkIssuer request.issuerId
    (insert (.tenant (tenantRow request draws))).recover (rejectedTenant request.slug)
    noteIssuer draws.tenantId issuer request.issuerId
    insert (.user (ownerRow service request draws))
    insert (.member (memberRow draws))
    createDefaultRoles draws.tenantId draws.roles
    insert (.key (keyRow service request draws))

/-- `LicenseService.issue`. -/
def issueLicense (draws : TenantDraws) : Provision StoredLicense :=
  match addDays draws.license.now request.expiresInDays with
  | none => refuse .overflowError
  | some expiresAt => do
    let license := newLicense (licenseRequest request draws) draws.license expiresAt
    insert (.license license)
    pure license

/-- `AuditRepository.create`, which swallows the errors of its two reads. -/
def createAudit (draws : TenantDraws) : Provision Unit := do
  (select (.lockAudit draws.tenantId) : Provision Unit).recover fun _ => pure ()
  let prevHash ← (select (.newestHash draws.tenantId) : Provision (Option String)).recover
    fun _ => pure none
  insert (.audit (newRow hash (auditEvent request draws) draws.auditId draws.auditNow prevHash))

/-- Everything between the two commits. -/
def finishTenant (draws : TenantDraws) : Provision StoredLicense := do
  bindOwnerToOrgOwner draws.tenantId draws.account.keyId draws.roles
  let license ← issueLicense request draws
  createAudit hash request draws
  pure license

def provisioned (draws : TenantDraws) (license : StoredLicense) :
    ProvisionTenantResult where
  tenant := tenantRow request draws
  owner := ownerRow service request draws
  accessToken := draws.account.keyText.plaintext
  ownerPassword := request.ownerPassword
  license := license

def provisionTenant (draws : TenantDraws) :
    Provision ProvisionTenantResult := do
  openTenant service request draws
  commit -- the end of `issue_key`
  let license ← finishTenant hash request draws
  commit
  pure (provisioned service request draws license)

end Programs

/-! ### Errors are passed on -/

theorem strict_loadIssuer (issuerId : Uuid) : Strict (loadIssuer issuerId) := by
  refine (strict_select _).bind fun resident => ?_
  cases resident with
  | some user => exact strict_pure (some user)
  | none => exact strict_select _

theorem strict_checkIssuer (issuerId : Option Uuid) : Strict (checkIssuer issuerId) := by
  cases issuerId with
  | none => exact strict_pure none
  | some issuerId =>
    refine (strict_loadIssuer issuerId).bind fun issuer => ?_
    split
    · exact strict_refuse _
    · exact strict_pure issuer

theorem strict_recordOwnership (issuerId tenantId : Uuid) (loaded : Option User) :
    Strict (recordOwnership issuerId tenantId loaded) := by
  refine (strict_select _).bind fun found => ?_
  cases found with
  | none => exact strict_pure ()
  | some row =>
    dsimp only
    split
    · exact strict_insert _
    · exact strict_pure ()

theorem loyal_recordOwnership (issuerId tenantId : Uuid) (loaded : Option User) :
    Loyal (recordOwnership issuerId tenantId loaded) := by
  refine (loyal_select (.findUser issuerId)).bind fun found => ?_
  cases found with
  | none => trivial
  | some row =>
    dsimp only
    split
    · exact loyal_insert _
    · trivial

/-- The swallowed failure meets the next statement. -/
theorem strict_noteIssuer_bind {Value : Type} (tenantId : Uuid) (loaded : Option User)
    (issuerId : Option Uuid) {rest : Unit → Provision Value} (blocked : Blocked (rest ()))
    (onward : Strict (rest ())) : Strict (noteIssuer tenantId loaded issuerId >>= rest) := by
  cases issuerId with
  | none => exact onward
  | some issuerId =>
    exact (strict_recordOwnership issuerId tenantId loaded).recover_bind
      (loyal_recordOwnership issuerId tenantId loaded) (fun _ => blocked) fun _ => onward

theorem blocked_rejectedTenant {Value : Type} (slug : String) (raised : Raised ProvisionFailure)
    (rest : Unit → Provision Value) : Blocked (rejectedTenant slug raised >>= rest) := by
  rcases raised with failure | rejection
  · trivial
  · cases rejection <;> trivial

section Programs

variable (service : Service) (hash : HashPayload → String) (request : TenantRequest)
  (draws : TenantDraws)

theorem strict_openTenant : Strict (openTenant service request draws) := by
  refine (strict_select _).bind fun taken => ?_
  split
  · exact strict_refuse _
  refine (strict_checkIssuer _).bind fun issuer => ?_
  refine (strict_insert _).recover_bind (loyal_insert _)
    (fun raised => blocked_rejectedTenant request.slug raised _) fun _ => ?_
  refine strict_noteIssuer_bind _ _ _ (blocked_insert _ _) ?_
  refine (strict_insert _).bind fun _ => (strict_insert _).bind fun _ => ?_
  exact (strict_createDefaultRoles _ _).bind fun _ => strict_insert _

theorem strict_createAudit : Strict (createAudit hash request draws) := by
  have blocked : Blocked (select (.newestHash draws.tenantId) : Provision (Option String)) :=
    fun _ => trivial
  refine (strict_select (.lockAudit draws.tenantId)).recover_bind
    (loyal_select (.lockAudit draws.tenantId))
    (fun _ => blocked.recover_bind fun _ _ => trivial) fun _ => ?_
  exact (strict_select (.newestHash draws.tenantId)).recover_bind
    (loyal_select (.newestHash draws.tenantId)) (fun _ _ => trivial)
    fun _ => strict_insert _

theorem strict_finishTenant : Strict (finishTenant hash request draws) := by
  refine (strict_bindOwnerToOrgOwner _ _ _).bind fun _ => Strict.bind ?_ fun license => ?_
  · unfold issueLicense
    cases addDays draws.license.now request.expiresInDays with
    | none => exact strict_refuse _
    | some expiresAt => exact (strict_insert _).bind fun _ => strict_pure _
  · exact (strict_createAudit hash request draws).bind fun _ => strict_pure license

end Programs

/-! ## Without faults -/

def issuerOf (before : Store) (issuerId : Option Uuid) : Option User :=
  issuerId.bind (resolveIssuer before.users)

def issuerLookups (before : Store) : Option Uuid → Nat
  | none => 0
  | some issuerId =>
    if (before.users.rows.find? (hasId defaultTenantId issuerId)).isSome then 1 else 2

theorem rehearse_loadIssuer (issuerId : Uuid) (before : Store) :
    rehearse engine (loadIssuer issuerId) before =
      some ⟨resolveIssuer before.users issuerId, before, issuerLookups before (some issuerId)⟩ := by
  unfold loadIssuer
  rw [rehearse_bind, rehearse_select]
  simp only [find, Option.bind_some, resolveIssuer, issuerLookups]
  cases before.users.rows.find? (hasId defaultTenantId issuerId) with
  | some user => rfl
  | none =>
    rfl

theorem rehearse_checkIssuer (issuerId : Option Uuid) (before : Store) :
    rehearse engine (checkIssuer issuerId) before =
      if (issuerOf before issuerId).any atLimit then none
      else some ⟨issuerOf before issuerId, before, issuerLookups before issuerId⟩ := by
  cases issuerId with
  | none => rfl
  | some issuerId =>
    unfold checkIssuer
    rw [rehearse_bind, rehearse_loadIssuer]
    have resolved : resolveIssuer before.users issuerId = issuerOf before (some issuerId) := rfl
    simp only [Option.bind_some, resolved]
    by_cases limited : (issuerOf before (some issuerId)).any atLimit = true
    · rw [if_pos limited, if_pos limited]
      rfl
    · rw [if_neg limited, if_neg limited]
      rfl

/-- The store with the issuer's new organisation, if an administrator issued it. -/
def linkIssuer (before : Store) (tenantId : Uuid) (issuerId : Option Uuid) : Option Store :=
  match issuerId, issuerOf before issuerId with
  | some issuerId, some issuer =>
    if issuer.isPlatformAdmin then
      store before (.organization issuerId tenantId (issuer.createdOrgCount + 1))
    else some before
  | _, _ => some before

def linkRequests (before : Store) (issuerId : Option Uuid) : Nat :=
  match issuerId, issuerOf before issuerId with
  | none, _ => 0
  | some _, none => 1
  | some _, some issuer => if issuer.isPlatformAdmin then 2 else 1

theorem resolveIssuer_eq_none {users : UserTable} {issuerId : Uuid}
    (absent : users.rows.find? (fun user => decide (user.id = issuerId)) = none) :
    resolveIssuer users issuerId = none := by
  have missing : users.rows.find? (hasId defaultTenantId issuerId) = none := by
    rw [List.find?_eq_none] at absent ⊢
    intro user member sel
    simp only [hasId, Bool.and_eq_true] at sel
    exact absent user member sel.2
  rw [resolveIssuer, missing, absent]
  rfl

theorem exists_resolveIssuer {users : UserTable} {issuerId : Uuid} {row : User}
    (found : users.rows.find? (fun user => decide (user.id = issuerId)) = some row) :
    ∃ issuer, resolveIssuer users issuerId = some issuer := by
  rw [resolveIssuer, found]
  cases users.rows.find? (hasId defaultTenantId issuerId) with
  | none => exact ⟨row, rfl⟩
  | some user => exact ⟨user, rfl⟩

theorem rehearse_noteIssuer (tenantId : Uuid) (issuerId : Option Uuid) (before : Store) :
    rehearse engine (noteIssuer tenantId (issuerOf before issuerId) issuerId) before =
      (linkIssuer before tenantId issuerId).map fun after =>
        ⟨(), after, linkRequests before issuerId⟩ := by
  cases issuerId with
  | none => rfl
  | some issuerId =>
    unfold noteIssuer
    rw [rehearse_recover (loyal_recordOwnership _ _ _)]
    unfold recordOwnership
    rw [rehearse_bind, rehearse_select]
    simp only [find, Option.bind_some, linkIssuer, linkRequests]
    cases found : before.users.rows.find? (fun user => decide (user.id = issuerId)) with
    | none =>
      have absent : issuerOf before (some issuerId) = none := resolveIssuer_eq_none found
      simp only [absent]
      rfl
    | some row =>
      obtain ⟨issuer, resolved⟩ : ∃ issuer, issuerOf before (some issuerId) = some issuer :=
        exists_resolveIssuer found
      simp only [resolved, Option.getD_some]
      by_cases admin : issuer.isPlatformAdmin = true
      · simp only [admin, if_true, rehearse_insert]
        cases store before (.organization issuerId tenantId (issuer.createdOrgCount + 1)) <;> rfl
      · simp only [admin]
        rfl

/-! ### The first transaction -/

section Opening

variable (service : Service) (before : Store) (request : TenantRequest) (draws : TenantDraws)

/-- The owner, the roles and the key of a tenant that is stored. -/
def staffed : Option Store :=
  (store before (.user (ownerRow service request draws))).bind fun owned =>
    (store owned (.member (memberRow draws))).bind fun joined =>
      (joined.roles.insertAll (missingDefaultRoles joined draws.tenantId draws.roles)).bind
        fun roles =>
          (joined.permissions.insertAll
            (missingDefaultRules joined draws.tenantId draws.roles)).bind fun permissions =>
              store { joined with roles := roles, permissions := permissions }
                (.key (keyRow service request draws))

/-- What `openTenant` leaves. -/
def opened : Option Store :=
  if before.tenants.rows.any (fun tenant => tenant.slug = request.slug) then none
  else if (issuerOf before request.issuerId).any atLimit then none
  else
    (store before (.tenant (tenantRow request draws))).bind fun founded =>
      (linkIssuer founded draws.tenantId request.issuerId).bind fun linked =>
        staffed service linked request draws

def openRequests : Nat :=
  issuerLookups before request.issuerId + linkRequests before request.issuerId +
    bootstrapRequests before draws.tenantId draws.roles + 6

theorem bootstrapRequests_congr {left right : Store} (roles : left.roles = right.roles)
    (perms : left.permissions = right.permissions) (tenantId : Uuid) (draws : RoleDraws) :
    bootstrapRequests left tenantId draws = bootstrapRequests right tenantId draws := by
  simp only [bootstrapRequests, missingDefaultRoles, missingDefaultRules, roles, perms]

variable {tenantId : Uuid} {linked : Store}

theorem linkIssuer_same {before after : Store} {issuerId : Option Uuid}
    (linking : linkIssuer before tenantId issuerId = some after) :
    after.tenants = before.tenants ∧ after.members = before.members ∧ after.keys = before.keys ∧
      after.roles = before.roles ∧ after.permissions = before.permissions ∧
      after.bindings = before.bindings ∧ after.licenses = before.licenses ∧
      after.audit = before.audit := by
  unfold linkIssuer at linking
  split at linking
  · split at linking
    · simp only [store] at linking
      split at linking
      · cases linking
      · cases linking
        exact ⟨rfl, rfl, rfl, rfl, rfl, rfl, rfl, rfl⟩
    · cases linking
      exact ⟨rfl, rfl, rfl, rfl, rfl, rfl, rfl, rfl⟩
  · cases linking
    exact ⟨rfl, rfl, rfl, rfl, rfl, rfl, rfl, rfl⟩

theorem issuerOf_founded {founded : Store}
    (founding : store before (.tenant (tenantRow request draws)) = some founded) :
    founded.users = before.users ∧ founded.roles = before.roles ∧
      founded.permissions = before.permissions := by
  obtain ⟨rows, _, rfl⟩ := Option.map_eq_some_iff.mp founding
  exact ⟨rfl, rfl, rfl⟩

theorem rehearse_staff (linked : Store) :
    rehearse engine (do
        insert (.user (ownerRow service request draws))
        insert (.member (memberRow draws))
        createDefaultRoles draws.tenantId draws.roles
        insert (.key (keyRow service request draws)) : Provision Unit) linked =
      (staffed service linked request draws).map fun after =>
        ⟨(), after, bootstrapRequests linked draws.tenantId draws.roles + 3⟩ := by
  simp only [rehearse_bind, rehearse_insert, rehearse_createDefaultRoles, staffed]
  cases owning : store linked (.user (ownerRow service request draws)) with
  | none => rfl
  | some owned =>
    simp only [Option.map_some, Option.bind_some]
    cases joining : store owned (.member (memberRow draws)) with
    | none => rfl
    | some joined =>
      simp only [Option.map_some, Option.bind_some]
      cases joined.roles.insertAll (missingDefaultRoles joined draws.tenantId draws.roles) with
      | none => rfl
      | some roles =>
        cases joined.permissions.insertAll
            (missingDefaultRules joined draws.tenantId draws.roles) with
        | none => rfl
        | some permissions =>
          have same : bootstrapRequests joined draws.tenantId draws.roles =
              bootstrapRequests linked draws.tenantId draws.roles := by
            obtain ⟨users, _, rfl⟩ := Option.map_eq_some_iff.mp owning
            obtain ⟨members, _, rfl⟩ := Option.map_eq_some_iff.mp joining
            exact bootstrapRequests_congr rfl rfl _ _
          simp only [Option.map_some, Option.bind_some]
          cases store { joined with roles := roles, permissions := permissions }
              (.key (keyRow service request draws)) with
          | none => rfl
          | some keyed =>
            simp only [Option.map_some, Option.some.injEq, Rehearsed.mk.injEq, true_and]
            omega

theorem rehearse_openTenant : rehearse engine (openTenant service request draws) before =
      (opened service before request draws).map fun after =>
        ⟨(), after, openRequests before request draws - 1⟩ := by
  unfold openTenant opened
  rw [rehearse_bind, rehearse_select]
  simp only [find, Option.bind_some]
  split
  · rfl
  rw [rehearse_bind, rehearse_checkIssuer]
  split
  · rfl
  simp only [Option.bind_some]
  rw [rehearse_bind, rehearse_recover (loyal_insert _), rehearse_insert]
  cases founding : store before (.tenant (tenantRow request draws)) with
  | none => rfl
  | some founded =>
    obtain ⟨sameUsers, sameRoles, sameRules⟩ := issuerOf_founded before request draws founding
    have issuer : issuerOf before request.issuerId = issuerOf founded request.issuerId := by
      simp [issuerOf, sameUsers]
    have linkCount : linkRequests founded request.issuerId =
        linkRequests before request.issuerId := by
      simp only [linkRequests, issuer]
    simp only [Option.map_some, Option.bind_some]
    rw [rehearse_bind, issuer, rehearse_noteIssuer]
    cases linking : linkIssuer founded draws.tenantId request.issuerId with
    | none => rfl
    | some linked =>
      obtain ⟨_, _, _, linkedRoles, linkedRules, _⟩ := linkIssuer_same linking
      simp only [Option.map_some, Option.bind_some]
      rw [rehearse_staff, bootstrapRequests_congr (linkedRoles.trans sameRoles)
        (linkedRules.trans sameRules), linkCount]
      cases staffed service linked request draws with
      | none => rfl
      | some after =>
        simp only [Option.map_some, Option.some.injEq, Rehearsed.mk.injEq, true_and, openRequests]
        omega

/-- Nothing refuses the request before `issue_key` commits. -/
structure Openable : Prop where
  slugFree : ∀ tenant ∈ before.tenants.rows, tenant.slug ≠ request.slug
  withinLimit : ∀ issuer ∈ issuerOf before request.issuerId, atLimit issuer = false
  tenantFresh : ∀ tenant ∈ before.tenants.rows, tenant.id ≠ draws.tenantId
  linkFresh : ∀ issuerId ∈ request.issuerId, ∀ issuer ∈ issuerOf before request.issuerId,
    issuer.isPlatformAdmin = true → (issuerId, draws.tenantId) ∉ before.organizations
  ownerFresh : ∀ user ∈ before.users.rows, ¬ UserConflict user (ownerRow service request draws)
  memberFresh : ∀ member ∈ before.members.rows, ¬ MemberConflict member (memberRow draws)
  rolesFresh : before.roles.Admits (missingDefaultRoles before draws.tenantId draws.roles)
  rulesFresh : before.permissions.Admits (missingDefaultRules before draws.tenantId draws.roles)
  keyFits : (keyRow service request draws).name.length ≤ nameLength
  keyFresh : ∀ key ∈ before.keys.rows, ¬ KeyConflict key (keyRow service request draws)

/-- The store that `issue_key` commits. -/
structure Opened (after : Store) : Prop where
  tenants : after.tenants.rows = before.tenants.rows ++ [tenantRow request draws]
  owner : ownerRow service request draws ∈ after.users.rows
  member : memberRow draws ∈ after.members.rows
  roles : before.roles.insertAll (missingDefaultRoles before draws.tenantId draws.roles) =
    some after.roles
  permissions :
    before.permissions.insertAll (missingDefaultRules before draws.tenantId draws.roles) =
      some after.permissions
  key : keyRow service request draws ∈ after.keys.rows
  bindings : after.bindings = before.bindings
  licenses : after.licenses = before.licenses
  audit : after.audit = before.audit

variable {service before request draws}

theorem userConflict_withOrgCount {issuerId : Uuid} {createdOrgCount : Nat} {user other : User} :
    UserConflict (withOrgCount issuerId createdOrgCount user) other ↔ UserConflict user other := by
  obtain ⟨sameId, sameTenant, sameEmail⟩ := withOrgCount_same issuerId createdOrgCount user
  rw [UserConflict, UserConflict, sameId, sameTenant, sameEmail]

theorem fresh_linkIssuer_iff {issuerId : Option Uuid}
    (linking : linkIssuer before tenantId issuerId = some linked) (row : User) :
    (∀ user ∈ linked.users.rows, ¬ UserConflict user row) ↔
      ∀ user ∈ before.users.rows, ¬ UserConflict user row := by
  unfold linkIssuer at linking
  split at linking
  · split at linking
    · simp only [store] at linking
      split at linking
      · cases linking
      · cases linking
        simp [setOrgCount, Table.update, userConflict_withOrgCount]
    · cases linking
      exact Iff.rfl
  · cases linking
    exact Iff.rfl

theorem linkFresh_of_linkIssuer {requested : Option Uuid}
    (linking : linkIssuer before tenantId requested = some linked) :
    ∀ issuerId ∈ requested, ∀ issuer ∈ issuerOf before requested, issuer.isPlatformAdmin = true →
      (issuerId, tenantId) ∉ before.organizations := by
  intro issuerId asked issuer found admin taken
  rw [Option.mem_def] at asked found
  simp [linkIssuer, asked, asked ▸ found, admin, store, taken] at linking

theorem exists_linkIssuer {requested : Option Uuid}
    (fresh : ∀ issuerId ∈ requested, ∀ issuer ∈ issuerOf before requested,
      issuer.isPlatformAdmin = true → (issuerId, tenantId) ∉ before.organizations) :
    ∃ linked, linkIssuer before tenantId requested = some linked := by
  unfold linkIssuer
  split
  next issuerId issuer found =>
      split
      next admin => exact ⟨_, if_neg (fresh issuerId rfl issuer found admin)⟩
      next => exact ⟨before, rfl⟩
  next => exact ⟨before, rfl⟩

theorem ok_of_toOption {Error Value : Type} {result : Except Error Value} {value : Value}
    (some : result.toOption = some value) : result = .ok value := by
  cases result with
  | error error => cases some
  | ok found => exact congrArg Except.ok (Option.some.inj some)

theorem staffed_some {after : Store}
    (staffing : staffed service linked request draws = some after) :
    (∀ user ∈ linked.users.rows, ¬ UserConflict user (ownerRow service request draws)) ∧
      (∀ member ∈ linked.members.rows, ¬ MemberConflict member (memberRow draws)) ∧
      (keyRow service request draws).name.length ≤ nameLength ∧
      (∀ key ∈ linked.keys.rows, ¬ KeyConflict key (keyRow service request draws)) ∧
      after.tenants = linked.tenants ∧
      ownerRow service request draws ∈ after.users.rows ∧ memberRow draws ∈ after.members.rows ∧
      linked.roles.insertAll (missingDefaultRoles linked draws.tenantId draws.roles) =
        some after.roles ∧
      linked.permissions.insertAll (missingDefaultRules linked draws.tenantId draws.roles) =
        some after.permissions ∧
      keyRow service request draws ∈ after.keys.rows ∧
      after.bindings = linked.bindings ∧ after.licenses = linked.licenses ∧
      after.audit = linked.audit := by
  obtain ⟨owned, owning, staffing⟩ := Option.bind_eq_some_iff.mp staffing
  obtain ⟨users, addUser, rfl⟩ := Option.map_eq_some_iff.mp owning
  obtain ⟨joined, joining, staffing⟩ := Option.bind_eq_some_iff.mp staffing
  obtain ⟨members, addMember, rfl⟩ := Option.map_eq_some_iff.mp joining
  obtain ⟨roles, addRoles, staffing⟩ := Option.bind_eq_some_iff.mp staffing
  obtain ⟨perms, addRules, keying⟩ := Option.bind_eq_some_iff.mp staffing
  obtain ⟨keys, addKey, rfl⟩ := Option.map_eq_some_iff.mp keying
  obtain ⟨fits, stored⟩ := insertKey_ok_iff.mp (ok_of_toOption addKey)
  exact ⟨(Table.of_insert addUser).2, (Table.of_insert addMember).2, fits,
    (Table.of_insert stored).2, rfl, Table.mem_of_insert addUser, Table.mem_of_insert addMember,
    addRoles, addRules, Table.mem_of_insert stored, rfl, rfl, rfl⟩

theorem staffed_of_fresh
    (ownerFresh : ∀ user ∈ linked.users.rows, ¬ UserConflict user (ownerRow service request draws))
    (memberFresh : ∀ member ∈ linked.members.rows, ¬ MemberConflict member (memberRow draws))
    (rolesFresh : linked.roles.Admits (missingDefaultRoles linked draws.tenantId draws.roles))
    (rulesFresh : linked.permissions.Admits (missingDefaultRules linked draws.tenantId draws.roles))
    (keyFits : (keyRow service request draws).name.length ≤ nameLength)
    (keyFresh : ∀ key ∈ linked.keys.rows, ¬ KeyConflict key (keyRow service request draws)) :
    ∃ after, staffed service linked request draws = some after := by
  obtain ⟨users, addUser⟩ := linked.users.exists_insert ownerFresh
  obtain ⟨members, addMember⟩ := linked.members.exists_insert memberFresh
  obtain ⟨roles, addRoles⟩ := Table.exists_insertAll rolesFresh
  obtain ⟨permissions, addRules⟩ := Table.exists_insertAll rulesFresh
  obtain ⟨keys, addKey⟩ := linked.keys.exists_insert keyFresh
  have stored : insertKey linked.keys (keyRow service request draws) = .ok keys :=
    insertKey_ok_iff.mpr ⟨keyFits, addKey⟩
  refine ⟨{ linked with users, members, roles, permissions, keys }, ?_⟩
  simp only [missingDefaultRoles] at addRoles
  simp only [missingDefaultRules] at addRules
  simp only [staffed, store, addUser, addMember, missingDefaultRoles, missingDefaultRules, addRoles,
    addRules, stored, Option.map_some, Option.bind_some, Except.toOption]

theorem opened_some {after : Store} (opening : opened service before request draws = some after) :
    Openable service before request draws ∧ Opened service before request draws after := by
  unfold opened at opening
  split at opening
  · cases opening
  rename_i free
  split at opening
  · cases opening
  rename_i within
  obtain ⟨founded, founding, opening⟩ := Option.bind_eq_some_iff.mp opening
  obtain ⟨linked, linking, staffing⟩ := Option.bind_eq_some_iff.mp opening
  obtain ⟨tenants, addTenant, rfl⟩ := Option.map_eq_some_iff.mp founding
  obtain ⟨sameTenants, sameMembers, sameKeys, sameRoles, sameRules, sameBindings, sameLicenses,
    sameAudit⟩ := linkIssuer_same linking
  obtain ⟨ownerFresh, memberFresh, keyFits, keyFresh, tenantsKept, owner, member, roles,
    permissions, key, bindings, licenses, audit⟩ := staffed_some staffing
  obtain ⟨tenantRows, tenantFresh⟩ := Table.of_insert addTenant
  simp only [missingDefaultRoles, missingDefaultRules, sameRoles, sameRules] at roles permissions
  have linkFresh := linkFresh_of_linkIssuer linking
  have openable : Openable service before request draws :=
    { slugFree := by simpa using free
      withinLimit := by
        intro issuer found
        rw [Option.mem_def.mp found] at within
        simpa using within
      tenantFresh := fun tenant stored same => tenantFresh tenant stored (.inl same)
      linkFresh := linkFresh
      ownerFresh := (fresh_linkIssuer_iff linking _).mp ownerFresh
      memberFresh := by simpa only [sameMembers] using memberFresh
      rolesFresh := Table.admits_of_insertAll roles
      rulesFresh := Table.admits_of_insertAll permissions
      keyFits := keyFits
      keyFresh := by simpa only [sameKeys] using keyFresh }
  refine ⟨openable, ?_, owner, member, roles, permissions, key, bindings.trans sameBindings,
    licenses.trans sameLicenses, audit.trans sameAudit⟩
  rw [tenantsKept, sameTenants, tenantRows]

theorem exists_opened (openable : Openable service before request draws) :
    ∃ after, opened service before request draws = some after := by
  have fresh : ∀ tenant ∈ before.tenants.rows, ¬ TenantConflict tenant (tenantRow request draws) :=
    fun tenant stored conflict =>
      conflict.elim (openable.tenantFresh tenant stored) (openable.slugFree tenant stored)
  obtain ⟨tenants, addTenant⟩ := before.tenants.exists_insert fresh
  obtain ⟨linked, linking⟩ :
      ∃ linked, linkIssuer { before with tenants := tenants } draws.tenantId request.issuerId =
        some linked := exists_linkIssuer openable.linkFresh
  obtain ⟨_, sameMembers, sameKeys, sameRoles, sameRules, _⟩ := linkIssuer_same linking
  obtain ⟨after, staffing⟩ : ∃ after, staffed service linked request draws = some after := by
    refine staffed_of_fresh ((fresh_linkIssuer_iff linking _).mpr openable.ownerFresh) ?_ ?_ ?_
      openable.keyFits ?_
    · rw [sameMembers]
      exact openable.memberFresh
    · simp only [missingDefaultRoles, sameRoles]
      exact openable.rolesFresh
    · simp only [missingDefaultRules, sameRoles, sameRules]
      exact openable.rulesFresh
    · rw [sameKeys]
      exact openable.keyFresh
  have free : ¬ before.tenants.rows.any (fun tenant => tenant.slug = request.slug) = true := by
    simpa using openable.slugFree
  have within : ¬ (issuerOf before request.issuerId).any atLimit = true := by
    cases found : issuerOf before request.issuerId with
    | none => simp
    | some issuer => simp [openable.withinLimit issuer found]
  refine ⟨after, ?_⟩
  rw [opened, if_neg free, if_neg within]
  simp only [store, addTenant, Option.map_some, Option.bind_some, linking, staffing]

end Opening

/-! ### The second transaction -/

section Finishing

variable (hash : HashPayload → String) (before : Store) (request : TenantRequest)
  (draws : TenantDraws)

theorem rehearse_createAudit : rehearse engine (createAudit hash request draws) before =
      (store before (.audit (newRow hash (auditEvent request draws) draws.auditId draws.auditNow
        (newestHash (some draws.tenantId) before.audit)))).map fun after => ⟨(), after, 3⟩ := by
  unfold createAudit
  rw [rehearse_bind, rehearse_recover (loyal_select _), rehearse_select]
  simp only [Option.bind_some]
  rw [rehearse_bind, rehearse_recover (loyal_select _), rehearse_select]
  simp only [Option.bind_some, rehearse_insert, find]
  cases store before _ <;> rfl

/-- What `finishTenant` leaves for an owner role. -/
def finished (role : Role) : Option (StoredLicense × Store) :=
  (store before (.binding (ownerBinding role.id draws.account.keyId draws.roles.bindingId))).bind
    fun bound =>
      (addDays draws.license.now request.expiresInDays).bind fun expiresAt =>
        (store bound (.license (newLicense (licenseRequest request draws) draws.license
          expiresAt))).bind fun licensed =>
            (store licensed (.audit (newRow hash (auditEvent request draws) draws.auditId
              draws.auditNow (newestHash (some draws.tenantId) licensed.audit)))).map fun after =>
                (newLicense (licenseRequest request draws) draws.license expiresAt, after)

theorem rehearse_finishTenant {role : Role}
    (found : before.roles.rows.find? (named draws.tenantId DefaultRole.orgOwner.name) = some role) :
    rehearse engine (finishTenant hash request draws) before =
      (finished hash before request draws role).map fun done => ⟨done.1, done.2, 6⟩ := by
  have binding : store before (.binding (ownerBinding role.id draws.account.keyId
      draws.roles.bindingId)) = (before.bindings.insert (ownerBinding role.id draws.account.keyId
          draws.roles.bindingId)).map fun bindings => { before with bindings := bindings } := rfl
  unfold finishTenant finished
  rw [rehearse_bind, rehearse_bindOwnerToOrgOwner, found, binding]
  dsimp only
  cases before.bindings.insert (ownerBinding role.id draws.account.keyId draws.roles.bindingId) with
  | none => rfl
  | some bindings =>
    simp only [Option.map_some, issueLicense]
    cases addDays draws.license.now request.expiresInDays with
    | none => rfl
    | some expiresAt =>
      simp only [rehearse_bind, rehearse_insert, Option.bind_some]
      cases store { before with bindings := bindings }
          (.license (newLicense (licenseRequest request draws) draws.license expiresAt)) with
      | none => rfl
      | some licensed =>
        simp only [Option.map_some, Option.bind_some, rehearse_createAudit, rehearse, pure]
        cases store licensed (.audit (newRow hash (auditEvent request draws) draws.auditId
          draws.auditNow (newestHash (some draws.tenantId) licensed.audit))) <;> rfl

/-- Nothing refuses what follows the commit in `issue_key`. -/
structure Completable : Prop where
  bindingFresh : ∀ binding ∈ before.bindings.rows, ¬ BindingConflict binding
    (ownerBinding (storedRoleId before.roles.rows draws.tenantId draws.roles .orgOwner)
      draws.account.keyId draws.roles.bindingId)
  licensable : Storable (fun _ => true) before.licenses (licenseRequest request draws) draws.license
  auditFresh : ∀ log ∈ before.audit, log.id ≠ draws.auditId

variable {hash before request draws}

/-- A tenant with everything that belongs to it. -/
structure Established (service : Service) (request : TenantRequest) (draws : TenantDraws)
    (license : StoredLicense) (after : Store) : Prop where
  tenant : tenantRow request draws ∈ after.tenants.rows
  owner : ownerRow service request draws ∈ after.users.rows
  member : memberRow draws ∈ after.members.rows
  roles : ∀ role : DefaultRole, ∃ stored ∈ after.roles.rows,
    stored.tenantId = draws.tenantId ∧ stored.name = role.name
  key : keyRow service request draws ∈ after.keys.rows
  bound : ∃ role ∈ after.roles.rows, role.tenantId = draws.tenantId ∧
    role.name = DefaultRole.orgOwner.name ∧ ∃ binding ∈ after.bindings.rows,
      binding.roleId = role.id ∧ binding.subjectType = .apiKey ∧
        binding.subjectId = (keyRow service request draws).id.str
  license : license ∈ after.licenses.rows ∧ license.tenantId = draws.tenantId ∧
    license.status = .active

theorem finished_some {role : Role} {done : StoredLicense × Store}
    (finishing : finished hash before request draws role = some done) :
    (∀ binding ∈ before.bindings.rows, ¬ BindingConflict binding
        (ownerBinding role.id draws.account.keyId draws.roles.bindingId)) ∧
      Storable (fun _ => true) before.licenses (licenseRequest request draws) draws.license ∧
      (∀ log ∈ before.audit, log.id ≠ draws.auditId) ∧
      ∃ bindings licenses audit,
        done.2 = { before with bindings := bindings, licenses := licenses, audit := audit } ∧
          before.bindings.insert (ownerBinding role.id draws.account.keyId
            draws.roles.bindingId) = some bindings ∧
          done.1 ∈ licenses.rows ∧ done.1.tenantId = draws.tenantId ∧ done.1.status = .active := by
  obtain ⟨bound, binding, finishing⟩ := Option.bind_eq_some_iff.mp finishing
  obtain ⟨bindings, addBinding, rfl⟩ := Option.map_eq_some_iff.mp binding
  obtain ⟨expiresAt, inRange, finishing⟩ := Option.bind_eq_some_iff.mp finishing
  obtain ⟨licensed, licensing, finishing⟩ := Option.bind_eq_some_iff.mp finishing
  obtain ⟨after, auditing, rfl⟩ := Option.map_eq_some_iff.mp finishing
  simp only [store] at licensing auditing
  split at licensing
  · rename_i pos
    obtain ⟨licenses, addLicense, rfl⟩ := Option.map_eq_some_iff.mp licensing
    split at auditing
    · cases auditing
    rename_i unaudited
    cases auditing
    have auditFresh : ∀ log ∈ before.audit, log.id ≠ draws.auditId := fun log member same =>
      unaudited (any_eq_true.mpr ⟨log, member, decide_eq_true same⟩)
    exact ⟨(Table.of_insert addBinding).2,
      ⟨expiresAt, inRange, pos, rfl, (Table.of_insert addLicense).2⟩, auditFresh, bindings,
      licenses, _, rfl, addBinding, Table.mem_of_insert addLicense, rfl, rfl⟩
  · cases licensing

theorem exists_finished {role : Role}
    (bindingFresh : ∀ binding ∈ before.bindings.rows, ¬ BindingConflict binding
      (ownerBinding role.id draws.account.keyId draws.roles.bindingId))
    (licensable : Storable (fun _ => true) before.licenses (licenseRequest request draws)
      draws.license)
    (auditFresh : ∀ log ∈ before.audit, log.id ≠ draws.auditId) :
    ∃ done, finished hash before request draws role = some done := by
  obtain ⟨bindings, addBinding⟩ := before.bindings.exists_insert bindingFresh
  obtain ⟨expiresAt, inRange, pos, -, licenseFresh⟩ := licensable
  obtain ⟨licenses, addLicense⟩ : ∃ licenses, before.licenses.insert
      (newLicense (licenseRequest request draws) draws.license expiresAt) = some licenses :=
    before.licenses.exists_insert licenseFresh
  have unaudited : ¬ before.audit.any (fun log => log.id = draws.auditId) = true := by
    simpa using auditFresh
  have auditing : ∀ row : AuditLog, row.id = draws.auditId →
      store { before with bindings := bindings, licenses := licenses } (.audit row) =
        some { before with
          bindings := bindings, licenses := licenses, audit := before.audit ++ [row] } := by
    rintro row same
    exact if_neg (same ▸ unaudited)
  have dated : addDays draws.license.now request.expiresInDays = some expiresAt := inRange
  have licensing : store { before with bindings := bindings }
      (.license (newLicense (licenseRequest request draws) draws.license expiresAt)) =
        some { before with bindings := bindings, licenses := licenses } := by
    simp only [store, pos, if_true, addLicense, Option.map_some]
  have binding : store before (.binding (ownerBinding role.id draws.account.keyId
      draws.roles.bindingId)) = some { before with bindings := bindings } := by
    simp only [store, addBinding, Option.map_some]
  rw [finished, binding, Option.bind_some, dated, Option.bind_some, licensing, Option.bind_some,
    auditing _ rfl]
  exact ⟨_, rfl⟩

end Finishing

/-! ## All or nothing -/

/-- No tenant, user, member, role, permission, key, binding, license or audit row is new. -/
structure NoNewRows (before after : Store) : Prop where
  tenants : after.tenants.rows ⊆ before.tenants.rows
  users : after.users.rows ⊆ before.users.rows
  members : after.members.rows ⊆ before.members.rows
  roles : after.roles.rows ⊆ before.roles.rows
  permissions : after.permissions.rows ⊆ before.permissions.rows
  keys : after.keys.rows ⊆ before.keys.rows
  bindings : after.bindings.rows ⊆ before.bindings.rows
  licenses : after.licenses.rows ⊆ before.licenses.rows
  audit : after.audit ⊆ before.audit

theorem NoNewRows.refl (store : Store) : NoNewRows store store :=
  ⟨fun _ => id, fun _ => id, fun _ => id, fun _ => id, fun _ => id, fun _ => id, fun _ => id,
    fun _ => id, fun _ => id⟩

/-- The requests after the commit in `issue_key`, the last commit among them. -/
def finishRequests : Nat := 7

section AllOrNothing

variable {service : Service} {hash : HashPayload → String} {before middle : Store}
  {request : TenantRequest} {draws : TenantDraws}

theorem Opened.not_noNewRows (openable : Openable service before request draws)
    (opened : Opened service before request draws middle) : ¬ NoNewRows before middle := by
  intro same
  have stored : tenantRow request draws ∈ middle.tenants.rows := by
    rw [opened.tenants]
    exact mem_append_right _ (mem_singleton_self _)
  exact openable.tenantFresh _ (same.tenants stored) rfl

theorem Opened.owner_role (opened : Opened service before request draws middle) :
    middle.roles.rows.find? (named draws.tenantId DefaultRole.orgOwner.name) =
      some ⟨storedRoleId before.roles.rows draws.tenantId draws.roles .orgOwner, draws.tenantId,
        DefaultRole.orgOwner.name⟩ :=
  find?_storedRole opened.roles .orgOwner

theorem exists_finished_iff (opened : Opened service before request draws middle) :
    (∃ done, rehearse engine (finishTenant hash request draws) middle = some done) ↔
      Completable before request draws := by
  rw [rehearse_finishTenant hash middle request draws opened.owner_role]
  constructor
  · rintro ⟨done, rehearsed⟩
    obtain ⟨finish, finishing, -⟩ := Option.map_eq_some_iff.mp rehearsed
    obtain ⟨bindingFresh, licensable, auditFresh, -⟩ := finished_some finishing
    rw [opened.bindings] at bindingFresh
    rw [opened.licenses] at licensable
    rw [opened.audit] at auditFresh
    exact ⟨bindingFresh, licensable, auditFresh⟩
  · rintro ⟨bindingFresh, licensable, auditFresh⟩
    rw [← opened.bindings] at bindingFresh
    rw [← opened.licenses] at licensable
    rw [← opened.audit] at auditFresh
    obtain ⟨finish, finishing⟩ : ∃ finish, finished hash middle request draws
        ⟨storedRoleId before.roles.rows draws.tenantId draws.roles .orgOwner, draws.tenantId,
          DefaultRole.orgOwner.name⟩ = some finish :=
      exists_finished bindingFresh licensable auditFresh
    exact ⟨_, Option.map_eq_some_iff.mpr ⟨finish, finishing, rfl⟩⟩

theorem established_of_finished (opened : Opened service before request draws middle)
    {done : Rehearsed Store StoredLicense}
    (rehearsed : rehearse engine (finishTenant hash request draws) middle = some done) :
    Established service request draws done.value done.data ∧ done.requests = 6 := by
  rw [rehearse_finishTenant hash middle request draws opened.owner_role] at rehearsed
  obtain ⟨finish, finishing, rfl⟩ := Option.map_eq_some_iff.mp rehearsed
  obtain ⟨-, -, -, bindings, licenses, audit, after, bound, stored, tenant, active⟩ :=
    finished_some finishing
  have role : ∀ role : DefaultRole, ∃ stored ∈ middle.roles.rows,
      stored.tenantId = draws.tenantId ∧ stored.name = role.name := fun role =>
    ⟨_, mem_of_find?_eq_some (find?_storedRole opened.roles role), rfl, rfl⟩
  refine ⟨?_, rfl⟩
  rw [after]
  exact
    { tenant := by
        rw [opened.tenants]
        exact mem_append_right _ (mem_singleton_self _)
      owner := opened.owner
      member := opened.member
      roles := role
      key := opened.key
      bound := ⟨_, mem_of_find?_eq_some opened.owner_role, rfl, rfl, _,
        Table.mem_of_insert bound, rfl, rfl, rfl⟩
      license := ⟨stored, tenant, active⟩ }

theorem conduct_opening (service : Service) (hash : HashPayload → String) (before : Store)
    (request : TenantRequest) (draws : TenantDraws) (faults : List Bool) :
    (∃ middle, Openable service before request draws ∧ Opened service before request draws middle ∧
        spared (openRequests before request draws) faults = true ∧
        conduct engine (connect before faults) (provisionTenant service hash request draws) =
          conduct engine (connect middle (faults.drop (openRequests before request draws)))
            (finishTenant hash request draws >>= fun license => commit >>= fun _ =>
              pure (provisioned service request draws license))) ∨
      (¬ (Openable service before request draws ∧
          spared (openRequests before request draws) faults = true) ∧
        Stops engine (connect before faults) (provisionTenant service hash request draws)) := by
  have counted : openRequests before request draws - 1 + 1 = openRequests before request draws := by
    unfold openRequests
    omega
  rcases conduct_commit_cases (strict_openTenant service request draws)
      (fun _ => finishTenant hash request draws >>= fun license => commit >>= fun _ =>
        pure (provisioned service request draws license)) before faults with
    ⟨done, rehearsed, calm, reached⟩ | ⟨unfinished, stops⟩
  · left
    rw [rehearse_openTenant] at rehearsed
    obtain ⟨middle, opening, rfl⟩ := Option.map_eq_some_iff.mp rehearsed
    obtain ⟨openable, opened⟩ := opened_some opening
    exact ⟨middle, openable, opened, calm, reached⟩
  · refine .inr ⟨fun ⟨openable, calm⟩ => ?_, stops⟩
    obtain ⟨middle, opening⟩ := exists_opened openable
    have hit := unfinished ⟨(), middle, openRequests before request draws - 1⟩ (by
      rw [rehearse_openTenant, opening]
      rfl)
    rw [counted, calm] at hit
    cases hit

theorem conduct_finishing (opened : Opened service before request draws middle)
    (hash : HashPayload → String) (faults : List Bool) :
    let ended := conduct engine (connect middle faults)
      (finishTenant hash request draws >>= fun license => commit >>= fun _ =>
        pure (provisioned service request draws license))
    (Completable before request draws ∧ spared finishRequests faults = true ∧
        ∃ result, ended.1 = .ok result ∧
          Established service request draws result.license ended.2.committed) ∨
      (¬ (Completable before request draws ∧ spared finishRequests faults = true) ∧
        (∃ raised, ended.1 = .error raised) ∧ ended.2.committed = middle) := by
  intro ended
  rcases conduct_commit_cases (strict_finishTenant hash request draws)
      (fun license => pure (provisioned service request draws license)) middle faults with
    ⟨done, rehearsed, calm, reached⟩ | ⟨unfinished, raised, after, stopped, kept⟩
  · left
    obtain ⟨established, counted⟩ := established_of_finished opened rehearsed
    have ret : ended = (.ok (provisioned service request draws done.value),
          connect done.data (faults.drop (done.requests + 1))) := reached
    rw [counted] at calm
    rw [ret]
    exact ⟨(exists_finished_iff opened).mp ⟨done, rehearsed⟩, calm, _, rfl, established⟩
  · have failed : ended = (.error raised, after) := stopped
    rw [failed]
    refine .inr ⟨fun ⟨completable, calm⟩ => ?_, ⟨raised, rfl⟩, kept⟩
    obtain ⟨done, rehearsed⟩ := (exists_finished_iff opened).mpr completable
    have hit := unfinished done rehearsed
    rw [(established_of_finished opened rehearsed).2] at hit
    cases calm.symm.trans hit

end AllOrNothing

/-- A call that raises leaves no new row, and one that returns leaves everything, exactly if
it stops before the commit in `issue_key` or nothing stops it after that. -/
theorem provision_all_or_nothing_iff (service : Service) (hash : HashPayload → String)
    (before : Store) (request : TenantRequest) (draws : TenantDraws) (faults : List Bool) :
    let ended := conduct engine (connect before faults)
      (provisionTenant service hash request draws)
    ((∀ raised, ended.1 = .error raised → NoNewRows before ended.2.committed) ∧
        ∀ result, ended.1 = .ok result →
          Established service request draws result.license ended.2.committed) ↔
      (Openable service before request draws →
        spared (openRequests before request draws) faults = true →
          Completable before request draws ∧
            spared finishRequests (faults.drop (openRequests before request draws)) = true) := by
  intro ended
  rcases conduct_opening service hash before request draws faults with
    ⟨middle, openable, opened, calm, reached⟩ | ⟨closed, raised, after, stopped, kept⟩
  · have same : ended = _ := reached
    rw [same]
    rcases conduct_finishing opened hash (faults.drop (openRequests before request draws)) with
      ⟨completable, spare, result, ret, established⟩ | ⟨incomplete, ⟨raised, failed⟩, kept⟩
    · refine iff_of_true ⟨fun raised failed => ?_, fun other same => ?_⟩
        fun _ _ => ⟨completable, spare⟩
      · cases ret.symm.trans failed
      · cases ret.symm.trans same
        exact established
    · refine iff_of_false (fun ⟨unchanged, _⟩ => ?_) fun needed => incomplete (needed openable calm)
      have rows := unchanged raised failed
      rw [kept] at rows
      exact opened.not_noNewRows openable rows
  · have failed : ended = (.error raised, after) := stopped
    rw [failed]
    refine iff_of_true ⟨fun _ _ => ?_, fun result ret => ?_⟩
      fun openable calm => absurd ⟨openable, calm⟩ closed
    · rw [show after.committed = before from kept]
      exact NoNewRows.refl before
    · cases ret

/-! ### A license that the table refuses -/

open Auth.Deprovisioning (sampleDraws sampleService)

def emptyStore : Store :=
  ⟨.empty, .empty, .empty, .empty, [], .empty, .empty, .empty, .empty, []⟩

def roleDraws (first : Nat) : RoleDraws where
  roleId role := ⟨BitVec.ofNat 128 (first + match role with
    | .superAdmin => 0
    | .orgOwner => 1
    | .orgAdmin => 2
    | .developer => 3
    | .viewer => 4)⟩
  ruleId index := ⟨BitVec.ofNat 128 (first + 5 + index)⟩
  bindingId := ⟨BitVec.ofNat 128 (first + 40)⟩

def acmeDraws : TenantDraws where
  account := sampleDraws
  tenantId := ⟨7⟩
  roles := roleDraws 100
  license := ⟨⟨8⟩, 0, 0, ""⟩
  auditId := ⟨9⟩
  auditNow := 0

def acme (seatLimit : Int) : TenantRequest where
  name := "Acme"
  slug := "acme"
  ownerEmail := "ada@example.com"
  ownerFullName := "Ada"
  ownerPassword := "correct horse"
  issuerId := none
  plan := .pro
  licensee := none
  seatLimit := seatLimit
  serverLimit := none
  expiresInDays := 365

/-- A seat limit of zero violates a check after the tenant, its owner and a key of the owner
are committed. -/
theorem seatless_tenant_stays :
    let ended := conduct engine (connect emptyStore [])
      (provisionTenant sampleService (fun _ => "") (acme 0) acmeDraws)
    ended.1.isOk = false ∧ ¬ NoNewRows emptyStore ended.2.committed ∧
      ended.2.committed.keys.rows.length = 1 ∧ ended.2.committed.licenses.rows = [] := by
  intro ended
  have stored : ended.2.committed.tenants.rows.length = 1 := by decide +kernel
  refine ⟨by decide +kernel, fun same => ?_, by decide +kernel, by decide +kernel⟩
  have none := eq_nil_of_subset_nil same.tenants
  rw [none] at stored
  cases stored

end Portcullis.Auth.Provisioning
