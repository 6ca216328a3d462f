import Portcullis.Auth.Accounts

/-!
# Federated logins and provisioning

The sign-in of `app/api/sso.py` and `app/api/clerk.py` after the identity provider has
answered, and `ProvisioningService.provision_tenant` of `app/provisioning.py`.  Subject,
e-mail address and groups are what the provider asserts.  The roles, licenses and audit
entries that these handlers write besides are in other tables and left out.
-/

namespace Portcullis.Auth.Federation

open Auth.Accounts Auth.ApiKeys Lib Models

/-! ## Roles of a federated member -/

def roleMapping : List (String × OrgMemberRole) :=
  [("org_owner", .orgOwner), ("org_admin", .orgAdmin), ("admin", .orgAdmin),
    ("administrator", .orgAdmin), ("developer", .developer), ("dev", .developer),
    ("team_member", .teamMember), ("viewer", .viewer), ("auditor", .auditor),
    ("billing_admin", .billingAdmin)]

def priorityOrder : List OrgMemberRole :=
  [.orgOwner, .orgAdmin, .developer, .teamMember, .auditor, .billingAdmin, .viewer]

def mapIdpRolesToOrgRole (groups : List String) : OrgMemberRole :=
  (priorityOrder.find? fun role =>
    roleMapping.any fun entry => entry.2 = role && groups.contains entry.1).getD .developer

/-- A claim that is absent, one text, or a list. -/
inductive Claim where
  | absent
  | text (value : String)
  | list (values : List String)
  deriving DecidableEq, Repr

def Claim.groups : Claim → List String
  | .absent => []
  | .text value => if value = "" then [] else [value]
  | .list values => values

/-- `groups or roles or []`. -/
def claimedGroups (groups roles : Claim) : List String :=
  if groups.groups.isEmpty then roles.groups else groups.groups

/-- Role of a subject that SSO links to an account. -/
def linkedRole (groups : List String) (existingCount : Nat) : OrgMemberRole :=
  if existingCount = 0 then .orgOwner else mapIdpRolesToOrgRole groups

/-- Role of a subject that SSO creates an account for. -/
def provisionedRole (groups : List String) (existingCount : Nat) : OrgMemberRole :=
  let adminRole := if existingCount = 0 then .orgOwner else mapIdpRolesToOrgRole groups
  if 0 < existingCount ∧ adminRole = .orgOwner then .developer else adminRole

/-- Role of a subject that Clerk links or creates an account for. -/
def clerkRole (memberCount : Nat) : OrgMemberRole :=
  if memberCount = 0 then .orgOwner else .developer

def firstOrgRole (memberCount : Nat) : OrgRole :=
  if memberCount = 0 then .orgOwner else .developer

/-! ## Branches of a sign-in -/

def countMembers (members : MemberTable) (tenantId : Uuid) : Nat :=
  members.rows.countP fun member => member.tenantId = tenantId

def federatedUser (draws : Draws) (email fullName passwordHash : String) (orgRole : OrgRole) :
    User where
  id := draws.userId
  tenantId := defaultTenantId
  email := email
  passwordHash := passwordHash
  fullName := fullName
  orgName := none
  intendedUse := none
  isActive := true
  isPlatformAdmin := false
  orgRole := some orgRole
  createdOrgCount := 0
  approvalStatus := .approved

/-- `OrgMemberCreate` and its insertion; a subject that does not fit the schema is an
unhandled error. -/
def linkMember (accounts : Accounts) (draws : Draws) (subject : String) (role : OrgMemberRole) :
    Except Failure Accounts :=
  if 1 ≤ subject.length ∧ subject.length ≤ 500 then
    createMember accounts ⟨draws.memberId, defaultTenantId, subject, role, none⟩
  else .error (.http 500 "Internal Server Error")

section Handlers

variable (service : Service)

variable (accounts : Accounts) (draws : Draws)

def issueSession (user : User) :
    Except Failure (Accounts × AuthResponse) := do
  let (committed, issued) ← issueUserToken service accounts draws user.id user.email
  pure (committed, ⟨issued.plaintext, user⟩)

/-- A subject that has a member row enters as the user of the asserted address. -/
def enterLinked (email : String) (refusal : Failure) : Except Failure (Accounts × AuthResponse) :=
  match getByEmail accounts.users defaultTenantId email with
  | none => .error refusal
  | some user =>
    if !user.isActive then .error refusal else issueSession service accounts draws user

/-- The subject is linked to the account of the asserted address. -/
def linkUser (subject : String) (role : OrgMemberRole) (user : User) :
    Except Failure (Accounts × AuthResponse) := do
  let linked ← linkMember accounts draws subject role
  issueSession service linked draws user

def createLinked (subject : String) (role : OrgMemberRole) (user : User) :
    Except Failure (Accounts × AuthResponse) := do
  let created ← createUser accounts user
  let joined ← linkMember created draws subject role
  issueSession service joined draws user

/-! ## Single sign-on -/

structure SsoLogin where
  subject : String
  email : String
  fullName : String
  groups : Claim
  roles : Claim
  generatedPassword : String

def accountDisabled : Failure := .http 401 "account is disabled"

def linkOrCreate (login : SsoLogin) : Except Failure (Accounts × AuthResponse) :=
  let groups := claimedGroups login.groups login.roles
  let existingCount := countMembers accounts.members defaultTenantId
  match getBySubject accounts.members defaultTenantId login.subject with
  | some _ => enterLinked service accounts draws login.email accountDisabled
  | none =>
    match getByEmail accounts.users defaultTenantId login.email with
    | some user =>
      if user.approvalStatus ≠ .approved then
        .error (.http 401 "account is pending approval or was denied")
      else if !user.isActive then .error accountDisabled
      else linkUser service accounts draws login.subject (linkedRole groups existingCount) user
    | none =>
      createLinked service accounts draws login.subject (provisionedRole groups existingCount)
        (federatedUser draws login.email login.fullName
          (service.peppers.passwords.hashPassword service.argon2 draws.passwordSalt
            login.generatedPassword) (firstOrgRole existingCount))

/-! ## Clerk -/

structure ClerkLogin where
  subject : String
  email : String
  fullName : String
  generatedPassword : String

def invalidCredentials : Failure := .http 401 "Invalid or missing credentials"

/-- `clerk_sync`, once the session token is verified and the address resolved. -/
def clerkSync (login : ClerkLogin) : Except Failure (Accounts × AuthResponse) :=
  let memberCount := countMembers accounts.members defaultTenantId
  match getBySubject accounts.members defaultTenantId login.subject with
  | some _ => enterLinked service accounts draws login.email invalidCredentials
  | none =>
    match getByEmail accounts.users defaultTenantId login.email with
    | some user =>
      if user.approvalStatus = .pending then
        .error (.http 403 "Your account is pending approval by an organization admin.")
      else if user.approvalStatus = .rejected then
        .error (.http 403 "Your account has been denied.")
      else if !user.isActive then .error invalidCredentials
      else linkUser service accounts draws login.subject (clerkRole memberCount) user
    | none =>
      createLinked service accounts draws login.subject (clerkRole memberCount)
        (federatedUser draws login.email
          (if login.fullName = "" then login.email else login.fullName)
          (service.peppers.passwords.hashPassword service.argon2 draws.passwordSalt
            login.generatedPassword) (firstOrgRole memberCount))

/-! ## Provisioning -/

structure Tenant where
  id : Uuid
  name : String
  slug : String
  createdBySuperAdminId : Option Uuid
  deriving DecidableEq, Repr

def TenantConflict (left right : Tenant) : Prop := left.id = right.id ∨ left.slug = right.slug

instance : DecidableRel TenantConflict := fun left right =>
  inferInstanceAs (Decidable (left.id = right.id ∨ left.slug = right.slug))

structure Directory where
  accounts : Accounts
  tenants : Table TenantConflict

structure ProvisionRequest where
  name : String
  slug : String
  ownerEmail : String
  ownerFullName : String
  ownerPassword : String
  issuerId : Option Uuid

/-- The issuer in the default tenant, or else in any. -/
def resolveIssuer (users : UserTable) (issuerId : Uuid) : Option User :=
  users.rows.find? (hasId defaultTenantId issuerId) <|>
    users.rows.find? fun user => user.id = issuerId

def countOrganization (issuerId : Option Uuid) (user : User) : User :=
  if issuerId = some user.id ∧ user.isPlatformAdmin then
    { user with createdOrgCount := user.createdOrgCount + 1 }
  else user

theorem countOrganization_same (issuerId : Option Uuid) (user : User) :
    (countOrganization issuerId user).id = user.id ∧
      (countOrganization issuerId user).tenantId = user.tenantId ∧
      (countOrganization issuerId user).email = user.email := by
  unfold countOrganization
  split <;> exact ⟨rfl, rfl, rfl⟩

def noteOrganization (users : UserTable) (issuerId : Option Uuid) : UserTable :=
  users.update (countOrganization issuerId) fun left right conflict => by
    obtain ⟨leftId, leftTenant, leftEmail⟩ := countOrganization_same issuerId left
    obtain ⟨rightId, rightTenant, rightEmail⟩ := countOrganization_same issuerId right
    rw [UserConflict, leftId, leftTenant, leftEmail, rightId, rightTenant, rightEmail] at conflict
    exact conflict

def ownerOf (tenantId : Uuid) (request : ProvisionRequest) (passwordHash : String) : User where
  id := draws.userId
  tenantId := tenantId
  email := request.ownerEmail
  passwordHash := passwordHash
  fullName := request.ownerFullName
  orgName := some request.name
  intendedUse := none
  isActive := true
  isPlatformAdmin := false
  orgRole := some .orgOwner
  createdOrgCount := 0
  approvalStatus := .approved

def tokenArgs (tenantId userId : Uuid) (email : String) : IssueArgs where
  newId := draws.keyId
  text := draws.keyText
  salt := draws.keySalt
  name := "user:" ++ email
  scopes := []
  tenantId := tenantId
  userId := some userId

/-- `issue_key` for a user in a tenant. -/
def issueTenantToken (tenantId userId : Uuid) (email : String) :
    Except Failure (Accounts × IssuedKey) :=
  match issueKey service.argon2 accounts.keys (tokenArgs draws tenantId userId email)
      service.peppers.activePepper with
  | .error error => .error (.database error)
  | .ok (keys, issued) => .ok ({ accounts with keys := keys }, issued)

def slugInUse (slug : String) : Failure := .http 409 ("tenant slug already in use: " ++ slug)

/-- The issue of the owner's key commits everything before it. -/
def provisionTenant (directory : Directory) (draws : Draws) (tenantId : Uuid)
    (request : ProvisionRequest) : Except Failure (Directory × AuthResponse) :=
  if directory.tenants.rows.any fun tenant => tenant.slug = request.slug then
    .error (slugInUse request.slug)
  else if (request.issuerId.bind (resolveIssuer directory.accounts.users)).any fun issuer =>
      issuer.isPlatformAdmin && decide (2 ≤ issuer.createdOrgCount) then
    .error (.http 409 "Super admin has reached the maximum limit of 2 organizations")
  else
    match directory.tenants.insert ⟨tenantId, request.name, request.slug, request.issuerId⟩ with
    | none => .error (slugInUse request.slug)
    | some tenants => do
      let owner := ownerOf draws tenantId request
        (service.peppers.passwords.hashPassword service.argon2 draws.passwordSalt
          request.ownerPassword)
      let created ← createUser
        { directory.accounts with
          users := noteOrganization directory.accounts.users request.issuerId } owner
      let joined ← createMember created ⟨draws.memberId, tenantId, owner.id.str, .orgOwner, none⟩
      let (committed, issued) ← issueTenantToken service joined draws tenantId owner.id
        owner.email
      pure (⟨committed, tenants⟩, ⟨issued.plaintext, owner⟩)

/-! ## Runs -/

inductive Operation where
  | account (operation : Accounts.Operation)
  | ssoLogin (draws : Draws) (login : SsoLogin)
  | clerkSync (draws : Draws) (login : ClerkLogin)
  | provisionTenant (draws : Draws) (tenantId : Uuid) (request : ProvisionRequest)

def perform (directory : Directory) : Operation → Except Failure Directory
  | .account operation =>
    (Accounts.perform service directory.accounts operation).map fun accounts =>
      { directory with accounts := accounts }
  | .ssoLogin draws login =>
    (linkOrCreate service directory.accounts draws login).map fun answered =>
      { directory with accounts := answered.1 }
  | .clerkSync draws login =>
    (clerkSync service directory.accounts draws login).map fun answered =>
      { directory with accounts := answered.1 }
  | .provisionTenant draws tenantId request =>
    (provisionTenant service directory draws tenantId request).map Prod.fst

end Handlers

end Portcullis.Auth.Federation
