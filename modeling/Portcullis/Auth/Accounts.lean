import Portcullis.Auth.ApiKeys
import Portcullis.Auth.Invites
import Portcullis.Auth.Licenses
import Portcullis.Lib.Transactions

/-!
# User accounts

Registration, login, approval and rejection of `app/api/auth.py`, the deletion of users of
`app/api/scim.py` and the revocation of keys, over the tables of users, keys, members and
invitations.  A handler that raises leaves the database as it was, since its session is
closed without a commit.  The default roles that a registration sets up and the binding of
the owner's key to one of them touch other tables and are left out, as are response
cookies.
-/

namespace Portcullis.Auth.Accounts

open Auth.ApiKeys Auth.Invites Auth.Licenses Auth.Passwords Lib Lib.PyStr
open Lib.Transactions (ok_of_bind)
open Models

/-! ## Tables -/

def defaultTenantId : Uuid := ⟨1⟩

def UserConflict (left right : User) : Prop :=
  left.id = right.id ∨ left.tenantId = right.tenantId ∧ left.email = right.email

instance : DecidableRel UserConflict := fun left right =>
  inferInstanceAs (Decidable (left.id = right.id ∨
    left.tenantId = right.tenantId ∧ left.email = right.email))

instance : Std.Symm UserConflict :=
  ⟨fun _ _ conflict => conflict.imp Eq.symm fun same => ⟨same.1.symm, same.2.symm⟩⟩

def MemberConflict (left right : OrgMember) : Prop :=
  left.id = right.id ∨ left.tenantId = right.tenantId ∧ left.userSubject = right.userSubject

instance : DecidableRel MemberConflict := fun left right =>
  inferInstanceAs (Decidable (left.id = right.id ∨
    left.tenantId = right.tenantId ∧ left.userSubject = right.userSubject))

instance : Std.Symm MemberConflict :=
  ⟨fun _ _ conflict => conflict.imp Eq.symm fun same => ⟨same.1.symm, same.2.symm⟩⟩

abbrev UserTable := Table UserConflict

abbrev MemberTable := Table MemberConflict

structure Accounts where
  users : UserTable
  keys : KeyTable
  members : MemberTable
  invitations : List Invitation

/-! ### Users -/

def getByEmail (users : UserTable) (tenantId : Uuid) (email : String) : Option User :=
  users.rows.find? fun user => user.tenantId = tenantId && user.email = email

def hasId (tenantId userId : Uuid) (user : User) : Bool :=
  user.tenantId = tenantId && user.id = userId

def countUsers (users : UserTable) (tenantId : Uuid) : Nat :=
  users.rows.countP fun user => user.tenantId = tenantId

/-- `is_active` follows the approval status. -/
def withStatus (status : UserApprovalStatus) (user : User) : User :=
  { user with approvalStatus := status, isActive := decide (status = .approved) }

def markSelected (selects : User → Bool) (status : UserApprovalStatus) (user : User) : User :=
  if selects user then withStatus status user else user

theorem markSelected_same (selects : User → Bool) (status : UserApprovalStatus) (user : User) :
    (markSelected selects status user).id = user.id ∧
      (markSelected selects status user).tenantId = user.tenantId ∧
      (markSelected selects status user).email = user.email := by
  unfold markSelected
  split <;> exact ⟨rfl, rfl, rfl⟩

def setApprovalStatus (users : UserTable) (selects : User → Bool)
    (status : UserApprovalStatus) : UserTable :=
  users.update (markSelected selects status) fun left right conflict => by
    obtain ⟨leftId, leftTenant, leftEmail⟩ := markSelected_same selects status left
    obtain ⟨rightId, rightTenant, rightEmail⟩ := markSelected_same selects status right
    rw [UserConflict, leftId, leftTenant, leftEmail, rightId, rightTenant, rightEmail] at conflict
    exact conflict

/-! ### Members and invitations -/

def getBySubject (members : MemberTable) (tenantId : Uuid) (userSubject : String) :
    Option OrgMember :=
  members.rows.find? fun member =>
    member.tenantId = tenantId && member.userSubject = userSubject

def getMember (members : MemberTable) (tenantId memberId : Uuid) : Option OrgMember :=
  members.rows.find? fun member => member.id = memberId && member.tenantId = tenantId

def redeems (inviteId : Uuid) (invitation : Invitation) : Bool :=
  invitation.id = inviteId && invitation.status = .active

/-- `mark_redeemed`; `none` when no active row has the id. -/
def markRedeemed (invitations : List Invitation) (inviteId redeemedBy : Uuid) (now : Instant) :
    Option (List Invitation) :=
  if invitations.any (redeems inviteId) then
    some (invitations.map fun invitation =>
      if redeems inviteId invitation then
        { invitation with
          status := .used, redeemedBy := some redeemedBy, redeemedAt := some now }
      else invitation)
  else none

/-! ## Handlers -/

inductive Failure where
  | http (statusCode : Nat) (detail : String)
  | database (error : DbError)
  deriving DecidableEq, Repr

inductive RegisterFlow where
  | create
  | join
  | invitation
  deriving DecidableEq, Repr

structure RegisterRequest where
  fullName : String
  email : String
  password : String
  flow : RegisterFlow
  orgName : Option String
  intendedUse : Option String
  inviteCode : Option String

structure LoginRequest where
  email : String
  password : String

/-- The clock, the random draws and the license a handler meets. -/
structure Draws where
  now : Instant
  userId : Uuid
  memberId : Uuid
  passwordSalt : BitVec 128
  keyId : Uuid
  keyText : KeyText
  keySalt : BitVec 128
  license : Option License

structure AuthResponse where
  accessToken : String
  user : User
  deriving DecidableEq

/-- The cryptography, the settings and the library behaviour the handlers rest on. -/
structure Service where
  argon2 : Hasher
  hmacSha256 : String → String → String
  unicode : CaseMap
  peppers : PepperSettings
  parseUuid : String → Option Uuid

variable (service : Service)

def issueUserToken (accounts : Accounts) (draws : Draws) (userId : Uuid) (email : String) :
    Except Failure (Accounts × IssuedKey) :=
  match issueKey service.argon2 accounts.keys
      { newId := draws.keyId, text := draws.keyText, salt := draws.keySalt,
        name := "user:" ++ email, scopes := [], tenantId := defaultTenantId,
        userId := some userId } service.peppers.activePepper with
  | .error error => .error (.database error)
  | .ok (keys, issued) => .ok ({ accounts with keys := keys }, issued)

def newUser (body : RegisterRequest) (draws : Draws) (passwordHash : String)
    (orgName : Option String) (status : UserApprovalStatus) (orgRole : Option OrgRole) : User where
  id := draws.userId
  tenantId := defaultTenantId
  email := body.email
  passwordHash := passwordHash
  fullName := body.fullName
  orgName := orgName
  intendedUse := body.intendedUse
  isActive := true
  isPlatformAdmin := false
  orgRole := orgRole
  createdOrgCount := 0
  approvalStatus := status

def createUser (accounts : Accounts) (user : User) : Except Failure Accounts :=
  match accounts.users.insert user with
  | some users => .ok { accounts with users := users }
  | none => .error (.database .integrityError)

def createMember (accounts : Accounts) (member : OrgMember) : Except Failure Accounts :=
  match accounts.members.insert member with
  | some members => .ok { accounts with members := members }
  | none => .error (.database .integrityError)

def registerViaInvite (accounts : Accounts) (draws : Draws) (body : RegisterRequest)
    (inviteCode passwordHash : String) : Except Failure (Accounts × AuthResponse) :=
  match findActive service.unicode service.hmacSha256 accounts.invitations defaultTenantId
      inviteCode service.peppers.activePepper (some service.peppers.apiKeyPepper.val)
      draws.now with
  | .error _ => .error (.http 401 "Invalid or expired invitation code")
  | .ok invitation =>
    if invitation.email.any fun email => email ≠ body.email then
      .error (.http 401 "This invitation is for a different email address")
    else do
      let orgName := if invitation.orgName ≠ "" then some invitation.orgName else body.orgName
      let user := newUser body draws passwordHash orgName .approved (some invitation.role)
      let created ← createUser accounts user
      match markRedeemed created.invitations invitation.id user.id draws.now with
      | none => .error (.http 409 "This invitation has already been used")
      | some invitations => do
        let (committed, issued) ← issueUserToken service
          { created with invitations := invitations } draws user.id user.email
        pure (committed, ⟨issued.plaintext, user⟩)

/-- The `create` flow: an approved account that owns the organisation. -/
def registerOwner (accounts : Accounts) (draws : Draws) (body : RegisterRequest)
    (passwordHash : String) : Except Failure (Accounts × AuthResponse) :=
  match requireLicense draws.license draws.now (countUsers accounts.users defaultTenantId + 1)
      0 with
  | .error error => .error (.http 402 error.message)
  | .ok () =>
    -- the account was just found to be absent, so this limit never applies
    if (getByEmail accounts.users defaultTenantId body.email).any fun existing =>
        existing.isPlatformAdmin && decide (2 ≤ existing.createdOrgCount) then
      .error (.http 403 "Super admin has reached the maximum limit of 2 organizations")
    else do
      let user := newUser body draws passwordHash body.orgName .approved (some .orgOwner)
      let created ← createUser accounts user
      let joined ← createMember created ⟨draws.memberId, defaultTenantId, user.id.str,
        .orgOwner, none⟩
      let (committed, issued) ← issueUserToken service joined draws user.id user.email
      pure (committed, ⟨issued.plaintext, user⟩)

/-- The `join` flow: a pending account without a token. -/
def registerPending (accounts : Accounts) (draws : Draws) (body : RegisterRequest)
    (passwordHash : String) : Except Failure (Accounts × AuthResponse) := do
  let user := newUser body draws passwordHash body.orgName .pending none
  let created ← createUser accounts user
  pure (created, ⟨"", user⟩)

def register (accounts : Accounts) (draws : Draws) (body : RegisterRequest) :
    Except Failure (Accounts × AuthResponse) :=
  if (getByEmail accounts.users defaultTenantId body.email).isSome then
    .error (.http 409 "An account with this email already exists")
  else
    let passwordHash := service.peppers.passwords.hashPassword service.argon2 draws.passwordSalt
      body.password
    match body.flow with
    | .invitation =>
      match body.inviteCode with
      | none => .error (.http 422 "An invitation code is required")
      | some inviteCode =>
        if inviteCode = "" then .error (.http 422 "An invitation code is required")
        else registerViaInvite service accounts draws body inviteCode passwordHash
    | .create => registerOwner service accounts draws body passwordHash
    | .join => registerPending accounts draws body passwordHash

def login (accounts : Accounts) (draws : Draws) (body : LoginRequest) :
    Except Failure (Accounts × AuthResponse) :=
  match getByEmail accounts.users defaultTenantId body.email with
  | none => .error (.http 401 "Invalid email or password")
  | some user =>
    if !user.isActive then .error (.http 401 "Invalid email or password")
    else if user.approvalStatus = .pending then
      .error (.http 403 "Your account is pending approval by an organization admin.")
    else if user.approvalStatus = .rejected then
      .error (.http 403 "Your account has been denied.")
    else if !service.peppers.passwords.verifyPassword service.argon2 body.password
        user.passwordHash then
      .error (.http 401 "Invalid email or password")
    else do
      let (committed, issued) ← issueUserToken service accounts draws user.id user.email
      pure (committed, ⟨issued.plaintext, user⟩)

/-- `approve_user` by an administrator of the tenant. -/
def approveUser (accounts : Accounts) (draws : Draws) (tenantId userId bodyUserId : Uuid) :
    Except Failure (Accounts × AuthResponse) :=
  if bodyUserId ≠ userId then .error (.http 422 "user_id mismatch")
  else match accounts.users.rows.find? (hasId tenantId userId) with
    | none => .error (.http 404 "User not found")
    | some user => do
      let approved :=
        { accounts with
          users := setApprovalStatus accounts.users (hasId tenantId userId) .approved }
      let (committed, issued) ← issueUserToken service approved draws user.id user.email
      pure (committed, ⟨issued.plaintext, withStatus .approved user⟩)

/-- `reject_user` by an administrator of the tenant. -/
def rejectUser (accounts : Accounts) (tenantId userId : Uuid) : Except Failure Accounts :=
  if accounts.users.rows.any (hasId tenantId userId) then
    .ok { accounts with
      users := setApprovalStatus accounts.users (hasId tenantId userId) .rejected }
  else .error (.http 404 "User not found")

def resolveMember (members : MemberTable) (tenantId : Uuid) (scimId : String) :
    Option OrgMember :=
  match getBySubject members tenantId scimId with
  | some member => some member
  | none => (service.parseUuid scimId).bind (getMember members tenantId)

/-- The account of a SCIM user: the member's subject is read as an e-mail address. -/
def scimUser (accounts : Accounts) (tenantId : Uuid) (scimId : String) : Option User :=
  (resolveMember service accounts.members tenantId scimId).bind fun member =>
    getByEmail accounts.users tenantId member.userSubject

def isScimUser (accounts : Accounts) (tenantId : Uuid) (scimId : String) (user : User) : Bool :=
  (scimUser service accounts tenantId scimId).any fun found => user.id = found.id

def scimDeleteUser (accounts : Accounts) (tenantId : Uuid) (scimId : String) :
    Except Failure Accounts :=
  match resolveMember service accounts.members tenantId scimId with
  | none => .error (.http 404 "User not found")
  | some member => .ok { accounts with
        users := setApprovalStatus accounts.users (isScimUser service accounts tenantId scimId)
          .rejected
        members := accounts.members.delete fun other => other.id = member.id }

/-! ## Runs -/

inductive Operation where
  | register (draws : Draws) (body : RegisterRequest)
  | login (draws : Draws) (body : LoginRequest)
  | approveUser (draws : Draws) (tenantId userId bodyUserId : Uuid)
  | rejectUser (tenantId userId : Uuid)
  | scimDeleteUser (tenantId : Uuid) (scimId : String)
  | revokeKey (keyId tenantId : Uuid) (now : Instant)

def perform (accounts : Accounts) : Operation → Except Failure Accounts
  | .register draws body => (register service accounts draws body).map Prod.fst
  | .login draws body => (login service accounts draws body).map Prod.fst
  | .approveUser draws tenantId userId bodyUserId =>
    (approveUser service accounts draws tenantId userId bodyUserId).map Prod.fst
  | .rejectUser tenantId userId => rejectUser accounts tenantId userId
  | .scimDeleteUser tenantId scimId => scimDeleteUser service accounts tenantId scimId
  | .revokeKey keyId tenantId now =>
    match revokeKey accounts.keys keyId tenantId now with
    | some keys => .ok { accounts with keys := keys }
    | none => .error (.http 404 ("Key " ++ keyId.str ++ " not found"))

def step (accounts : Accounts) (operation : Operation) : Accounts :=
  Transactions.commit (perform service) accounts operation

def run (accounts : Accounts) (operations : List Operation) : Accounts :=
  Transactions.run (perform service) accounts operations

/-! ## Committed changes -/

variable {service} {accounts : Accounts}

theorem createUser_ok_iff {user : User} {created : Accounts} :
    createUser accounts user = .ok created ↔ ∃ users, accounts.users.insert user = some users ∧
        created = { accounts with users := users } := by
  unfold createUser
  cases accounts.users.insert user with
  | none => exact iff_of_false nofun (fun ⟨_, absent, _⟩ => nomatch absent)
  | some users =>
    constructor
    · intro hok
      exact ⟨users, rfl, (Except.ok.inj hok).symm⟩
    · rintro ⟨_, ins, rfl⟩
      rw [Option.some.inj ins]

theorem createMember_ok_iff {member : OrgMember} {joined : Accounts} :
    createMember accounts member = .ok joined ↔
      ∃ members, accounts.members.insert member = some members ∧
        joined = { accounts with members := members } := by
  unfold createMember
  cases accounts.members.insert member with
  | none => exact iff_of_false nofun (fun ⟨_, absent, _⟩ => nomatch absent)
  | some members =>
    constructor
    · intro hok
      exact ⟨members, rfl, (Except.ok.inj hok).symm⟩
    · rintro ⟨_, ins, rfl⟩
      rw [Option.some.inj ins]

theorem createUser_ok {user : User} {created : Accounts}
    (hok : createUser accounts user = .ok created) :
    created.keys = accounts.keys ∧ created.users.rows = accounts.users.rows ++ [user] ∧
      ∀ other ∈ accounts.users.rows, ¬ UserConflict other user := by
  obtain ⟨users, ins, rfl⟩ := createUser_ok_iff.mp hok
  exact ⟨rfl, Table.of_insert ins⟩

theorem createMember_ok {member : OrgMember} {joined : Accounts}
    (hok : createMember accounts member = .ok joined) :
    joined.keys = accounts.keys ∧ joined.users = accounts.users := by
  obtain ⟨members, _, rfl⟩ := createMember_ok_iff.mp hok
  exact ⟨rfl, rfl⟩

theorem issueUserToken_ok {draws : Draws} {userId : Uuid} {email : String} {committed : Accounts}
    {issued : IssuedKey}
    (hok : issueUserToken service accounts draws userId email = .ok (committed, issued)) :
    committed.users = accounts.users ∧ ∃ row, row.userId = some userId ∧
      Hashes service.argon2 row draws.keyText service.peppers.activePepper ∧
      committed.keys.rows = accounts.keys.rows ++ [row] := by
  unfold issueUserToken at hok
  split at hok
  · cases hok
  · rename_i keys issued issuing
    obtain ⟨rfl, _⟩ := Prod.mk.inj (Except.ok.inj hok)
    exact ⟨rfl, _, rfl, ⟨rfl, _, rfl⟩, (issueKey_ok _ issuing).1⟩

/-! ## Answered requests

What the handlers have found and done when they answer. -/

section Answered

variable {after : Accounts} {draws : Draws} {response : AuthResponse}

abbrev invitedUser (body : RegisterRequest) (draws : Draws) (passwordHash : String)
    (invitation : Invitation) : User :=
  newUser body draws passwordHash
    (if invitation.orgName ≠ "" then some invitation.orgName else body.orgName) .approved
    (some invitation.role)

variable {body : RegisterRequest} {tenantId : Uuid}

theorem registerViaInvite_ok {inviteCode passwordHash : String}
    (hok : registerViaInvite service accounts draws body inviteCode passwordHash =
      .ok (after, response)) :
    ∃ invitation created invitations issued,
      findActive service.unicode service.hmacSha256 accounts.invitations defaultTenantId
        inviteCode service.peppers.activePepper (some service.peppers.apiKeyPepper.val)
        draws.now = .ok invitation ∧
      invitation.email.any (fun email => email ≠ body.email) = false ∧
      createUser accounts (invitedUser body draws passwordHash invitation) = .ok created ∧
      markRedeemed created.invitations invitation.id draws.userId draws.now = some invitations ∧
      issueUserToken service { created with invitations := invitations } draws draws.userId
        body.email = .ok (after, issued) := by
  unfold registerViaInvite at hok
  split at hok
  · cases hok
  rename_i invitation found
  split at hok
  · cases hok
  rename_i addressed
  obtain ⟨created, creating, redeeming⟩ := ok_of_bind hok
  split at redeeming
  · cases redeeming
  rename_i invitations marks
  obtain ⟨⟨committed, issued⟩, issuing, done⟩ := ok_of_bind redeeming
  obtain ⟨rfl, _⟩ := Prod.mk.inj (Except.ok.inj done)
  exact ⟨invitation, created, invitations, issued, found, by simpa using addressed,
    creating, marks, issuing⟩

theorem registerOwner_ok {passwordHash : String}
    (hok : registerOwner service accounts draws body passwordHash = .ok (after, response)) :
    ∃ created joined issued, createUser accounts
        (newUser body draws passwordHash body.orgName .approved (some .orgOwner)) = .ok created ∧
      createMember created
        ⟨draws.memberId, defaultTenantId, draws.userId.str, .orgOwner, none⟩ = .ok joined ∧
      issueUserToken service joined draws draws.userId body.email = .ok (after, issued) := by
  unfold registerOwner at hok
  split at hok
  · cases hok
  split at hok
  · cases hok
  obtain ⟨created, creating, joining⟩ := ok_of_bind hok
  obtain ⟨joined, joins, committing⟩ := ok_of_bind joining
  obtain ⟨⟨committed, issued⟩, issuing, done⟩ := ok_of_bind committing
  obtain ⟨rfl, _⟩ := Prod.mk.inj (Except.ok.inj done)
  exact ⟨created, joined, issued, creating, joins, issuing⟩

theorem register_ok (hok : register service accounts draws body = .ok (after, response)) :
    getByEmail accounts.users defaultTenantId body.email = none ∧ ∃ passwordHash,
      match body.flow with
      | .invitation => ∃ inviteCode ∈ body.inviteCode, inviteCode ≠ "" ∧
          registerViaInvite service accounts draws body inviteCode passwordHash =
            .ok (after, response)
      | .create =>
        registerOwner service accounts draws body passwordHash = .ok (after, response)
      | .join => registerPending accounts draws body passwordHash = .ok (after, response) := by
  unfold register at hok
  split at hok
  · cases hok
  rename_i unknown
  refine ⟨by simpa using unknown, service.peppers.passwords.hashPassword service.argon2
    draws.passwordSalt body.password, ?_⟩
  split at hok
  · split at hok
    · cases hok
    rename_i inviteCode given
    split at hok
    · cases hok
    · rename_i ne
      exact ⟨inviteCode, given, ne, hok⟩
  · exact hok
  · exact hok

def Enrolled (service : Service) (before : Accounts) (draws : Draws) (user : User)
    (after : Accounts) : Prop :=
  ∃ created joined issued, createUser before user = .ok created ∧
    joined.users = created.users ∧ joined.keys = created.keys ∧
    issueUserToken service joined draws user.id user.email = .ok (after, issued)

theorem register_creates
    (hok : register service accounts draws body = .ok (after, response)) :
    ∃ user, user.tenantId = defaultTenantId ∧ user.isActive = true ∧
      (user.approvalStatus = .approved ∧ Enrolled service accounts draws user after ∨
        user.approvalStatus = .pending ∧ createUser accounts user = .ok after) := by
  obtain ⟨_, passwordHash, flowed⟩ := register_ok hok
  split at flowed
  · obtain ⟨inviteCode, _, _, redeemed⟩ := flowed
    obtain ⟨_, created, invitations, _, _, _, creating, _, issuing⟩ :=
      registerViaInvite_ok redeemed
    exact ⟨_, rfl, rfl, .inl ⟨rfl, created, { created with invitations := invitations }, _,
      creating, rfl, rfl, issuing⟩⟩
  · obtain ⟨created, joined, _, creating, joins, issuing⟩ := registerOwner_ok flowed
    obtain ⟨sameKeys, sameUsers⟩ := createMember_ok joins
    exact ⟨_, rfl, rfl, .inl ⟨rfl, created, joined, _, creating, sameUsers, sameKeys, issuing⟩⟩
  · obtain ⟨created, creating, done⟩ := ok_of_bind flowed
    obtain ⟨rfl, _⟩ := Prod.mk.inj (Except.ok.inj done)
    exact ⟨_, rfl, rfl, .inr ⟨rfl, creating⟩⟩

theorem approved_of_not {status : UserApprovalStatus} (unpending : ¬ status = .pending)
    (unrejected : ¬ status = .rejected) : status = .approved := by
  cases status with
  | approved => rfl
  | pending => exact absurd rfl unpending
  | rejected => exact absurd rfl unrejected

theorem login_ok {body : LoginRequest}
    (hok : login service accounts draws body = .ok (after, response)) :
    ∃ user issued, getByEmail accounts.users defaultTenantId body.email = some user ∧
      user.isActive = true ∧ user.approvalStatus = .approved ∧
      issueUserToken service accounts draws user.id user.email = .ok (after, issued) := by
  unfold login at hok
  split at hok
  · cases hok
  rename_i user found
  split at hok
  · cases hok
  rename_i active
  split at hok
  · cases hok
  rename_i unpending
  split at hok
  · cases hok
  rename_i unrejected
  split at hok
  · cases hok
  obtain ⟨⟨committed, issued⟩, issuing, done⟩ := ok_of_bind hok
  obtain ⟨rfl, _⟩ := Prod.mk.inj (Except.ok.inj done)
  exact ⟨user, issued, found, by simpa using active, approved_of_not unpending unrejected, issuing⟩

theorem approveUser_ok {userId bodyUserId : Uuid}
    (hok : approveUser service accounts draws tenantId userId bodyUserId =
      .ok (after, response)) :
    bodyUserId = userId ∧ ∃ user issued,
      accounts.users.rows.find? (hasId tenantId userId) = some user ∧
      issueUserToken service { accounts with
          users := setApprovalStatus accounts.users (hasId tenantId userId) .approved }
        draws user.id user.email = .ok (after, issued) := by
  unfold approveUser at hok
  split at hok
  · cases hok
  rename_i matching
  split at hok
  · cases hok
  rename_i user found
  obtain ⟨⟨committed, issued⟩, issuing, done⟩ := ok_of_bind hok
  obtain ⟨rfl, _⟩ := Prod.mk.inj (Except.ok.inj done)
  exact ⟨not_not.mp matching, user, issued, found, issuing⟩

theorem rejectUser_ok {userId : Uuid}
    (hok : rejectUser accounts tenantId userId = .ok after) :
    after = { accounts with
      users := setApprovalStatus accounts.users (hasId tenantId userId) .rejected } := by
  unfold rejectUser at hok
  split at hok
  · exact (Except.ok.inj hok).symm
  · cases hok

theorem scimDeleteUser_ok {scimId : String}
    (hok : scimDeleteUser service accounts tenantId scimId = .ok after) :
    ∃ member, resolveMember service accounts.members tenantId scimId = some member ∧
      after = { accounts with
        users := setApprovalStatus accounts.users (isScimUser service accounts tenantId scimId)
          .rejected
        members := accounts.members.delete fun other => other.id = member.id } := by
  unfold scimDeleteUser at hok
  split at hok
  · cases hok
  · rename_i member found
    exact ⟨member, found, (Except.ok.inj hok).symm⟩

theorem perform_revokeKey_ok {keyId : Uuid} {now : Instant}
    (hok : perform service accounts (.revokeKey keyId tenantId now) = .ok after) :
    after.users = accounts.users ∧
      after.keys.rows = accounts.keys.rows.map (revoked keyId tenantId now) := by
  simp only [perform, revokeKey] at hok
  split at hok
  · rename_i keys revoking
    split at revoking
    · rw [← Except.ok.inj hok, ← Option.some.inj revoking]
      exact ⟨rfl, rfl⟩
    · cases revoking
  · cases hok

end Answered

end Portcullis.Auth.Accounts
