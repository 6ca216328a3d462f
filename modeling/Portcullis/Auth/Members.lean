import Portcullis.Auth.Accounts

/-!
# Members of an organisation

The endpoints of `app/api/auth.py` for members and invitations and those of
`app/api/scim.py`, with the gate of `app/auth/dependencies.py` and the hierarchy of
`app/auth/admin_rbac.py`.  A caller is the subject that authentication returned.  Audit
entries and the e-mail of an invitation are left out.
-/

namespace Portcullis.Auth.Members

open Auth.Accounts Auth.ApiKeys
open Auth.Invites (MintArgs mint)
open Lib Models

/-! ## Hierarchy -/

/-- The roles that an `org_admin` manages and invites. -/
def subordinate : OrgMemberRole → Bool
  | .developer | .teamMember | .viewer | .auditor | .billingAdmin => true
  | _ => false

def canManageMember (manager target : OrgMember) : Bool :=
  if manager.id = target.id then false
  else match manager.adminRole with
    | .orgOwner => target.adminRole ≠ .orgOwner
    | .orgAdmin => subordinate target.adminRole
    | _ => false

def canInviteRole (inviter : OrgMember) (role : OrgMemberRole) : Bool :=
  match inviter.adminRole with
  | .orgOwner => role ≠ .orgOwner
  | .orgAdmin => subordinate role
  | _ => false

theorem ne_orgOwner_of_subordinate {role : OrgMemberRole} (below : subordinate role = true) :
    role ≠ .orgOwner := by
  rintro rfl
  cases below

theorem ne_orgOwner_of_canManageMember {manager target : OrgMember}
    (allowed : canManageMember manager target = true) : target.adminRole ≠ .orgOwner := by
  unfold canManageMember at allowed
  split at allowed
  · cases allowed
  split at allowed
  · exact of_decide_eq_true allowed
  · exact ne_orgOwner_of_subordinate allowed
  · cases allowed

theorem ne_orgOwner_of_canInviteRole {inviter : OrgMember} {role : OrgMemberRole}
    (allowed : canInviteRole inviter role = true) : role ≠ .orgOwner := by
  unfold canInviteRole at allowed
  split at allowed
  · exact of_decide_eq_true allowed
  · exact ne_orgOwner_of_subordinate allowed
  · cases allowed

/-! ## Callers -/

/-- `get_by_id` of the id that a key's subject spells out. -/
def getKey (keys : KeyTable) (caller : Principal) : Option ApiKey :=
  keys.rows.find? fun row =>
    row.id.str = caller.subjectId && row.tenantId = caller.tenantId && row.revokedAt.isNone

def actingUserId (keys : KeyTable) (caller : Principal) : Option Uuid :=
  if caller.subjectType = .apiKey then (getKey keys caller).bind ApiKey.userId else none

def actingUser (accounts : Accounts) (caller : Principal) : Option User :=
  (actingUserId accounts.keys caller).bind fun userId =>
    accounts.users.rows.find? (hasId caller.tenantId userId)

def userMember (accounts : Accounts) (caller : Principal) : Option OrgMember :=
  (actingUserId accounts.keys caller).bind fun userId =>
    getBySubject accounts.members caller.tenantId userId.str

def subjectMember (accounts : Accounts) (caller : Principal) : Option OrgMember :=
  getBySubject accounts.members caller.tenantId caller.subjectId

def isAdminUser (user : User) : Bool :=
  user.isActive &&
    (user.isPlatformAdmin || user.orgRole = some .orgOwner || user.orgRole = some .orgAdmin)

def isAdminMember (member : OrgMember) : Bool :=
  member.adminRole = .orgOwner || member.adminRole = .orgAdmin

def adminSubject (accounts : Accounts) (caller : Principal) : Bool :=
  decide ("admin" ∈ caller.scopes) || (actingUser accounts caller).any isAdminUser ||
    (userMember accounts caller).any isAdminMember ||
    (subjectMember accounts caller).any isAdminMember

/-- `_get_current_org_member`: a key of a user is never looked up under its own id. -/
def currentOrgMember (accounts : Accounts) (caller : Principal) : Option OrgMember :=
  if (actingUserId accounts.keys caller).isSome then userMember accounts caller
  else subjectMember accounts caller

def adminRequired : Failure := .http 403 "Admin scope required"

/-! ## Invitations -/

structure InviteCreate where
  orgName : String
  email : Option String
  expiresInDays : Option Int
  role : OrgRole

structure InviteDraws where
  code : Invites.Draws
  newId : Uuid
  now : Instant

def revokesInvite (tenantId inviteId : Uuid) (invitation : Invitation) : Bool :=
  invitation.id = inviteId && invitation.tenantId = tenantId && invitation.status = .active

section Endpoints

variable (service : Service) (teams : Uuid → Bool)

def mintArgs (accounts : Accounts) (draws : InviteDraws) (caller : Principal)
    (body : InviteCreate) : MintArgs where
  draws := draws.code
  newId := draws.newId
  now := draws.now
  tenantId := caller.tenantId
  orgName := body.orgName
  pepper := service.peppers.activePepper
  createdBy := actingUserId accounts.keys caller
  email := body.email
  expiresInDays := body.expiresInDays
  role := body.role

def createInvite (accounts : Accounts) (draws : InviteDraws) (caller : Principal)
    (body : InviteCreate) : Except Failure Accounts :=
  if adminSubject accounts caller then
    .ok { accounts with
      invitations := (mint service.hmacSha256 accounts.invitations
        (mintArgs service accounts draws caller body)).1 }
  else .error adminRequired

def revokeInvite (accounts : Accounts) (now : Instant) (caller : Principal) (inviteId : Uuid) :
    Except Failure Accounts :=
  if adminSubject accounts caller then
    if accounts.invitations.any (revokesInvite caller.tenantId inviteId) then
      .ok { accounts with
        invitations := accounts.invitations.map fun invitation =>
          if revokesInvite caller.tenantId inviteId invitation then
            { invitation with status := .revoked, revokedAt := some now }
          else invitation }
    else .error (.http 404 "Invitation not found or already used")
  else .error adminRequired

/-! ## Members -/

structure MemberCreate where
  userSubject : String
  adminRole : OrgMemberRole
  teamId : Option Uuid
  fits : 1 ≤ userSubject.length ∧ userSubject.length ≤ 500

/-- `OrgMemberUpdate`: a field may be left out, and may be null. -/
structure MemberUpdate where
  adminRole : Option (Option OrgMemberRole)
  teamId : Option (Option Uuid)

def teamKnown (teamId : Option Uuid) : Bool := teamId.all teams

/-- The hierarchy is consulted for a caller that has a member row. -/
def forbids (accounts : Accounts) (caller : Principal) (allows : OrgMember → Bool) : Bool :=
  (currentOrgMember accounts caller).any fun current => !allows current

def createMember (accounts : Accounts) (newId : Uuid) (caller : Principal)
    (body : MemberCreate) : Except Failure Accounts :=
  if !adminSubject accounts caller then .error adminRequired
  else if (getBySubject accounts.members caller.tenantId body.userSubject).isSome then
    .error (.http 409 "Member already exists in this organization")
  else if forbids accounts caller fun current => canInviteRole current body.adminRole then
    .error (.http 403 ("Cannot invite role " ++ body.adminRole.value))
  else if !teamKnown teams body.teamId then .error (.database .integrityError)
  else Accounts.createMember accounts
    ⟨newId, caller.tenantId, body.userSubject, body.adminRole, body.teamId⟩

def updatedMember (body : MemberUpdate) (member : OrgMember) : OrgMember :=
  { member with
    adminRole := body.adminRole.join.getD member.adminRole
    teamId := body.teamId.getD member.teamId }

def changeMember (memberId : Uuid) (body : MemberUpdate) (member : OrgMember) : OrgMember :=
  if member.id = memberId then updatedMember body member else member

theorem changeMember_same (memberId : Uuid) (body : MemberUpdate) (member : OrgMember) :
    (changeMember memberId body member).id = member.id ∧
      (changeMember memberId body member).tenantId = member.tenantId ∧
      (changeMember memberId body member).userSubject = member.userSubject := by
  unfold changeMember
  split <;> exact ⟨rfl, rfl, rfl⟩

def setMember (members : MemberTable) (memberId : Uuid) (body : MemberUpdate) : MemberTable :=
  members.update (changeMember memberId body) fun left right conflict => by
    obtain ⟨leftId, leftTenant, leftSubject⟩ := changeMember_same memberId body left
    obtain ⟨rightId, rightTenant, rightSubject⟩ := changeMember_same memberId body right
    rw [MemberConflict, leftId, leftTenant, leftSubject, rightId, rightTenant,
      rightSubject] at conflict
    exact conflict

/-- The role is a column that cannot be null. -/
def storable (body : MemberUpdate) : Bool :=
  body.adminRole ≠ some none && teamKnown teams body.teamId.join

def updateMember (accounts : Accounts) (caller : Principal) (memberId : Uuid)
    (body : MemberUpdate) : Except Failure Accounts :=
  if !adminSubject accounts caller then .error adminRequired
  else match getMember accounts.members caller.tenantId memberId with
    | none => .error (.http 404 "Member not found")
    | some member =>
      if forbids accounts caller fun current => canManageMember current member then
        .error (.http 403 "Not allowed to manage this member")
      else if forbids accounts caller fun current =>
          body.adminRole.join.all (canInviteRole current) then
        .error (.http 403 ("Cannot assign role " ++
          (body.adminRole.join.map OrgMemberRole.value).getD "None"))
      else if !storable teams body then .error (.database .integrityError)
      else .ok { accounts with members := setMember accounts.members member.id body }

def deleteMember (accounts : Accounts) (caller : Principal) (memberId : Uuid) :
    Except Failure Accounts :=
  if !adminSubject accounts caller then .error adminRequired
  else match getMember accounts.members caller.tenantId memberId with
    | none => .error (.http 404 "Member not found")
    | some member =>
      if forbids accounts caller fun current => canManageMember current member then
        .error (.http 403 "Not allowed to remove this member")
      else .ok { accounts with members := accounts.members.delete fun other =>
        other.id = member.id }

/-! ## SCIM

Every caller is admitted.  Of these endpoints only the deletions commit. -/

/-- The role that a group names in lower case. -/
def scimRole (lowered : String) (default : OrgMemberRole) : OrgMemberRole :=
  match lowered with
  | "admin" => .orgAdmin
  | "developer" => .developer
  | "viewer" => .viewer
  | "auditor" => .auditor
  | "owner" => .orgOwner
  | _ => default

/-- A known user is read through a relationship that the model lacks, and a new one is
created without an argument that the repository requires. -/
def scimCreateUser : Except Failure Accounts := .error (.http 500 "Internal Server Error")

def scimUpdateUser (accounts : Accounts) (caller : Principal) (scimId : String) :
    Except Failure Accounts :=
  match resolveMember service accounts.members caller.tenantId scimId with
  | none => .error (.http 404 "User not found")
  | some _ => .ok accounts

def scimCreateGroup (accounts : Accounts) (newId : Uuid) (caller : Principal)
    (name lowered : String) : Except Failure Accounts :=
  if accounts.members.rows.any fun member =>
      member.tenantId = caller.tenantId && member.adminRole.value = lowered then .ok accounts
  else if 1 ≤ name.length ∧ name.length ≤ 500 then
    -- the row is flushed and never committed
    (Accounts.createMember accounts
      ⟨newId, caller.tenantId, name, scimRole lowered .developer, none⟩).map fun _ => accounts
  else .error (.http 500 "Internal Server Error")

/-- The role that the group names is set on the object and never committed. -/
def scimUpdateGroup (accounts : Accounts) (caller : Principal) (scimId : String) :
    Except Failure Accounts :=
  match resolveMember service accounts.members caller.tenantId scimId with
  | none => .error (.http 404 "Group not found")
  | some _ => .ok accounts

def scimDeleteGroup (accounts : Accounts) (caller : Principal) (scimId : String) :
    Except Failure Accounts :=
  match scimDeleteUser service accounts caller.tenantId scimId with
  | .ok after => .ok after
  | .error _ => .error (.http 404 "Group not found")

/-! ## Requests -/

inductive Request where
  | createInvite (draws : InviteDraws) (caller : Principal) (body : InviteCreate)
  | revokeInvite (now : Instant) (caller : Principal) (inviteId : Uuid)
  | redeemInvite (draws : Draws) (body : RegisterRequest)
  | createMember (newId : Uuid) (caller : Principal) (body : MemberCreate)
  | updateMember (caller : Principal) (memberId : Uuid) (body : MemberUpdate)
  | deleteMember (caller : Principal) (memberId : Uuid)
  | scimCreateUser (caller : Principal)
  | scimUpdateUser (caller : Principal) (scimId : String)
  | scimDeleteUser (caller : Principal) (scimId : String)
  | scimCreateGroup (newId : Uuid) (caller : Principal) (name lowered : String)
  | scimUpdateGroup (caller : Principal) (scimId : String)
  | scimDeleteGroup (caller : Principal) (scimId : String)

/-- Whoever registers with an invitation is not logged in. -/
def Request.caller : Request → Option Principal
  | .redeemInvite _ _ => none
  | .createInvite _ caller _ | .revokeInvite _ caller _ | .createMember _ caller _
  | .updateMember caller _ _ | .deleteMember caller _ | .scimCreateUser caller
  | .scimUpdateUser caller _ | .scimDeleteUser caller _ | .scimCreateGroup _ caller _ _
  | .scimUpdateGroup caller _ | .scimDeleteGroup caller _ => some caller

def perform (accounts : Accounts) : Request → Except Failure Accounts
  | .createInvite draws caller body => createInvite service accounts draws caller body
  | .revokeInvite now caller inviteId => revokeInvite accounts now caller inviteId
  | .redeemInvite draws body =>
    (register service accounts draws { body with flow := .invitation }).map Prod.fst
  | .createMember newId caller body => createMember teams accounts newId caller body
  | .updateMember caller memberId body => updateMember teams accounts caller memberId body
  | .deleteMember caller memberId => deleteMember accounts caller memberId
  | .scimCreateUser _ => scimCreateUser
  | .scimUpdateUser caller scimId => scimUpdateUser service accounts caller scimId
  | .scimDeleteUser caller scimId => scimDeleteUser service accounts caller.tenantId scimId
  | .scimCreateGroup newId caller name lowered =>
    scimCreateGroup accounts newId caller name lowered
  | .scimUpdateGroup caller scimId => scimUpdateGroup service accounts caller scimId
  | .scimDeleteGroup caller scimId => scimDeleteGroup service accounts caller scimId

end Endpoints

end Portcullis.Auth.Members
