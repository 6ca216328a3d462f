import Portcullis.Lib.Json
import Portcullis.Lib.Uuid

/-!
# Database rows

The enumerations and rows of `app/models/orm.py` that the modelled functions
read.  Columns no modelled function reads are left out.
-/

namespace Portcullis.Models

open Lib

inductive ServerAuthMode where
  | none
  | serviceToken
  deriving DecidableEq, Repr

inductive ServerStatus where
  | active
  | disabled
  | unhealthy
  deriving DecidableEq, Repr

def ServerStatus.value : ServerStatus → String
  | .active => "active"
  | .disabled => "disabled"
  | .unhealthy => "unhealthy"

inductive ServerTransport where
  | streamableHttp
  | stdioBridge
  deriving DecidableEq, Repr

inductive SubjectType where
  | apiKey
  | oauthSubject
  deriving DecidableEq, Repr

def SubjectType.value : SubjectType → String
  | .apiKey => "api_key"
  | .oauthSubject => "oauth_subject"

inductive UserApprovalStatus where
  | approved
  | pending
  | rejected
  deriving DecidableEq, Repr

inductive InvitationStatus where
  | active
  | used
  | revoked
  | expired
  deriving DecidableEq, Repr

inductive OrgRole where
  | orgOwner
  | orgAdmin
  | developer
  | viewer
  deriving DecidableEq, Repr

inductive OrgMemberRole where
  | orgOwner
  | orgAdmin
  | developer
  | teamMember
  | viewer
  | auditor
  | billingAdmin
  deriving DecidableEq, Repr

def OrgMemberRole.value : OrgMemberRole → String
  | .orgOwner => "org_owner"
  | .orgAdmin => "org_admin"
  | .developer => "developer"
  | .teamMember => "team_member"
  | .viewer => "viewer"
  | .auditor => "auditor"
  | .billingAdmin => "billing_admin"

inductive LicenseStatus where
  | active
  | expired
  | revoked
  deriving DecidableEq, Repr

inductive PermissionEffect where
  | allow
  | deny
  deriving DecidableEq, Repr

inductive RateLimitAlgorithm where
  | tokenBucket
  | slidingWindow
  deriving DecidableEq, Repr

inductive AuditEventType where
  | authFailure
  | platformAdminGranted
  | rbacDeny
  | toolCall
  | tenantProvisioned
  deriving DecidableEq, Repr

def AuditEventType.value : AuditEventType → String
  | .authFailure => "auth_failure"
  | .platformAdminGranted => "platform_admin_granted"
  | .rbacDeny => "rbac_deny"
  | .toolCall => "tool_call"
  | .tenantProvisioned => "tenant_provisioned"

structure McpServer where
  id : Uuid
  tenantId : Uuid
  slug : String
  upstreamUrl : String
  authMode : ServerAuthMode
  serviceTokenEnvVar : Option String
  status : ServerStatus
  deriving DecidableEq, Repr

structure Role where
  id : Uuid
  tenantId : Uuid
  name : String
  deriving DecidableEq, Repr

structure RoleBinding where
  id : Uuid
  roleId : Uuid
  subjectType : SubjectType
  subjectId : String
  deriving DecidableEq, Repr

structure ToolPermission where
  id : Uuid
  roleId : Uuid
  serverPattern : String
  toolPattern : String
  effect : PermissionEffect
  priority : Int
  deriving DecidableEq, Repr

structure RateLimitPolicy where
  id : Uuid
  tenantId : Uuid
  subjectId : Option String
  subjectType : Option SubjectType
  serverPattern : Option String
  toolPattern : Option String
  algorithm : RateLimitAlgorithm
  requestLimit : Int
  windowSeconds : Int
  burstCapacity : Option Int
  priority : Int
  deriving DecidableEq, Repr

/-- Instants are microseconds since the epoch, the resolution of `datetime`. -/
abbrev Instant := Int

structure Invitation where
  id : Uuid
  tenantId : Uuid
  createdBy : Option Uuid
  orgName : String
  email : Option String
  codeHash : String
  role : OrgRole
  status : InvitationStatus
  redeemedBy : Option Uuid
  redeemedAt : Option Instant
  expiresAt : Option Instant
  revokedAt : Option Instant
  deriving DecidableEq, Repr

structure User where
  id : Uuid
  tenantId : Uuid
  email : String
  passwordHash : String
  fullName : String
  orgName : Option String
  intendedUse : Option String
  isActive : Bool
  isPlatformAdmin : Bool
  orgRole : Option OrgRole
  createdOrgCount : Nat
  approvalStatus : UserApprovalStatus
  deriving DecidableEq, Repr

structure OrgMember where
  id : Uuid
  tenantId : Uuid
  userSubject : String
  adminRole : OrgMemberRole
  teamId : Option Uuid
  deriving DecidableEq, Repr

structure ApiKey where
  id : Uuid
  tenantId : Uuid
  userId : Option Uuid
  name : String
  keyPrefix : String
  keyHash : String
  scopes : List String
  lastUsedAt : Option Instant
  revokedAt : Option Instant
  deriving DecidableEq, Repr

structure License where
  tenantId : Uuid
  status : LicenseStatus
  seatLimit : Int
  serverLimit : Option Int
  expiresAt : Instant
  deriving DecidableEq, Repr

/-- The columns of a server that only the registry and the health monitor use. -/
structure RegisteredServer extends McpServer where
  name : String
  transport : ServerTransport
  sslCa : Option String
  sslCert : Option String
  sslKey : Option String
  healthCheckPath : String
  consecutiveHealthFailures : Nat
  lastHealthCheckAt : Option Instant
  bridgeCommand : Option String
  bridgePort : Option Nat
  deriving DecidableEq, Repr

structure AuditLog where
  id : Uuid
  tenantId : Option Uuid
  subjectId : Option String
  subjectType : Option SubjectType
  eventType : AuditEventType
  serverSlug : Option String
  toolName : Option String
  rpcMethod : Option String
  outcome : String
  clientIp : Option String
  requestId : Option String
  prevHash : Option String
  entryHash : Option String
  detail : Json
  createdAt : Instant
  deriving DecidableEq

end Portcullis.Models
