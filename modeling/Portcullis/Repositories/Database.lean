import Portcullis.Models.Orm

/-!
# Database reads of the gateway

Tables are lists of rows in whatever order the database returns them.  The
queries follow `app/repositories/`: the tenant filter of servers and policies, and
the join of permissions, roles and bindings that selects the rules of a subject.
-/

namespace Portcullis.Repositories

open Lib Models

structure Database where
  servers : List McpServer
  roles : List Role
  bindings : List RoleBinding
  permissions : List ToolPermission
  policies : List RateLimitPolicy

namespace Database

variable (db : Database) (tenantId : Uuid)

def listServers : List McpServer :=
  db.servers.filter fun server => decide (server.tenantId = tenantId)

def getBySlug (slug : String) : Option McpServer :=
  db.servers.find? fun server => server.tenantId = tenantId && server.slug = slug

def listPolicies : List RateLimitPolicy :=
  db.policies.filter fun policy => decide (policy.tenantId = tenantId)

/-- One row per matching (permission, role, binding) triple, so a rule reached
through two bindings occurs twice. -/
def getPermissionsForSubject (subjectType : SubjectType) (subjectId : String) :
    List ToolPermission :=
  db.permissions.flatMap fun permission =>
    db.roles.flatMap fun role =>
      db.bindings.flatMap fun binding =>
        if permission.roleId = role.id ∧ binding.roleId = role.id ∧
            role.tenantId = tenantId ∧ binding.subjectType = subjectType ∧
            binding.subjectId = subjectId then [permission]
        else []

theorem getBySlug_eq_find_listServers (slug : String) : db.getBySlug tenantId slug =
      (db.listServers tenantId).find? fun server => decide (server.slug = slug) := by
  rw [getBySlug, listServers, List.find?_filter]
  simp only [Bool.decide_and, Bool.decide_eq_true]

theorem mem_getPermissionsForSubject (subjectType : SubjectType) (subjectId : String)
    (permission : ToolPermission) :
    permission ∈ db.getPermissionsForSubject tenantId subjectType subjectId ↔
      permission ∈ db.permissions ∧ ∃ role ∈ db.roles, role.tenantId = tenantId ∧
        permission.roleId = role.id ∧ ∃ binding ∈ db.bindings,
          binding.roleId = role.id ∧ binding.subjectType = subjectType ∧
            binding.subjectId = subjectId := by
  simp only [getPermissionsForSubject, List.mem_flatMap]
  constructor
  · rintro ⟨row, rowMember, role, roleMember, binding, bindingMember, sel⟩
    split at sel
    · rename_i joined
      obtain ⟨permissionRole, bindingRole, tenant, bindingType, bindingSubject⟩ := joined
      rw [List.mem_singleton] at sel
      subst sel
      exact ⟨rowMember, role, roleMember, tenant, permissionRole, binding,
        bindingMember, bindingRole, bindingType, bindingSubject⟩
    · exact absurd sel List.not_mem_nil
  · rintro ⟨rowMember, role, roleMember, tenant, permissionRole, binding,
      bindingMember, bindingRole, bindingType, bindingSubject⟩
    refine ⟨permission, rowMember, role, roleMember, binding, bindingMember, ?_⟩
    rw [if_pos ⟨permissionRole, bindingRole, tenant, bindingType, bindingSubject⟩]
    exact List.mem_singleton_self permission

end Database

/-- Two databases that a subject of the tenant cannot tell apart: the tenant's
roles, the permissions of these roles and their bindings to this very subject are
the same rows, and the tenant's servers and policies are the same lists.  All else
is unconstrained. -/
structure AgreeOn (left right : Database) (tenantId : Uuid)
    (subjectType : SubjectType) (subjectId : String) : Prop where
  roles : ∀ role, role.tenantId = tenantId → (role ∈ left.roles ↔ role ∈ right.roles)
  permissions : ∀ permission, ∀ role ∈ left.roles, role.tenantId = tenantId →
    permission.roleId = role.id → (permission ∈ left.permissions ↔ permission ∈ right.permissions)
  bindings : ∀ binding, ∀ role ∈ left.roles, role.tenantId = tenantId →
    binding.roleId = role.id → binding.subjectType = subjectType → binding.subjectId = subjectId →
        (binding ∈ left.bindings ↔ binding ∈ right.bindings)
  servers : left.listServers tenantId = right.listServers tenantId
  policies : left.listPolicies tenantId = right.listPolicies tenantId

theorem AgreeOn.mem_permissions {left right : Database} {tenantId : Uuid}
    {subjectType : SubjectType} {subjectId : String}
    (agree : AgreeOn left right tenantId subjectType subjectId)
    (permission : ToolPermission) :
    permission ∈ left.getPermissionsForSubject tenantId subjectType subjectId ↔
      permission ∈ right.getPermissionsForSubject tenantId subjectType subjectId := by
  rw [Database.mem_getPermissionsForSubject, Database.mem_getPermissionsForSubject]
  constructor
  · rintro ⟨rowMember, role, roleMember, tenant, permissionRole, binding,
      bindingMember, bindingRole, bindingType, bindingSubject⟩
    exact ⟨(agree.permissions permission role roleMember tenant permissionRole).mp
        rowMember, role, (agree.roles role tenant).mp roleMember, tenant,
      permissionRole, binding, (agree.bindings binding role roleMember tenant
        bindingRole bindingType bindingSubject).mp bindingMember, bindingRole,
      bindingType, bindingSubject⟩
  · rintro ⟨rowMember, role, roleMember, tenant, permissionRole, binding,
      bindingMember, bindingRole, bindingType, bindingSubject⟩
    have leftRole := (agree.roles role tenant).mpr roleMember
    exact ⟨(agree.permissions permission role leftRole tenant permissionRole).mpr
        rowMember, role, leftRole, tenant, permissionRole, binding,
      (agree.bindings binding role leftRole tenant bindingRole bindingType
        bindingSubject).mpr bindingMember, bindingRole, bindingType, bindingSubject⟩

theorem AgreeOn.getBySlug_eq {left right : Database} {tenantId : Uuid}
    {subjectType : SubjectType} {subjectId : String}
    (agree : AgreeOn left right tenantId subjectType subjectId) (slug : String) :
    left.getBySlug tenantId slug = right.getBySlug tenantId slug := by
  rw [Database.getBySlug_eq_find_listServers, Database.getBySlug_eq_find_listServers, agree.servers]

end Portcullis.Repositories
