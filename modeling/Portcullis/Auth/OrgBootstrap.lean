import Portcullis.Auth.Federation
import Portcullis.Auth.LicenseService
import Portcullis.Lib.Rehearsal
import Portcullis.Repositories.Audit

/-!
# Organization bootstrap

`create_default_roles` and `bind_owner_to_org_owner` of `app/auth/org_bootstrap.py`, and
the statements of the three handlers that use them: the provisioning of a tenant, the
registration that creates an organisation and the first Clerk signup.  Unique columns and
check constraints are part of the statements' meaning; foreign keys and column widths are
among the faults that may hit any of them.
-/

namespace Portcullis.Auth.OrgBootstrap

open Auth.Accounts Auth.ApiKeys Auth.Federation Auth.LicenseService Lib Lib.Session Models List
open Repositories.Audit (newestHash)

/-! ## Tables -/

def RoleConflict (left right : Role) : Prop :=
  left.id = right.id ∨ left.tenantId = right.tenantId ∧ left.name = right.name

instance : DecidableRel RoleConflict := fun left right =>
  inferInstanceAs (Decidable (left.id = right.id ∨
    left.tenantId = right.tenantId ∧ left.name = right.name))

instance : Std.Symm RoleConflict :=
  ⟨fun _ _ conflict => conflict.imp Eq.symm fun same => ⟨same.1.symm, same.2.symm⟩⟩

def PermissionConflict (left right : ToolPermission) : Prop := left.id = right.id

instance : DecidableRel PermissionConflict := fun left right =>
  inferInstanceAs (Decidable (left.id = right.id))

def BindingConflict (left right : RoleBinding) : Prop :=
  left.id = right.id ∨ left.roleId = right.roleId ∧ left.subjectType = right.subjectType ∧
    left.subjectId = right.subjectId

instance : DecidableRel BindingConflict := fun left right =>
  inferInstanceAs (Decidable (left.id = right.id ∨ left.roleId = right.roleId ∧
    left.subjectType = right.subjectType ∧ left.subjectId = right.subjectId))

structure Store where
  tenants : Table TenantConflict
  users : UserTable
  members : MemberTable
  keys : KeyTable
  organizations : List (Uuid × Uuid)
  roles : Table RoleConflict
  permissions : Table PermissionConflict
  bindings : Table BindingConflict
  licenses : LicenseService.Licenses
  audit : List AuditLog

/-! ## Statements -/

inductive Read where
  | slugTaken (slug : String)
  | getUserById (tenantId userId : Uuid)
  | findUser (userId : Uuid)
  | getUserByEmail (tenantId : Uuid) (email : String)
  | countUsers (tenantId : Uuid)
  | currentLicense (tenantId : Uuid) (choice : Nat)
  | getMemberBySubject (tenantId : Uuid) (subject : String)
  | countMembers (tenantId : Uuid)
  | getRoleByName (tenantId : Uuid) (name : String)
  | getPermissionByPatterns (roleId : Uuid) (serverPattern toolPattern : String)
  | listRoles (tenantId : Uuid)
  | lockAudit (tenantId : Uuid)
  | newestHash (tenantId : Uuid)

/-- The flush of one new row, or of the issuer's count with the row that links the issuer to
the new organisation. -/
inductive Write where
  | tenant (row : Tenant)
  | organization (issuerId tenantId : Uuid) (createdOrgCount : Nat)
  | user (row : User)
  | member (row : OrgMember)
  | role (row : Role)
  | permission (row : ToolPermission)
  | key (row : ApiKey)
  | binding (row : RoleBinding)
  | license (row : StoredLicense)
  | audit (row : AuditLog)

inductive Op where
  | read (read : Read)
  | write (write : Write)

abbrev Found : Read → Type
  | .slugTaken _ => Bool
  | .getUserById _ _ => Option User
  | .findUser _ => Option User
  | .getUserByEmail _ _ => Option User
  | .countUsers _ => Nat
  | .currentLicense _ _ => Option License
  | .getMemberBySubject _ _ => Option OrgMember
  | .countMembers _ => Nat
  | .getRoleByName _ _ => Option Role
  | .getPermissionByPatterns _ _ _ => Option ToolPermission
  | .listRoles _ => List Role
  | .lockAudit _ => Unit
  | .newestHash _ => Option String

abbrev Ans : Op → Type
  | .read read => Found read
  | .write _ => Unit

def named (tenantId : Uuid) (name : String) (role : Role) : Bool :=
  role.tenantId = tenantId && role.name = name

def ruleFor (roleId : Uuid) (serverPattern toolPattern : String) (rule : ToolPermission) : Bool :=
  rule.roleId = roleId && rule.serverPattern = serverPattern && rule.toolPattern = toolPattern

def withOrgCount (issuerId : Uuid) (createdOrgCount : Nat) (user : User) : User :=
  if user.id = issuerId then { user with createdOrgCount := createdOrgCount } else user

theorem withOrgCount_same (issuerId : Uuid) (createdOrgCount : Nat) (user : User) :
    (withOrgCount issuerId createdOrgCount user).id = user.id ∧
      (withOrgCount issuerId createdOrgCount user).tenantId = user.tenantId ∧
      (withOrgCount issuerId createdOrgCount user).email = user.email := by
  unfold withOrgCount
  split <;> exact ⟨rfl, rfl, rfl⟩

def setOrgCount (users : UserTable) (issuerId : Uuid) (createdOrgCount : Nat) : UserTable :=
  users.update (withOrgCount issuerId createdOrgCount) fun left right conflict => by
    obtain ⟨leftId, leftTenant, leftEmail⟩ := withOrgCount_same issuerId createdOrgCount left
    obtain ⟨rightId, rightTenant, rightEmail⟩ := withOrgCount_same issuerId createdOrgCount right
    rw [UserConflict, leftId, leftTenant, leftEmail, rightId, rightTenant, rightEmail] at conflict
    exact conflict

def find (store : Store) : (read : Read) → Found read
  | .slugTaken slug => store.tenants.rows.any fun tenant => tenant.slug = slug
  | .getUserById tenantId userId => store.users.rows.find? (hasId tenantId userId)
  | .findUser userId => store.users.rows.find? fun user => user.id = userId
  | .getUserByEmail tenantId email => getByEmail store.users tenantId email
  | .countUsers tenantId => Accounts.countUsers store.users tenantId
  | .currentLicense tenantId choice =>
    (current store.licenses tenantId choice).map fun license => license.toLicense
  | .getMemberBySubject tenantId subject => getBySubject store.members tenantId subject
  | .countMembers tenantId => Federation.countMembers store.members tenantId
  | .getRoleByName tenantId name => store.roles.rows.find? (named tenantId name)
  | .getPermissionByPatterns roleId serverPattern toolPattern =>
    store.permissions.rows.find? (ruleFor roleId serverPattern toolPattern)
  | .listRoles tenantId => store.roles.rows.filter fun role => role.tenantId = tenantId
  | .lockAudit _ => ()
  | .newestHash tenantId => newestHash (some tenantId) store.audit

/-- Nothing if a constraint is violated. -/
def store (before : Store) : Write → Option Store
  | .tenant row => (before.tenants.insert row).map fun rows => { before with tenants := rows }
  | .organization issuerId tenantId createdOrgCount =>
    if (issuerId, tenantId) ∈ before.organizations then none
    else some { before with
      users := setOrgCount before.users issuerId createdOrgCount
      organizations := before.organizations ++ [(issuerId, tenantId)] }
  | .user row => (before.users.insert row).map fun rows => { before with users := rows }
  | .member row => (before.members.insert row).map fun rows => { before with members := rows }
  | .role row => (before.roles.insert row).map fun rows => { before with roles := rows }
  | .permission row =>
    (before.permissions.insert row).map fun rows => { before with permissions := rows }
  | .key row =>
    (insertKey before.keys row).toOption.map fun rows => { before with keys := rows }
  | .binding row => (before.bindings.insert row).map fun rows => { before with bindings := rows }
  | .license row =>
    if positiveLimits row then
      (before.licenses.insert row).map fun rows => { before with licenses := rows }
    else none
  | .audit row =>
    if before.audit.any fun log => log.id = row.id then none
    else some { before with audit := before.audit ++ [row] }

/-- What a statement answers and leaves. -/
def effect (before : Store) : (op : Op) → Except Rejection (Ans op × Store)
  | .read read => .ok (find before read, before)
  | .write write =>
    match store before write with
    | some after => .ok ((), after)
    | none => .error .violation

def engine : Engine Store Op Ans := .ofEffect effect

/-! ## Default roles -/

inductive DefaultRole where
  | superAdmin
  | orgOwner
  | orgAdmin
  | developer
  | viewer
  deriving DecidableEq, Repr

def DefaultRole.name : DefaultRole → String
  | .superAdmin => "super_admin"
  | .orgOwner => "org_owner"
  | .orgAdmin => "org_admin"
  | .developer => "developer"
  | .viewer => "viewer"

def defaultRoles : List DefaultRole := [.superAdmin, .orgOwner, .orgAdmin, .developer, .viewer]

structure DefaultRule where
  role : DefaultRole
  toolPattern : String
  effect : PermissionEffect
  priority : Int

/-- Every rule is for all servers. -/
def defaultRules : List DefaultRule :=
  [⟨.superAdmin, "*", .allow, 200⟩, ⟨.superAdmin, "billing_*", .deny, 300⟩,
    ⟨.orgOwner, "*", .allow, 100⟩,
    ⟨.orgAdmin, "*", .allow, 50⟩, ⟨.orgAdmin, "billing_*", .deny, 100⟩,
    ⟨.orgAdmin, "org_delete*", .deny, 100⟩,
    ⟨.developer, "server_*", .allow, 50⟩, ⟨.developer, "tool_*", .allow, 50⟩,
    ⟨.developer, "rate_limit_*", .allow, 50⟩, ⟨.developer, "audit_*", .allow, 50⟩,
    ⟨.developer, "billing_*", .deny, 100⟩, ⟨.developer, "org_*", .deny, 100⟩,
    ⟨.developer, "user_*", .deny, 100⟩, ⟨.developer, "role_*", .deny, 100⟩,
    ⟨.viewer, "server_list*", .allow, 50⟩, ⟨.viewer, "tool_list*", .allow, 50⟩,
    ⟨.viewer, "audit_list*", .allow, 50⟩,
    ⟨.viewer, "*_create*", .deny, 100⟩, ⟨.viewer, "*_update*", .deny, 100⟩,
    ⟨.viewer, "*_delete*", .deny, 100⟩, ⟨.viewer, "billing_*", .deny, 100⟩,
    ⟨.viewer, "org_*", .deny, 100⟩]

structure RoleDraws where
  roleId : DefaultRole → Uuid
  ruleId : Nat → Uuid
  bindingId : Uuid

def newRole (tenantId : Uuid) (draws : RoleDraws) (role : DefaultRole) : Role :=
  ⟨draws.roleId role, tenantId, role.name⟩

def rulesFor (roleId : DefaultRole → Uuid) (draws : RoleDraws) : List ToolPermission :=
  defaultRules.zipIdx.map fun (rule, index) =>
    ⟨draws.ruleId index, roleId rule.role, "*", rule.toolPattern, rule.effect, rule.priority⟩

def roleKey (role : Role) : Uuid × String := (role.tenantId, role.name)

def ruleKey (rule : ToolPermission) : Uuid × String × String :=
  (rule.roleId, rule.serverPattern, rule.toolPattern)

section Programs

variable {Failure : Type}

def select (read : Read) : Sql Op Ans Failure (Found read) :=
  query (Op.read read)

def insert (write : Write) : Sql Op Ans Failure Unit := query (Op.write write)

def getOrCreateRole (row : Role) : Sql Op Ans Failure Role := do
  let existing : Option Role ← select (.getRoleByName row.tenantId row.name)
  match existing with
  | some role => pure role
  | none => do
    insert (.role row)
    pure row

def upsertPermission (row : ToolPermission) : Sql Op Ans Failure Unit := do
  let existing : Option ToolPermission ← select
    (.getPermissionByPatterns row.roleId row.serverPattern row.toolPattern)
  match existing with
  | some _ => pure ()
  | none => insert (.permission row)

/-- The ids of the roles, of those that exist and of those that are created. -/
def createRoles (tenantId : Uuid) (draws : RoleDraws) :
    List DefaultRole → Sql Op Ans Failure (DefaultRole → Uuid)
  | [] => pure draws.roleId
  | role :: rest => do
    let created ← getOrCreateRole (newRole tenantId draws role)
    let others ← createRoles tenantId draws rest
    pure (Function.update others role created.id)

def upsertPermissions : List ToolPermission → Sql Op Ans Failure Unit
  | [] => pure ()
  | row :: rest => do
    upsertPermission row
    upsertPermissions rest

def createDefaultRoles (tenantId : Uuid) (draws : RoleDraws) : Sql Op Ans Failure Unit := do
  let roleId ← createRoles tenantId draws defaultRoles
  upsertPermissions (rulesFor roleId draws)

def ownerBinding (roleId apiKeyId bindingId : Uuid) : RoleBinding :=
  ⟨bindingId, roleId, .apiKey, apiKeyId.str⟩

def bindOwnerToOrgOwner (tenantId apiKeyId : Uuid) (draws : RoleDraws) :
    Sql Op Ans Failure Unit := do
  let roles : List Role ← select (.listRoles tenantId)
  match roles.find? fun role => role.name = DefaultRole.orgOwner.name with
  | none => pure ()
  | some role => insert (.binding (ownerBinding role.id apiKeyId draws.bindingId))

end Programs

/-! ### Errors are passed on -/

section Strictness

variable {Failure Value : Type}

theorem strict_select (read : Read) : Strict (select read : Sql Op Ans Failure (Found read)) :=
  strict_query (Op.read read)

theorem strict_insert (write : Write) : Strict (insert write : Sql Op Ans Failure Unit) :=
  strict_query (Op.write write)

theorem loyal_select (read : Read) : Loyal (select read : Sql Op Ans Failure (Found read)) :=
  loyal_query (Op.read read)

theorem loyal_insert (write : Write) : Loyal (insert write : Sql Op Ans Failure Unit) :=
  loyal_query (Op.write write)

theorem blocked_insert (write : Write) (rest : Unit → Sql Op Ans Failure Value) :
    Blocked (insert write >>= rest) :=
  fun _ => trivial

theorem strict_getOrCreateRole (row : Role) :
    Strict (getOrCreateRole row : Sql Op Ans Failure Role) := by
  refine (strict_select _).bind fun old => ?_
  cases old with
  | some role => exact strict_pure role
  | none => exact (strict_insert _).bind fun _ => strict_pure row

theorem strict_upsertPermission (row : ToolPermission) :
    Strict (upsertPermission row : Sql Op Ans Failure Unit) := by
  refine (strict_select _).bind fun old => ?_
  cases old with
  | some rule => exact strict_pure ()
  | none => exact strict_insert _

theorem strict_createRoles (tenantId : Uuid) (draws : RoleDraws) (wanted : List DefaultRole) :
    Strict (createRoles tenantId draws wanted : Sql Op Ans Failure (DefaultRole → Uuid)) := by
  induction wanted with
  | nil => exact strict_pure _
  | cons role rest ih =>
    exact (strict_getOrCreateRole _).bind fun _ => ih.bind fun _ => strict_pure _

theorem strict_upsertPermissions (wanted : List ToolPermission) :
    Strict (upsertPermissions wanted : Sql Op Ans Failure Unit) := by
  induction wanted with
  | nil => exact strict_pure ()
  | cons row rest ih => exact (strict_upsertPermission row).bind fun _ => ih

theorem strict_createDefaultRoles (tenantId : Uuid) (draws : RoleDraws) :
    Strict (createDefaultRoles tenantId draws : Sql Op Ans Failure Unit) :=
  (strict_createRoles tenantId draws defaultRoles).bind fun _ => strict_upsertPermissions _

theorem strict_bindOwnerToOrgOwner (tenantId apiKeyId : Uuid) (draws : RoleDraws) :
    Strict (bindOwnerToOrgOwner tenantId apiKeyId draws : Sql Op Ans Failure Unit) := by
  refine (strict_select _).bind fun roles => ?_
  cases List.find? (fun role : Role => decide (role.name = DefaultRole.orgOwner.name)) roles with
  | none => exact strict_pure ()
  | some role => exact strict_insert _

end Strictness

/-! ## Without faults -/

section Rehearsal

variable {Failure : Type}

theorem rehearse_select (read : Read) (before : Store) :
    rehearse engine (select read : Sql Op Ans Failure (Found read)) before =
      some ⟨find before read, before, 1⟩ :=
  rehearse_query_effect effect (.read read) before

theorem rehearse_insert (write : Write) (before : Store) :
    rehearse engine (insert write : Sql Op Ans Failure Unit) before =
      (store before write).map fun after => ⟨(), after, 1⟩ := by
  refine (rehearse_query_effect effect (.write write) before).trans ?_
  simp only [effect]
  cases store before write <;> rfl

theorem rehearse_getOrCreateRole (row : Role) (before : Store) :
    rehearse engine (getOrCreateRole row : Sql Op Ans Failure Role) before =
      match before.roles.rows.find? (named row.tenantId row.name) with
      | some role => some ⟨role, before, 1⟩
      | none => (store before (.role row)).map fun after => ⟨row, after, 2⟩ := by
  unfold getOrCreateRole
  rw [rehearse_bind, rehearse_select]
  simp only [find, Option.bind_some]
  cases before.roles.rows.find? (named row.tenantId row.name) with
  | some role => rfl
  | none =>
    simp only [rehearse_bind, rehearse_insert]
    cases store before (.role row) <;> rfl

theorem rehearse_upsertPermission (row : ToolPermission) (before : Store) :
    rehearse engine (upsertPermission row : Sql Op Ans Failure Unit) before =
      match before.permissions.rows.find? (ruleFor row.roleId row.serverPattern row.toolPattern) with
      | some _ => some ⟨(), before, 1⟩
      | none => (store before (.permission row)).map fun after => ⟨(), after, 2⟩ := by
  unfold upsertPermission
  rw [rehearse_bind, rehearse_select]
  simp only [find, Option.bind_some]
  cases before.permissions.rows.find? (ruleFor row.roleId row.serverPattern row.toolPattern) with
  | some rule => rfl
  | none =>
    simp only [rehearse_insert]
    cases store before (.permission row) <;> rfl

/-! ### Default roles -/

/-- The id a role has once it is created. -/
def storedRoleId (roles : List Role) (tenantId : Uuid) (draws : RoleDraws) (role : DefaultRole) :
    Uuid :=
  ((roles.find? (named tenantId role.name)).map (·.id)).getD (draws.roleId role)

def missingRoles (roles : List Role) (tenantId : Uuid) (draws : RoleDraws)
    (wanted : List DefaultRole) : List Role :=
  Table.missing roleKey roles (wanted.map (newRole tenantId draws))

theorem named_eq_roleKey (row role : Role) :
    named row.tenantId row.name role = decide (roleKey role = roleKey row) := by
  simp [named, roleKey]

theorem ruleFor_eq_ruleKey (row rule : ToolPermission) :
    ruleFor row.roleId row.serverPattern row.toolPattern rule =
      decide (ruleKey rule = ruleKey row) := by
  simp [ruleFor, ruleKey, Bool.and_assoc]

theorem name_injective : Function.Injective DefaultRole.name := by
  intro left right same
  cases left <;> cases right <;> first | rfl | (simp [DefaultRole.name] at same)

variable {draws : RoleDraws} {tenantId : Uuid} {roles : List Role} {wanted : List DefaultRole}

theorem storedRoleId_append {added role : DefaultRole} (apart : added ≠ role) :
    storedRoleId (roles ++ [newRole tenantId draws added]) tenantId draws role =
      storedRoleId roles tenantId draws role := by
  have unnamed : named tenantId role.name (newRole tenantId draws added) = false := by
    simp [named, newRole, name_injective.ne apart]
  simp [storedRoleId, unnamed]

theorem missingRoles_append {added : DefaultRole} (fresh : added ∉ wanted) :
    missingRoles (roles ++ [newRole tenantId draws added]) tenantId draws wanted =
      missingRoles roles tenantId draws wanted := by
  refine Table.missing_append_of_apart roleKey fun row member => ?_
  obtain ⟨role, wantedRole, rfl⟩ := mem_map.mp member
  exact fun same => fresh (name_injective (Prod.mk.inj same).2 ▸ wantedRole)

def roleIds (roles : List Role) (tenantId : Uuid) (draws : RoleDraws) (wanted : List DefaultRole)
    (role : DefaultRole) : Uuid :=
  if role ∈ wanted then storedRoleId roles tenantId draws role else draws.roleId role

theorem update_roleIds {before after : List Role} {first : DefaultRole} {rest : List DefaultRole}
    (same : ∀ role ∈ rest, role ≠ first → storedRoleId after tenantId draws role =
      storedRoleId before tenantId draws role) :
    Function.update (roleIds after tenantId draws rest) first
        (storedRoleId before tenantId draws first) =
      roleIds before tenantId draws (first :: rest) := by
  funext role
  by_cases here : role = first
  · subst here
    simp [roleIds]
  · by_cases member : role ∈ rest
    · simp [roleIds, here, same role member here]
    · simp [roleIds, here, member]

theorem rehearse_createRoles (tenantId : Uuid) (draws : RoleDraws) (apart : wanted.Nodup)
    (before : Store) :
    rehearse engine (createRoles tenantId draws wanted :
        Sql Op Ans Failure (DefaultRole → Uuid)) before =
      (before.roles.insertAll (missingRoles before.roles.rows tenantId draws wanted)).map
        fun roles =>
          ⟨roleIds before.roles.rows tenantId draws wanted, { before with roles := roles },
            wanted.length + (missingRoles before.roles.rows tenantId draws wanted).length⟩ := by
  induction wanted generalizing before with
  | nil => rfl
  | cons role rest ih =>
    obtain ⟨fresh, apartRest⟩ := nodup_cons.mp apart
    have lookup : ∀ other, named tenantId role.name other =
        decide (roleKey other = roleKey (newRole tenantId draws role)) :=
      named_eq_roleKey (newRole tenantId draws role)
    unfold createRoles
    rw [rehearse_bind, rehearse_getOrCreateRole]
    simp only [rehearse_bind]
    change (match before.roles.rows.find? (named tenantId role.name) with
      | some old => _
      | none => _ : Option _).bind _ = _
    cases found : before.roles.rows.find? (named tenantId role.name) with
    | some old =>
      have present : before.roles.rows.any (fun other =>
          roleKey other = roleKey (newRole tenantId draws role)) = true := by
        simp only [← lookup]
        exact any_eq_true.mpr ⟨old, mem_of_find?_eq_some found,
          List.find?_some found⟩
      have skipped : missingRoles before.roles.rows tenantId draws (role :: rest) =
          missingRoles before.roles.rows tenantId draws rest :=
        Table.missing_cons_of_found roleKey present
      have stored : storedRoleId before.roles.rows tenantId draws role = old.id := by
        simp [storedRoleId, found]
      rw [skipped, Option.bind_some, ih apartRest]
      cases before.roles.insertAll (missingRoles before.roles.rows tenantId draws rest) with
      | none => rfl
      | some roles =>
        simp only [Option.map_some, Option.bind_some, rehearse, pure]
        rw [← stored, update_roleIds fun _ _ _ => rfl]
        simp only [length_cons, Option.some.injEq, Rehearsed.mk.injEq, true_and]
        omega
    | none =>
      have absent : before.roles.rows.any (fun other =>
          roleKey other = roleKey (newRole tenantId draws role)) = false := by
        simp only [← lookup]
        exact any_eq_false.mpr (List.find?_eq_none.mp found)
      have wanting : missingRoles before.roles.rows tenantId draws (role :: rest) =
          newRole tenantId draws role :: missingRoles before.roles.rows tenantId draws rest :=
        Table.missing_cons_of_absent roleKey absent
      have drawn : storedRoleId before.roles.rows tenantId draws role = draws.roleId role := by
        simp [storedRoleId, found]
      simp only [wanting, Table.insertAll, store]
      cases adding : before.roles.insert (newRole tenantId draws role) with
      | none => rfl
      | some added =>
        have grown := (Table.of_insert adding).1
        simp only [Option.map_some, Option.bind_some]
        rw [ih apartRest]
        simp only [grown, missingRoles_append fresh]
        cases added.insertAll (missingRoles before.roles.rows tenantId draws rest) with
        | none => rfl
        | some roles =>
          simp only [Option.map_some, Option.bind_some, rehearse, pure]
          rw [show (newRole tenantId draws role).id = _ from drawn.symm,
            update_roleIds fun _ _ other => storedRoleId_append (Ne.symm other)]
          simp only [length_cons, Option.some.injEq, Rehearsed.mk.injEq, true_and]
          omega

def missingRules (rules wanted : List ToolPermission) : List ToolPermission :=
  Table.missing ruleKey rules wanted

theorem rehearse_upsertPermissions {wanted : List ToolPermission}
    (apart : (wanted.map ruleKey).Nodup) (before : Store) :
    rehearse engine (upsertPermissions wanted : Sql Op Ans Failure Unit) before =
      (before.permissions.insertAll (missingRules before.permissions.rows wanted)).map
        fun permissions => ⟨(), { before with permissions := permissions },
          wanted.length + (missingRules before.permissions.rows wanted).length⟩ := by
  induction wanted generalizing before with
  | nil => rfl
  | cons row rest ih =>
    rw [map_cons, nodup_cons] at apart
    unfold upsertPermissions
    rw [rehearse_bind, rehearse_upsertPermission]
    cases found : before.permissions.rows.find?
        (ruleFor row.roleId row.serverPattern row.toolPattern) with
    | some old =>
      have present : before.permissions.rows.any
          (fun other => ruleKey other = ruleKey row) = true := by
        simp only [← ruleFor_eq_ruleKey]
        exact any_eq_true.mpr ⟨old, mem_of_find?_eq_some found,
          List.find?_some found⟩
      have skipped : missingRules before.permissions.rows (row :: rest) =
          missingRules before.permissions.rows rest :=
        Table.missing_cons_of_found ruleKey present
      rw [skipped, Option.bind_some, ih apart.2]
      cases before.permissions.insertAll (missingRules before.permissions.rows rest) with
      | none => rfl
      | some permissions =>
        simp only [Option.map_some, length_cons, Option.some.injEq,
          Rehearsed.mk.injEq, true_and]
        omega
    | none =>
      have absent : before.permissions.rows.any
          (fun other => ruleKey other = ruleKey row) = false := by
        simp only [← ruleFor_eq_ruleKey]
        exact any_eq_false.mpr (List.find?_eq_none.mp found)
      have wanting : missingRules before.permissions.rows (row :: rest) =
          row :: missingRules before.permissions.rows rest :=
        Table.missing_cons_of_absent ruleKey absent
      simp only [wanting, Table.insertAll, store]
      cases adding : before.permissions.insert row with
      | none => rfl
      | some added =>
        have grown := (Table.of_insert adding).1
        have still : missingRules added.rows rest =
            missingRules before.permissions.rows rest := by
          rw [grown]
          exact Table.missing_append_of_apart ruleKey fun other member same =>
            apart.1 (same ▸ mem_map_of_mem member)
        simp only [Option.map_some, Option.bind_some]
        rw [ih apart.2]
        simp only [still]
        cases added.insertAll (missingRules before.permissions.rows rest) with
        | none => rfl
        | some permissions =>
          simp only [Option.map_some, length_cons, Option.some.injEq,
            Rehearsed.mk.injEq, true_and]
          omega

theorem mem_of_storedRoleId {role : DefaultRole} (member : role ∈ wanted) :
    ⟨storedRoleId roles tenantId draws role, tenantId, role.name⟩ ∈
      roles ++ missingRoles roles tenantId draws wanted := by
  cases found : roles.find? (named tenantId role.name) with
  | some existing =>
    have sel := List.find?_some found
    simp only [named, Bool.and_eq_true, decide_eq_true_eq] at sel
    have same : (⟨storedRoleId roles tenantId draws role, tenantId, role.name⟩ : Role) =
        existing := by
      simp only [storedRoleId, found, Option.map_some, Option.getD_some]
      rw [← sel.1, ← sel.2]
    rw [same]
    exact mem_append_left _ (mem_of_find?_eq_some found)
  | none =>
    have drawn : (⟨storedRoleId roles tenantId draws role, tenantId, role.name⟩ : Role) =
        newRole tenantId draws role := by
      simp [storedRoleId, found, newRole]
    rw [drawn]
    refine mem_append_right _ (mem_filter.mpr ⟨mem_map_of_mem member, ?_⟩)
    have absent := any_eq_false.mpr (List.find?_eq_none.mp found)
    have lookup := named_eq_roleKey (newRole tenantId draws role)
    simp only [← lookup, Bool.not_eq_true']
    exact absent

theorem find?_storedRole {before after : Table RoleConflict} {tenantId : Uuid} {draws : RoleDraws}
    (created : before.insertAll (missingRoles before.rows tenantId draws defaultRoles) =
      some after) (role : DefaultRole) :
    after.rows.find? (named tenantId role.name) =
      some ⟨storedRoleId before.rows tenantId draws role, tenantId, role.name⟩ := by
  refine after.find?_of_mem _ ?_ (by simp [named]) fun other sel => ?_
  · rw [Table.of_insertAll created]
    exact mem_of_storedRoleId (by cases role <;> decide)
  · simp only [named, Bool.and_eq_true, decide_eq_true_eq] at sel
    exact .inr sel

theorem storedRoleId_injective {before after : Table RoleConflict}
    (created : before.insertAll (missingRoles before.rows tenantId draws defaultRoles) =
      some after) : Function.Injective (storedRoleId before.rows tenantId draws) := by
  intro left right same
  have rows := Table.of_insertAll created
  have member : ∀ role : DefaultRole,
      (⟨storedRoleId before.rows tenantId draws role, tenantId, role.name⟩ : Role) ∈
        after.rows := fun role => rows ▸ mem_of_storedRoleId (by cases role <;> decide)
  exact name_injective (congrArg Role.name
    (after.eq_of_conflicts (member left) (member right) (.inl same)))

theorem nodup_rulesFor {roleId : DefaultRole → Uuid} (injective : Function.Injective roleId)
    (draws : RoleDraws) : ((rulesFor roleId draws).map ruleKey).Nodup := by
  have keys : (rulesFor roleId draws).map ruleKey =
      (defaultRules.map fun rule => (rule.role, rule.toolPattern)).map
        fun pair => (roleId pair.1, "*", pair.2) := by
    rfl
  have distinct : (defaultRules.map fun rule => (rule.role, rule.toolPattern)).Nodup := by decide
  rw [keys]
  refine distinct.map fun left right same => ?_
  obtain ⟨sameId, -, sameTool⟩ : roleId left.1 = roleId right.1 ∧ "*" = "*" ∧ left.2 = right.2 := by
    simpa using same
  exact Prod.ext (injective sameId) sameTool

def missingDefaultRules (before : Store) (tenantId : Uuid) (draws : RoleDraws) :
    List ToolPermission :=
  missingRules before.permissions.rows
    (rulesFor (storedRoleId before.roles.rows tenantId draws) draws)

def missingDefaultRoles (before : Store) (tenantId : Uuid) (draws : RoleDraws) : List Role :=
  missingRoles before.roles.rows tenantId draws defaultRoles

/-- One query for each role and each rule, and one insertion for each that is missing. -/
def bootstrapRequests (before : Store) (tenantId : Uuid) (draws : RoleDraws) : Nat :=
  27 + (missingDefaultRoles before tenantId draws).length +
    (missingDefaultRules before tenantId draws).length

theorem rehearse_createDefaultRoles (tenantId : Uuid) (draws : RoleDraws) (before : Store) :
    rehearse engine (createDefaultRoles tenantId draws : Sql Op Ans Failure Unit) before =
      (before.roles.insertAll (missingDefaultRoles before tenantId draws)).bind fun roles =>
        (before.permissions.insertAll (missingDefaultRules before tenantId draws)).map
          fun permissions => ⟨(), { before with roles := roles, permissions := permissions },
            bootstrapRequests before tenantId draws⟩ := by
  have ids : roleIds before.roles.rows tenantId draws defaultRoles =
      storedRoleId before.roles.rows tenantId draws := by
    funext role
    exact if_pos (by cases role <;> decide)
  unfold createDefaultRoles
  rw [rehearse_bind, rehearse_createRoles tenantId draws (by decide), ids]
  change (Option.map _ (before.roles.insertAll (missingDefaultRoles before tenantId draws))).bind _ =
    _
  cases created : before.roles.insertAll (missingDefaultRoles before tenantId draws) with
  | none => rfl
  | some roles =>
    simp only [Option.map_some, Option.bind_some]
    rw [rehearse_upsertPermissions (nodup_rulesFor (storedRoleId_injective created) draws)]
    change Option.map _ (Option.map _ (before.permissions.insertAll
      (missingDefaultRules before tenantId draws))) = _
    cases before.permissions.insertAll (missingDefaultRules before tenantId draws) with
    | none => rfl
    | some permissions =>
      simp only [Option.map_some, Option.some.injEq, Rehearsed.mk.injEq, true_and]
      have roleCount : defaultRoles.length = 5 := rfl
      have ruleCount : (rulesFor (storedRoleId before.roles.rows tenantId draws) draws).length =
          22 := rfl
      change 5 + (missingDefaultRoles before tenantId draws).length +
        (22 + (missingDefaultRules before tenantId draws).length) = _
      unfold bootstrapRequests
      omega

theorem rehearse_bindOwnerToOrgOwner (tenantId apiKeyId : Uuid) (draws : RoleDraws)
    (before : Store) :
    rehearse engine (bindOwnerToOrgOwner tenantId apiKeyId draws : Sql Op Ans Failure Unit) before =
      match before.roles.rows.find? (named tenantId DefaultRole.orgOwner.name) with
      | none => some ⟨(), before, 1⟩
      | some role => (before.bindings.insert (ownerBinding role.id apiKeyId draws.bindingId)).map
          fun bindings => ⟨(), { before with bindings := bindings }, 2⟩ := by
  have lookup : (before.roles.rows.filter fun role => decide (role.tenantId = tenantId)).find?
      (fun role => decide (role.name = DefaultRole.orgOwner.name)) =
        before.roles.rows.find? (named tenantId DefaultRole.orgOwner.name) := by
    rw [List.find?_filter]
    simp only [Bool.decide_and, Bool.decide_eq_true]
    rfl
  unfold bindOwnerToOrgOwner
  rw [rehearse_bind, rehearse_select]
  simp only [find, Option.bind_some, lookup]
  cases before.roles.rows.find? (named tenantId DefaultRole.orgOwner.name) with
  | none => rfl
  | some role =>
    simp only [rehearse_insert, store]
    cases before.bindings.insert (ownerBinding role.id apiKeyId draws.bindingId) <;> rfl

end Rehearsal

end Portcullis.Auth.OrgBootstrap
