import Portcullis.Auth.Provisioning
import Portcullis.Repositories.Database

/-!
# The owner's key

Three handlers end with a key for the owner of an organisation: `provision_tenant`, the
registration with flow `create` of `app/api/auth.py`, and the first signup of
`app/api/clerk.py`.  Each binds the key to the role `org_owner` after `issue_key` has
committed; the registration returns without a further commit, and its binding is lost with
the session.
-/

namespace Portcullis.Auth.OwnerBootstrap

open Auth.Accounts Auth.ApiKeys List
open Auth.Federation (ClerkLogin clerkRole federatedUser firstOrgRole invalidCredentials
  tokenArgs)
open Auth.Licenses (requireLicense)
open Auth.OrgBootstrap Auth.Provisioning Auth.Rbac Lib Lib.Session Models
open Repositories (Database)
open Repositories.Audit (HashPayload)

/-! ## Handlers -/

/-- `licenseChoice` is what the database takes among licenses of one timestamp. -/
structure SignupDraws where
  account : Draws
  roles : RoleDraws
  licenseChoice : Nat

abbrev Handler := Sql Op Ans Failure

section Handlers

variable (service : Service)

variable (draws : SignupDraws)

def sessionKey (userId : Uuid) (email : String) : ApiKey :=
  issuedRow service.argon2 (tokenArgs draws.account defaultTenantId userId email)
    service.peppers.activePepper

def licensed (license : Option License) (now : Instant) (users : Nat) : Except Failure Unit :=
  (requireLicense license now users 0).mapError fun error => .http 402 error.message

def registerCreate (body : RegisterRequest) : Handler AuthResponse := do
  let existing : Option User ← select (.getUserByEmail defaultTenantId body.email)
  if existing.isSome then refuse (.http 409 "An account with this email already exists")
  else do
    let users : Nat ← select (.countUsers defaultTenantId)
    let license : Option License ← select (.currentLicense defaultTenantId draws.licenseChoice)
    check (licensed license draws.account.now (users + 1))
    let again : Option User ← select (.getUserByEmail defaultTenantId body.email)
    if again.any atLimit then
      refuse (.http 403 "Super admin has reached the maximum limit of 2 organizations")
    else do
      let user := newUser body draws.account
        (service.peppers.passwords.hashPassword service.argon2 draws.account.passwordSalt
          body.password) body.orgName .approved (some .orgOwner)
      insert (.user user)
      createDefaultRoles defaultTenantId draws.roles
      insert (.member ⟨draws.account.memberId, defaultTenantId, user.id.str, .orgOwner, none⟩)
      insert (.key (sessionKey service draws user.id user.email))
      commit -- the end of `issue_key`
      bindOwnerToOrgOwner defaultTenantId draws.account.keyId draws.roles
      pure ⟨draws.account.keyText.plaintext, user⟩

/-- `OrgMemberCreate` and its insertion. -/
def linkMember (subject : String) (role : OrgMemberRole) : Handler Unit :=
  if 1 ≤ subject.length ∧ subject.length ≤ 500 then
    insert (.member ⟨draws.account.memberId, defaultTenantId, subject, role, none⟩)
  else refuse (.http 500 "Internal Server Error")

def readBack (userId : Uuid) : Handler AuthResponse := do
  let user : Option User ← select (.getUserById defaultTenantId userId)
  match user with
  | some user => pure ⟨draws.account.keyText.plaintext, user⟩
  | none => refuse (.http 500 "Internal Server Error")

def issueSession (user : User) (isOwner : Bool) : Handler AuthResponse := do
  insert (.key (sessionKey service draws user.id user.email))
  commit -- the end of `issue_key`
  if isOwner then bindOwnerToOrgOwner defaultTenantId draws.account.keyId draws.roles else pure ()
  commit
  readBack draws user.id

def enterMember (email : String) : Handler AuthResponse := do
  let user : Option User ← select (.getUserByEmail defaultTenantId email)
  match user with
  | none => refuse invalidCredentials
  | some user =>
    if !user.isActive then refuse invalidCredentials
    else issueSession service draws user false

def linkAccount (subject : String) (user : User) : Handler AuthResponse :=
  if user.approvalStatus = .pending then
    refuse (.http 403 "Your account is pending approval by an organization admin.")
  else if user.approvalStatus = .rejected then
    refuse (.http 403 "Your account has been denied.")
  else if !user.isActive then refuse invalidCredentials
  else do
    let memberCount : Nat ← select (.countMembers defaultTenantId)
    linkMember draws subject (clerkRole memberCount)
    issueSession service draws user false

def signupUser (login : ClerkLogin) (memberCount : Nat) : User :=
  federatedUser draws.account login.email
    (if login.fullName = "" then login.email else login.fullName)
    (service.peppers.passwords.hashPassword service.argon2 draws.account.passwordSalt
      login.generatedPassword) (firstOrgRole memberCount)

/-- A fresh signup; the first member owns the system. -/
def signUp (login : ClerkLogin) : Handler AuthResponse := do
  let memberCount : Nat ← select (.countMembers defaultTenantId)
  insert (.user (signupUser service draws login memberCount))
  createDefaultRoles defaultTenantId draws.roles
  linkMember draws login.subject (clerkRole memberCount)
  issueSession service draws (signupUser service draws login memberCount) (decide (memberCount = 0))

/-- `clerk_sync`, once the session token is verified and the address resolved. -/
def clerkSync (login : ClerkLogin) : Handler AuthResponse := do
  let member : Option OrgMember ← select (.getMemberBySubject defaultTenantId login.subject)
  match member with
  | some _ => enterMember service draws login.email
  | none => do
    let user : Option User ← select (.getUserByEmail defaultTenantId login.email)
    match user with
    | some user => linkAccount service draws login.subject user
    | none => signUp service draws login

end Handlers

/-! ## What is left when the session is closed -/

/-- The three paths on which the caller becomes the owner of an organisation. -/
inductive Signup where
  | register (draws : SignupDraws) (body : RegisterRequest)
  | provision (draws : TenantDraws) (request : TenantRequest)
  | clerk (draws : SignupDraws) (login : ClerkLogin)

namespace Signup

def tenantId : Signup → Uuid
  | .register _ _ => defaultTenantId
  | .provision draws _ => draws.tenantId
  | .clerk _ _ => defaultTenantId

def keyId : Signup → Uuid
  | .register draws _ => draws.account.keyId
  | .provision draws _ => draws.account.keyId
  | .clerk draws _ => draws.account.keyId

def roleDraws : Signup → RoleDraws
  | .register draws _ => draws.roles
  | .provision draws _ => draws.roles
  | .clerk draws _ => draws.roles

/-- A registration that creates an organisation, or a Clerk account that is unknown while
the default tenant has no members. -/
def First (before : Store) : Signup → Prop
  | .register _ body => body.flow = .create
  | .provision _ _ => True
  | .clerk _ login =>
    find before (.getMemberBySubject defaultTenantId login.subject) = none ∧
      find before (.getUserByEmail defaultTenantId login.email) = none ∧
      find before (.countMembers defaultTenantId) = 0

/-- The handler commits once more after it has bound the key. -/
def CommitsBinding : Signup → Prop
  | .register _ _ => False
  | .provision _ _ => True
  | .clerk _ _ => True

end Signup

/-- A session that is closed loses what it has not committed. -/
def closed {Error Value : Type} (ended : Except Error Value × Connection Store Op Ans) :
    Option Store :=
  match ended.1 with
  | .ok _ => some ended.2.committed
  | .error _ => none

/-- The database after a handler that has returned. -/
def Signup.committed (service : Service) (hash : HashPayload → String) (before : Store)
    (faults : List Bool) : Signup → Option Store
  | .register draws body =>
    closed (conduct engine (connect before faults) (registerCreate service draws body))
  | .provision draws request =>
    closed (conduct engine (connect before faults) (provisionTenant service hash request draws))
  | .clerk draws login =>
    closed (conduct engine (connect before faults) (clerkSync service draws login))

/-- `RbacRepository.get_permissions_for_subject` for a key. -/
def rulesOfKey (store : Store) (tenantId keyId : Uuid) : List ToolPermission :=
  Database.getPermissionsForSubject
    ⟨[], store.roles.rows, store.bindings.rows, store.permissions.rows, []⟩ tenantId .apiKey
    keyId.str

def AllowsEverything (fnmatchcase : String → String → Bool) (keyId : Uuid)
    (rules : List ToolPermission) : Prop :=
  ∀ serverSlug toolName,
    (evaluatePermission fnmatchcase keyId.str serverSlug toolName rules).allowed = true

/-- The stored key is bound to the owner role of its tenant and may call every tool. -/
structure Durable (fnmatchcase : String → String → Bool) (after : Store) (tenantId keyId : Uuid) :
    Prop where
  key : ∃ key ∈ after.keys.rows, key.id = keyId ∧ key.tenantId = tenantId
  bound : ∃ role ∈ after.roles.rows, role.tenantId = tenantId ∧
    role.name = DefaultRole.orgOwner.name ∧ ∃ binding ∈ after.bindings.rows,
      binding.roleId = role.id ∧ binding.subjectType = .apiKey ∧ binding.subjectId = keyId.str
  allowed : AllowsEverything fnmatchcase keyId (rulesOfKey after tenantId keyId)

/-! ### Rules an owner meets -/

/-- A binding of the key that is there before the key is. -/
def boundBefore (before : Store) (tenantId : Uuid) (draws : RoleDraws) (keyId roleId : Uuid) :
    Bool :=
  (before.roles.rows ++ missingDefaultRoles before tenantId draws).any fun role =>
    decide (role.tenantId = tenantId) && decide (roleId = role.id) &&
      before.bindings.rows.any fun binding =>
        decide (binding.roleId = role.id) && decide (binding.subjectType = .apiKey) &&
          decide (binding.subjectId = keyId.str)

/-- The stored rules and the default rules that are missing, of the owner role and of what
the key is bound to already. -/
def ownerRules (before : Store) (tenantId : Uuid) (draws : RoleDraws) (keyId : Uuid) :
    List ToolPermission :=
  (before.permissions.rows ++ missingDefaultRules before tenantId draws).filter fun rule =>
    decide (rule.roleId = storedRoleId before.roles.rows tenantId draws .orgOwner) ||
      boundBefore before tenantId draws keyId rule.roleId

/-- What `issue_key` commits for an owner. -/
structure Founded (before after : Store) (tenantId keyId : Uuid) (draws : RoleDraws) : Prop where
  roles : before.roles.insertAll (missingDefaultRoles before tenantId draws) = some after.roles
  permissions : before.permissions.insertAll (missingDefaultRules before tenantId draws) =
    some after.permissions
  bindings : after.bindings = before.bindings
  key : ∃ key ∈ after.keys.rows, key.id = keyId ∧ key.tenantId = tenantId

section Founded

variable {before middle : Store} {tenantId keyId : Uuid} {draws : RoleDraws}

def firstBinding (before : Store) (tenantId keyId : Uuid) (draws : RoleDraws) : RoleBinding :=
  ownerBinding (storedRoleId before.roles.rows tenantId draws .orgOwner) keyId draws.bindingId

theorem Founded.owner_role (founded : Founded before middle tenantId keyId draws) :
    middle.roles.rows.find? (named tenantId DefaultRole.orgOwner.name) =
      some ⟨storedRoleId before.roles.rows tenantId draws .orgOwner, tenantId,
        DefaultRole.orgOwner.name⟩ :=
  find?_storedRole founded.roles .orgOwner

theorem Founded.eq_owner_role (founded : Founded before middle tenantId keyId draws) {role : Role}
    (stored : role ∈ middle.roles.rows) (tenant : role.tenantId = tenantId)
    (name : role.name = DefaultRole.orgOwner.name) :
    role = ⟨storedRoleId before.roles.rows tenantId draws .orgOwner, tenantId,
      DefaultRole.orgOwner.name⟩ :=
  middle.roles.eq_of_conflicts stored (mem_of_find?_eq_some founded.owner_role)
    (.inr ⟨tenant, name⟩)

theorem mem_rulesOfKey_iff (founded : Founded before middle tenantId keyId draws)
    {after : Store} (roles : after.roles = middle.roles)
    (perms : after.permissions = middle.permissions)
    (binding : before.bindings.insert (firstBinding before tenantId keyId draws) =
      some after.bindings) (rule : ToolPermission) :
    rule ∈ rulesOfKey after tenantId keyId ↔ rule ∈ ownerRules before tenantId draws keyId := by
  have roleRows := Table.of_insertAll founded.roles
  have ownerIn := mem_of_find?_eq_some founded.owner_role
  rw [rulesOfKey, Database.mem_getPermissionsForSubject, ownerRules, mem_filter]
  simp only [roles, perms, Table.of_insertAll founded.permissions,
    (Table.of_insert binding).1, boundBefore, Bool.or_eq_true, decide_eq_true_eq, any_eq_true,
    Bool.and_eq_true, ← roleRows, and_assoc]
  refine and_congr_right fun _ => ⟨?_, ?_⟩
  · rintro ⟨role, stored, tenant, ofRole, bound, member, toRole, subjectType, subject⟩
    rcases mem_append.mp member with old | new
    · exact .inr ⟨role, stored, tenant, ofRole, bound, old, toRole, subjectType, subject⟩
    · rw [mem_singleton] at new
      rw [new] at toRole
      exact .inl (ofRole.trans toRole.symm)
  · rintro (owner | ⟨role, stored, tenant, ofRole, bound, member, toRole, subjectType, subject⟩)
    · exact ⟨_, ownerIn, rfl, owner, _, mem_append_right _ (mem_singleton_self _), rfl,
        rfl, rfl⟩
    · exact ⟨role, stored, tenant, ofRole, bound, mem_append_left _ member, toRole,
        subjectType, subject⟩

theorem durable_iff_allows (fnmatchcase : String → String → Bool)
    (founded : Founded before middle tenantId keyId draws) {after : Store}
    (keys : after.keys = middle.keys) (roles : after.roles = middle.roles)
    (perms : after.permissions = middle.permissions)
    (binding : before.bindings.insert (firstBinding before tenantId keyId draws) =
      some after.bindings) :
    Durable fnmatchcase after tenantId keyId ↔
      AllowsEverything fnmatchcase keyId (ownerRules before tenantId draws keyId) := by
  have sameVerdict : ∀ serverSlug toolName,
      (evaluatePermission fnmatchcase keyId.str serverSlug toolName
          (rulesOfKey after tenantId keyId)).allowed =
        (evaluatePermission fnmatchcase keyId.str serverSlug toolName
          (ownerRules before tenantId draws keyId)).allowed := fun serverSlug toolName =>
    allowed_congr fnmatchcase keyId.str serverSlug toolName _ _
      (mem_rulesOfKey_iff founded roles perms binding)
  constructor
  · intro durable serverSlug toolName
    rw [← sameVerdict]
    exact durable.allowed serverSlug toolName
  · intro allows
    refine ⟨keys ▸ founded.key, ?_, fun serverSlug toolName => ?_⟩
    · rw [roles]
      exact ⟨_, mem_of_find?_eq_some founded.owner_role, rfl, rfl, _,
        Table.mem_of_insert binding, rfl, rfl, rfl⟩
    · rw [sameVerdict]
      exact allows serverSlug toolName

theorem Founded.not_durable (fnmatchcase : String → String → Bool)
    (founded : Founded before middle tenantId keyId draws) {bindings : Table BindingConflict}
    (binding : before.bindings.insert (firstBinding before tenantId keyId draws) = some bindings) :
    ¬ Durable fnmatchcase middle tenantId keyId := by
  intro durable
  obtain ⟨role, stored, tenant, name, bound, member, toRole, subjectType, subject⟩ := durable.bound
  rw [founded.eq_owner_role stored tenant name] at toRole
  rw [founded.bindings] at member
  exact (Table.of_insert binding).2 bound member (.inr ⟨toRole, subjectType, subject⟩)

end Founded

/-! ### Handlers that return -/

section Returned

variable {Failure Value : Type} {connection after : Connection Store Op Ans}
  {committed data : Store} {result : Value}

theorem returned_pure (shows : Shows engine connection committed data) {value : Value}
    (ret : conduct engine connection (pure value : Sql Op Ans Failure Value) =
      (.ok result, after)) : after.committed = committed := by
  have same : connection = after := congrArg Prod.snd ret
  rw [← same, shows.committed_eq]

theorem returned_select (shows : Shows engine connection committed data) {read : Read}
    {rest : Found read → Sql Op Ans Failure Value}
    (ret : conduct engine connection (select read >>= rest) = (.ok result, after)) :
    ∃ next, Shows engine next committed data ∧
      conduct engine next (rest (find data read)) = (.ok result, after) := by
  obtain ⟨value, next, sel, onward⟩ := returned_bind ret
  obtain ⟨done, rehearsed, rfl, shown⟩ := returned_strict shows (strict_select read) sel
  cases rehearsed
  exact ⟨next, shown, onward⟩

variable {rest : Unit → Sql Op Ans Failure Value}

theorem returned_insert (shows : Shows engine connection committed data) {write : Write}
    (ret : conduct engine connection (insert write >>= rest) = (.ok result, after)) :
    ∃ next stored, store data write = some stored ∧ Shows engine next committed stored ∧
      conduct engine next (rest ()) = (.ok result, after) := by
  obtain ⟨value, next, ins, onward⟩ := returned_bind ret
  obtain ⟨done, rehearsed, -, shown⟩ := returned_strict shows (strict_insert write) ins
  rw [rehearse_insert] at rehearsed
  obtain ⟨stored, storing, rfl⟩ := Option.map_eq_some_iff.mp rehearsed
  exact ⟨next, stored, storing, shown, onward⟩

theorem returned_check {Checked : Type} {outcome : Except Failure Checked}
    {rest : Checked → Sql Op Ans Failure Value}
    (ret : conduct engine connection (check outcome >>= rest) = (.ok result, after)) :
    ∃ value, conduct engine connection (rest value) = (.ok result, after) := by
  cases outcome with
  | error failure => cases ret
  | ok value => exact ⟨value, ret⟩

theorem returned_createDefaultRoles (shows : Shows engine connection committed data)
    {tenantId : Uuid} {draws : RoleDraws}
    (ret : conduct engine connection (createDefaultRoles tenantId draws >>= rest) =
      (.ok result, after)) :
    ∃ next roles permissions,
      data.roles.insertAll (missingDefaultRoles data tenantId draws) = some roles ∧
        data.permissions.insertAll (missingDefaultRules data tenantId draws) = some permissions ∧
        Shows engine next committed
          { data with roles := roles, permissions := permissions } ∧
        conduct engine next (rest ()) = (.ok result, after) := by
  obtain ⟨value, next, created, onward⟩ := returned_bind ret
  obtain ⟨done, rehearsed, -, shown⟩ :=
    returned_strict shows (strict_createDefaultRoles tenantId draws) created
  rw [rehearse_createDefaultRoles] at rehearsed
  obtain ⟨roles, addRoles, rehearsed⟩ := Option.bind_eq_some_iff.mp rehearsed
  obtain ⟨permissions, addRules, rfl⟩ := Option.map_eq_some_iff.mp rehearsed
  exact ⟨next, roles, permissions, addRoles, addRules, shown, onward⟩

theorem returned_commit_bind (shows : Shows engine connection committed data)
    (ret : conduct engine connection (commit >>= rest) = (.ok result, after)) :
    ∃ next, Shows engine next data data ∧ conduct engine next (rest ()) = (.ok result, after) := by
  obtain ⟨value, next, ended, onward⟩ := returned_bind ret
  exact ⟨next, returned_commit shows ended, onward⟩

theorem returned_bindOwner {before : Store} {tenantId keyId : Uuid} {draws : RoleDraws}
    (shows : Shows engine connection committed data)
    (founded : Founded before data tenantId keyId draws)
    (ret : conduct engine connection (bindOwnerToOrgOwner tenantId keyId draws >>= rest) =
      (.ok result, after)) :
    ∃ next bindings,
      before.bindings.insert (firstBinding before tenantId keyId draws) = some bindings ∧
        Shows engine next committed { data with bindings := bindings } ∧
        conduct engine next (rest ()) = (.ok result, after) := by
  obtain ⟨value, next, bound, onward⟩ := returned_bind ret
  obtain ⟨done, rehearsed, -, shown⟩ :=
    returned_strict shows (strict_bindOwnerToOrgOwner tenantId keyId draws) bound
  rw [rehearse_bindOwnerToOrgOwner, founded.owner_role] at rehearsed
  obtain ⟨bindings, binding, rfl⟩ := Option.map_eq_some_iff.mp rehearsed
  rw [founded.bindings] at binding
  exact ⟨next, bindings, binding, shown, onward⟩

end Returned

section Paths

variable {service : Service} {hash : HashPayload → String} {before : Store}
  {connection after : Connection Store Op Ans}

variable {draws : SignupDraws} {response : AuthResponse}

theorem sessionKey_stored {userId : Uuid} {email : String} {data keyed : Store}
    (keying : store data (.key (sessionKey service draws userId email)) = some keyed) :
    keyed = { data with keys := keyed.keys } ∧
      ∃ key ∈ keyed.keys.rows, key.id = draws.account.keyId ∧ key.tenantId = defaultTenantId := by
  obtain ⟨keys, addKey, rfl⟩ := Option.map_eq_some_iff.mp keying
  obtain ⟨-, stored⟩ := insertKey_ok_iff.mp (ok_of_toOption addKey)
  exact ⟨rfl, _, Table.mem_of_insert stored, rfl, rfl⟩

theorem returned_register {body : RegisterRequest} (shows : Shows engine connection before before)
    (ret : conduct engine connection (registerCreate service draws body) =
      (.ok response, after)) :
    Founded before after.committed defaultTenantId draws.account.keyId draws.roles ∧
      ∃ bindings, before.bindings.insert
        (firstBinding before defaultTenantId draws.account.keyId draws.roles) = some bindings := by
  obtain ⟨_, shows, ret⟩ := returned_select shows ret
  split at ret
  · cases ret
  obtain ⟨_, shows, ret⟩ := returned_select shows ret
  obtain ⟨_, shows, ret⟩ := returned_select shows ret
  obtain ⟨_, ret⟩ := returned_check ret
  obtain ⟨_, shows, ret⟩ := returned_select shows ret
  split at ret
  · cases ret
  obtain ⟨_, joined, joining, shows, ret⟩ := returned_insert shows ret
  obtain ⟨users, _, rfl⟩ := Option.map_eq_some_iff.mp joining
  obtain ⟨_, roles, perms, addRoles, addRules, shows, ret⟩ :=
    returned_createDefaultRoles shows ret
  obtain ⟨_, linked, linking, shows, ret⟩ := returned_insert shows ret
  obtain ⟨members, _, rfl⟩ := Option.map_eq_some_iff.mp linking
  obtain ⟨_, keyed, keying, shows, ret⟩ := returned_insert shows ret
  obtain ⟨same, key⟩ := sessionKey_stored keying
  obtain ⟨_, shows, ret⟩ := returned_commit_bind shows ret
  have founded : Founded before keyed defaultTenantId draws.account.keyId draws.roles := by
    rw [same]
    exact ⟨addRoles, addRules, rfl, key⟩
  obtain ⟨_, bindings, binding, shows, ret⟩ := returned_bindOwner shows founded ret
  rw [returned_pure shows ret]
  exact ⟨founded, bindings, binding⟩

theorem returned_linkMember {subject : String} {role : OrgMemberRole} {committed data : Store}
    {rest : Unit → Handler AuthResponse} (shows : Shows engine connection committed data)
    (ret : conduct engine connection (linkMember draws subject role >>= rest) =
      (.ok response, after)) :
    ∃ next members, Shows engine next committed { data with members := members } ∧
      conduct engine next (rest ()) = (.ok response, after) := by
  unfold linkMember at ret
  split at ret
  · obtain ⟨next, linked, linking, shown, onward⟩ := returned_insert shows ret
    obtain ⟨members, _, rfl⟩ := Option.map_eq_some_iff.mp linking
    exact ⟨next, members, shown, onward⟩
  · cases ret

theorem returned_readBack {userId : Uuid} {committed data : Store}
    (shows : Shows engine connection committed data)
    (ret : conduct engine connection (readBack draws userId) = (.ok response, after)) :
    after.committed = committed := by
  obtain ⟨_, shows, ret⟩ := returned_select shows ret
  split at ret
  · exact returned_pure shows ret
  · cases ret

/-- A path that commits after it has bound the key. -/
def Bound (before after : Store) (tenantId keyId : Uuid) (draws : RoleDraws) : Prop :=
  ∃ middle, Founded before middle tenantId keyId draws ∧ after.keys = middle.keys ∧
    after.roles = middle.roles ∧ after.permissions = middle.permissions ∧
    before.bindings.insert (firstBinding before tenantId keyId draws) = some after.bindings

theorem returned_clerk {login : ClerkLogin} (shows : Shows engine connection before before)
    (first : Signup.First before (.clerk draws login))
    (ret : conduct engine connection (clerkSync service draws login) = (.ok response, after)) :
    Bound before after.committed defaultTenantId draws.account.keyId draws.roles := by
  obtain ⟨unknown, unregistered, memberless⟩ := first
  obtain ⟨_, shows, ret⟩ := returned_select shows ret
  rw [unknown] at ret
  obtain ⟨_, shows, ret⟩ := returned_select shows ret
  rw [unregistered] at ret
  obtain ⟨_, shows, ret⟩ := returned_select shows ret
  rw [memberless] at ret
  obtain ⟨_, joined, joining, shows, ret⟩ := returned_insert shows ret
  obtain ⟨users, _, rfl⟩ := Option.map_eq_some_iff.mp joining
  obtain ⟨_, roles, perms, addRoles, addRules, shows, ret⟩ :=
    returned_createDefaultRoles shows ret
  obtain ⟨_, members, shows, ret⟩ := returned_linkMember shows ret
  obtain ⟨_, keyed, keying, shows, ret⟩ := returned_insert shows ret
  obtain ⟨same, key⟩ := sessionKey_stored keying
  obtain ⟨_, shows, ret⟩ := returned_commit_bind shows ret
  have founded : Founded before keyed defaultTenantId draws.account.keyId draws.roles := by
    rw [same]
    exact ⟨addRoles, addRules, rfl, key⟩
  obtain ⟨_, bindings, binding, shows, ret⟩ := returned_bindOwner shows founded ret
  obtain ⟨_, shows, ret⟩ := returned_commit_bind shows ret
  rw [returned_readBack shows ret]
  exact ⟨keyed, founded, rfl, rfl, rfl, binding⟩

theorem returned_provision {draws : TenantDraws} {request : TenantRequest}
    {result : ProvisionTenantResult} (shows : Shows engine connection before before)
    (ret : conduct engine connection (provisionTenant service hash request draws) =
      (.ok result, after)) :
    Bound before after.committed draws.tenantId draws.account.keyId draws.roles := by
  obtain ⟨_, _, opening, ret⟩ := returned_bind ret
  obtain ⟨done, rehearsed, -, shows⟩ :=
    returned_strict shows (strict_openTenant service request draws) opening
  rw [rehearse_openTenant] at rehearsed
  obtain ⟨middle, opening, rfl⟩ := Option.map_eq_some_iff.mp rehearsed
  obtain ⟨-, opened⟩ := opened_some opening
  have founded : Founded before middle draws.tenantId draws.account.keyId draws.roles :=
    ⟨opened.roles, opened.permissions, opened.bindings, _, opened.key, rfl, rfl⟩
  obtain ⟨_, shows, ret⟩ := returned_commit_bind shows ret
  obtain ⟨_, _, finishing, ret⟩ := returned_bind ret
  obtain ⟨done, rehearsed, -, shows⟩ :=
    returned_strict shows (strict_finishTenant hash request draws) finishing
  rw [rehearse_finishTenant hash middle request draws opened.owner_role] at rehearsed
  obtain ⟨finish, finishing, rfl⟩ := Option.map_eq_some_iff.mp rehearsed
  obtain ⟨-, -, -, bindings, licenses, audit, stored, binding, -⟩ := finished_some finishing
  rw [opened.bindings] at binding
  obtain ⟨_, shows, ret⟩ := returned_commit_bind shows ret
  rw [returned_pure shows ret]
  rw [stored]
  exact ⟨middle, founded, rfl, rfl, rfl, binding⟩

end Paths

theorem of_closed {Error Value : Type} {ended : Except Error Value × Connection Store Op Ans}
    {after : Store} (left : closed ended = some after) :
    ∃ value last, ended = (.ok value, last) ∧ last.committed = after := by
  obtain ⟨outcome, last⟩ := ended
  cases outcome with
  | error error => cases left
  | ok value => exact ⟨value, last, rfl, Option.some.inj left⟩

/-- After a handler that has returned, the owner's key is bound in the committed tables and
may call every tool exactly if the handler commits after binding the key and the rules of
the owner role allow everything. -/
theorem owner_bootstrap_durable_iff (fnmatchcase : String → String → Bool) (service : Service)
    (hash : HashPayload → String) (before after : Store) (faults : List Bool) (signup : Signup)
    (first : signup.First before)
    (returned : signup.committed service hash before faults = some after) :
    Durable fnmatchcase after signup.tenantId signup.keyId ↔
      signup.CommitsBinding ∧ AllowsEverything fnmatchcase signup.keyId
        (ownerRules before signup.tenantId signup.roleDraws signup.keyId) := by
  have shows : Shows engine (connect before faults) before before :=
    ⟨[], faults, rfl, rfl⟩
  have of_bound : Bound before after signup.tenantId signup.keyId signup.roleDraws →
      (Durable fnmatchcase after signup.tenantId signup.keyId ↔
        AllowsEverything fnmatchcase signup.keyId
          (ownerRules before signup.tenantId signup.roleDraws signup.keyId)) := by
    rintro ⟨middle, founded, keys, roles, perms, binding⟩
    exact durable_iff_allows fnmatchcase founded keys roles perms binding
  cases signup with
  | register draws body =>
    obtain ⟨response, last, ended, rfl⟩ := of_closed returned
    obtain ⟨founded, bindings, binding⟩ := returned_register shows ended
    exact iff_of_false (founded.not_durable fnmatchcase binding) fun ⟨commits, _⟩ => commits
  | provision draws request =>
    obtain ⟨result, last, ended, rfl⟩ := of_closed returned
    rw [of_bound (returned_provision shows ended)]
    exact (and_iff_right trivial).symm
  | clerk draws login =>
    obtain ⟨response, last, ended, rfl⟩ := of_closed returned
    rw [of_bound (returned_clerk shows first ended)]
    exact (and_iff_right trivial).symm

theorem allowsEverything_of_allows {keyId : Uuid} {rules : List ToolPermission}
    (full : ∃ rule ∈ rules, rule.serverPattern = "*" ∧ rule.toolPattern = "*")
    (allows : ∀ rule ∈ rules, rule.effect = .allow) :
    AllowsEverything Glob.fnmatchcase keyId rules := by
  intro serverSlug toolName
  rw [allowed_iff_topRules_allow]
  refine ⟨?_, fun rule top => allows rule top.1⟩
  obtain ⟨rule, member, anyServer, anyTool⟩ := full
  refine ⟨rule, member, ?_⟩
  rw [ruleMatches, anyServer, anyTool, Glob.fnmatchcase_star, Glob.fnmatchcase_star]
  rfl

open Auth.Deprovisioning (sampleDraws sampleService)

/-- In a tenant that is provisioned first of all, only the default rule applies. -/
theorem acme_owner_durable :
    ∃ after, (Signup.provision acmeDraws (acme 5)).committed sampleService (fun _ => "")
        emptyStore [] = some after ∧ Durable Glob.fnmatchcase after ⟨7⟩ ⟨4⟩ := by
  have returns : ((Signup.provision acmeDraws (acme 5)).committed sampleService (fun _ => "")
      emptyStore []).isSome = true := by decide +kernel
  obtain ⟨after, ret⟩ := Option.isSome_iff_exists.mp returns
  refine ⟨after, ret, (owner_bootstrap_durable_iff Glob.fnmatchcase sampleService
    (fun _ => "") emptyStore after [] (.provision acmeDraws (acme 5)) trivial ret).mpr
      ⟨trivial, allowsEverything_of_allows ?_ ?_⟩⟩
  · decide +kernel
  · decide +kernel

def adaDraws : SignupDraws := ⟨sampleDraws, roleDraws 100, 0⟩

def adaBody : RegisterRequest :=
  ⟨"Ada", "ada@example.com", "correct horse", .create, none, none, none⟩

/-- The first registration hands out a key that no committed binding mentions. -/
theorem registration_loses_binding : ∃ after, (Signup.register adaDraws adaBody).First emptyStore ∧
      (Signup.register adaDraws adaBody).committed sampleService (fun _ => "") emptyStore [] =
        some after ∧
      after.keys.rows.map (·.id) = [⟨4⟩] ∧ after.bindings.rows = [] ∧
      ¬ Durable Glob.fnmatchcase after defaultTenantId ⟨4⟩ := by
  have ends : ((Signup.register adaDraws adaBody).committed sampleService (fun _ => "")
      emptyStore []).map (fun after => (after.keys.rows.map (·.id), after.bindings.rows)) =
        some ([⟨4⟩], []) := by decide +kernel
  obtain ⟨after, ret, tables⟩ := Option.map_eq_some_iff.mp ends
  obtain ⟨keys, bindings⟩ := Prod.mk.inj tables
  refine ⟨after, rfl, ret, keys, bindings, fun durable => ?_⟩
  obtain ⟨role, _, _, _, binding, member, _⟩ := durable.bound
  rw [bindings] at member
  exact absurd member not_mem_nil

end Portcullis.Auth.OwnerBootstrap
