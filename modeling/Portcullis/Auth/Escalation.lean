import Portcullis.Auth.IssuedKeys
import Portcullis.Auth.Members

/-!
# Owners and callers below them

What requests of callers below an owner do to owners.  The hierarchy keeps every caller
that has a member row from touching an owner; a caller that passes the gate without a
member row, a SCIM deletion and an invitation for an owner are not held to it.
-/

namespace Portcullis.Auth.Escalation

open Auth.Accounts Auth.ApiKeys List
open Auth.Deprovisioning (sampleRegistration sampleService)
open Auth.Invites (findActive)
open Auth.Issuance
open Auth.IssuedKeys (laterDraws noDirectory sampleSsoLogin)
open Auth.Members Lib
open Lib.Transactions (commit commit_iff run ok_of_map)
open Models

/-! ## Owners -/

/-- The account that a member row stands for. -/
def Behind (user : User) (member : OrgMember) : Prop :=
  user.tenantId = member.tenantId ∧
    (member.userSubject = user.email ∨ member.userSubject = user.id.str)

/-- The user is behind an owner. -/
def OwnsMember (members : MemberTable) (user : User) : Prop :=
  ∃ member ∈ members.rows, member.adminRole = .orgOwner ∧ Behind user member

/-- No owner comes into existence, and none is changed, removed or deactivated. -/
structure OwnersKept (before after : Accounts) : Prop where
  users : ∀ user ∈ after.users.rows, user.orgRole = some .orgOwner →
    ∃ earlier ∈ before.users.rows, earlier.id = user.id ∧ earlier.orgRole = some .orgOwner
  members : ∀ member, member.adminRole = .orgOwner →
    (member ∈ after.members.rows ↔ member ∈ before.members.rows)
  active : ∀ user ∈ before.users.rows, user.isActive = true → OwnsMember before.members user →
    ∃ later ∈ after.users.rows, later.id = user.id ∧ later.isActive = true

section Effects

variable {before after : Accounts}

theorem OwnersKept.of_eq (users : after.users = before.users)
    (members : after.members = before.members) : OwnersKept before after where
  users user member owner := ⟨user, users ▸ member, rfl, owner⟩
  members member _ := by rw [members]
  active user member active _ := ⟨user, users.symm ▸ member, rfl, active⟩

theorem ownersKept_registered_iff {user : User}
    (users : after.users.rows = before.users.rows ++ [user])
    (members : after.members = before.members)
    (fresh : ∀ other ∈ before.users.rows, other.id ≠ user.id) :
    OwnersKept before after ↔ user.orgRole ≠ some .orgOwner := by
  constructor
  · intro kept owner
    obtain ⟨prev, earlierIn, same, _⟩ := kept.users user (by simp [users]) owner
    exact fresh prev earlierIn same
  · intro below
    refine ⟨fun other member owner => ?_, fun member _ => by rw [members], fun other member
      active _ => ⟨other, by simp [users, member], rfl, active⟩⟩
    rw [users, mem_append, mem_singleton] at member
    rcases member with prev | rfl
    · exact ⟨other, prev, rfl, owner⟩
    · exact absurd owner below

variable {member : OrgMember}

theorem ownersKept_joined_iff (users : after.users = before.users)
    (members : after.members.rows = before.members.rows ++ [member])
    (fresh : member ∉ before.members.rows) :
    OwnersKept before after ↔ member.adminRole ≠ .orgOwner := by
  constructor
  · intro kept owner
    exact fresh ((kept.members member owner).mp (by simp [members]))
  intro below
  refine ⟨fun user stored owner => ⟨user, users ▸ stored, rfl, owner⟩, fun other owner => ?_,
    fun user stored active _ => ⟨user, users.symm ▸ stored, rfl, active⟩⟩
  rw [members, mem_append, mem_singleton]
  exact or_iff_left fun same => below (same ▸ owner)

theorem mem_setMember {members : MemberTable} {other : OrgMember} {body : MemberUpdate}
    (stored : member ∈ members.rows) :
    other ∈ (setMember members member.id body).rows ↔
      other ∈ members.rows ∧ other.id ≠ member.id ∨ other = updatedMember body member := by
  constructor
  · intro changed
    obtain ⟨row, rowIn, rfl⟩ := mem_map.mp changed
    unfold changeMember
    split
    · rename_i same
      rw [members.eq_of_conflicts rowIn stored (.inl same)]
      exact .inr rfl
    · rename_i ne
      exact .inl ⟨rowIn, ne⟩
  · rintro (⟨kept, ne⟩ | rfl)
    · exact mem_map.mpr ⟨other, kept, if_neg ne⟩
    · exact mem_map.mpr ⟨member, stored, if_pos rfl⟩

theorem ownersKept_changed_iff {body : MemberUpdate} (stored : member ∈ before.members.rows)
    (users : after.users = before.users)
    (members : after.members = setMember before.members member.id body) :
    OwnersKept before after ↔
      (member.adminRole = .orgOwner ∨ (updatedMember body member).adminRole = .orgOwner →
        updatedMember body member = member) := by
  constructor
  · rintro kept (owner | owner)
    · have stays := (kept.members member owner).mpr stored
      rw [members, mem_setMember stored] at stays
      rcases stays with ⟨_, ne⟩ | same
      · exact absurd rfl ne
      · exact same.symm
    · have appears : updatedMember body member ∈ after.members.rows := by
        rw [members, mem_setMember stored]
        exact .inr rfl
      exact before.members.eq_of_conflicts ((kept.members _ owner).mp appears) stored (.inl rfl)
  · intro spared
    refine ⟨fun user member owner => ⟨user, users ▸ member, rfl, owner⟩, fun other owner => ?_,
      fun user member active _ => ⟨user, users.symm ▸ member, rfl, active⟩⟩
    rw [members, mem_setMember stored]
    constructor
    · rintro (⟨prev, _⟩ | rfl)
      · exact prev
      · rw [spared (.inr owner)]
        exact stored
    · intro prev
      by_cases same : other.id = member.id
      · obtain rfl := before.members.eq_of_conflicts prev stored (.inl same)
        exact .inr (spared (.inl owner)).symm
      · exact .inl ⟨prev, same⟩

theorem ownersKept_removed_iff {selects : User → Bool} (stored : member ∈ before.members.rows)
    (users : after.users = setApprovalStatus before.users selects .rejected)
    (members : after.members = before.members.delete fun other => other.id = member.id) :
    OwnersKept before after ↔ member.adminRole ≠ .orgOwner ∧
        ∀ user ∈ before.users.rows, selects user = true → user.isActive = true →
          ¬ OwnsMember before.members user := by
  have membersIff : ∀ other, other ∈ after.members.rows ↔
      other ∈ before.members.rows ∧ other.id ≠ member.id := by
    rw [members]
    simp [Table.delete]
  have usersIff : ∀ later, later ∈ after.users.rows ↔
      ∃ user ∈ before.users.rows, markSelected selects .rejected user = later := by
    intro later
    rw [users]
    exact mem_map
  constructor
  · intro kept
    refine ⟨fun owner => ?_, fun user userIn sel active owns => ?_⟩
    · exact ((membersIff member).mp ((kept.members member owner).mpr stored)).2 rfl
    obtain ⟨later, laterIn, same, stillActive⟩ := kept.active user userIn active owns
    obtain ⟨other, otherIn, rfl⟩ := (usersIff later).mp laterIn
    rw [(markSelected_same selects .rejected other).1] at same
    obtain rfl := before.users.eq_of_conflicts otherIn userIn (.inl same)
    rw [markSelected, if_pos sel] at stillActive
    cases stillActive
  · rintro ⟨below, spared⟩
    refine ⟨fun later laterIn owner => ?_, fun other owner => ?_, fun user userIn active owns => ?_⟩
    · obtain ⟨user, userIn, rfl⟩ := (usersIff later).mp laterIn
      refine ⟨user, userIn, (markSelected_same selects .rejected user).1.symm, ?_⟩
      unfold markSelected at owner
      split at owner <;> exact owner
    · rw [membersIff]
      refine and_iff_left_of_imp fun prev same => ?_
      obtain rfl := before.members.eq_of_conflicts prev stored (.inl same)
      exact below owner
    · refine ⟨user, (usersIff user).mpr ⟨user, userIn, if_neg fun sel => ?_⟩, rfl, active⟩
      exact spared user userIn sel active owns

end Effects

/-! ## Callers and conditions -/

/-- Neither an owner nor a platform administrator nor the holder of an admin key. -/
def Below (accounts : Accounts) (caller : Principal) : Prop :=
  "admin" ∉ caller.scopes ∧ (∀ user ∈ actingUser accounts caller,
      user.orgRole ≠ some .orgOwner ∧ user.isPlatformAdmin = false) ∧
    (∀ member ∈ userMember accounts caller, member.adminRole ≠ .orgOwner) ∧
    ∀ member ∈ subjectMember accounts caller, member.adminRole ≠ .orgOwner

instance (accounts : Accounts) (caller : Principal) : Decidable (Below accounts caller) :=
  inferInstanceAs (Decidable (_ ∧ _ ∧ _ ∧ _))

section Conditions

variable (service : Service) (teams : Uuid → Bool) (accounts : Accounts)

/-- Whether a member can be added, the hierarchy apart. -/
structure Joins (newId : Uuid) (caller : Principal) (body : MemberCreate) : Prop where
  admitted : adminSubject accounts caller = true
  absent : getBySubject accounts.members caller.tenantId body.userSubject = none
  team : teamKnown teams body.teamId = true
  fresh : ∀ other ∈ accounts.members.rows, other.id ≠ newId

/-- Whether a member can be changed, the hierarchy apart. -/
structure Edits (caller : Principal) (memberId : Uuid) (body : MemberUpdate)
    (member : OrgMember) : Prop where
  admitted : adminSubject accounts caller = true
  found : getMember accounts.members caller.tenantId memberId = some member
  stored : storable teams body = true

/-- Whether an invitation can be redeemed. -/
structure Redeems (draws : Draws) (body : RegisterRequest) (invitation : Invitation) :
    Prop where
  unknown : getByEmail accounts.users defaultTenantId body.email = none
  code : ∃ inviteCode ∈ body.inviteCode, inviteCode ≠ "" ∧
    findActive service.unicode service.hmacSha256 accounts.invitations defaultTenantId inviteCode
      service.peppers.activePepper (some service.peppers.apiKeyPepper.val) draws.now =
        .ok invitation
  email : invitation.email.any (fun email => email ≠ body.email) = false
  fresh : ∀ other ∈ accounts.users.rows, other.id ≠ draws.userId
  active : accounts.invitations.any (redeems invitation.id) = true
  key : KeyFits accounts.keys draws body.email

/-- A SCIM deletion neither removes an owner nor deactivates the user behind one. -/
def ScimSpares (tenantId : Uuid) (scimId : String) : Prop :=
  ∀ member, resolveMember service accounts.members tenantId scimId = some member →
    member.adminRole ≠ .orgOwner ∧
      ∀ user, getByEmail accounts.users tenantId member.userSubject = some user →
        user.isActive = true → ¬ OwnsMember accounts.members user

/-- A caller without a member row leaves owners alone, and so do SCIM deletions and
invitations. -/
def Spares : Request → Prop
  | .createMember newId caller body =>
    Joins teams accounts newId caller body → currentOrgMember accounts caller = none →
      body.adminRole ≠ .orgOwner
  | .updateMember caller memberId body => ∀ member,
      Edits teams accounts caller memberId body member →
      currentOrgMember accounts caller = none →
      member.adminRole = .orgOwner ∨ (updatedMember body member).adminRole = .orgOwner →
      updatedMember body member = member
  | .deleteMember caller memberId => ∀ member,
      getMember accounts.members caller.tenantId memberId = some member →
      adminSubject accounts caller = true → currentOrgMember accounts caller = none →
      member.adminRole ≠ .orgOwner
  | .scimDeleteUser caller scimId => ScimSpares service accounts caller.tenantId scimId
  | .scimDeleteGroup caller scimId => ScimSpares service accounts caller.tenantId scimId
  | .redeemInvite draws body => ∀ invitation,
      Redeems service accounts draws body invitation → invitation.role ≠ .orgOwner
  | _ => True

end Conditions

section Handlers

variable {service : Service} {teams : Uuid → Bool} {accounts after : Accounts} {caller : Principal}

theorem forbids_of_none (memberless : currentOrgMember accounts caller = none)
    (allows : OrgMember → Bool) : forbids accounts caller allows = false := by
  unfold forbids
  rw [memberless]
  rfl

theorem allows_of_some (allows : OrgMember → Bool) {current : OrgMember}
    (found : currentOrgMember accounts caller = some current)
    (allowed : ¬ forbids accounts caller allows = true) : allows current = true := by
  unfold forbids at allowed
  rw [found] at allowed
  simpa using allowed

/-! ### Members -/

theorem createMember_ok {newId : Uuid} {body : MemberCreate}
    (created : Members.createMember teams accounts newId caller body = .ok after) :
    Joins teams accounts newId caller body ∧
      (∀ current ∈ currentOrgMember accounts caller, body.adminRole ≠ .orgOwner) ∧
      after.users = accounts.users ∧ after.members.rows = accounts.members.rows ++
        [⟨newId, caller.tenantId, body.userSubject, body.adminRole, body.teamId⟩] := by
  unfold Members.createMember at created
  split at created
  · cases created
  rename_i admitted
  split at created
  · cases created
  rename_i absent
  split at created
  · cases created
  rename_i allowed
  split at created
  · cases created
  rename_i team
  obtain ⟨members, ins, rfl⟩ := createMember_ok_iff.mp created
  obtain ⟨rows, fresh⟩ := Table.of_insert ins
  refine ⟨⟨by simpa using admitted, by simpa using absent, by simpa using team,
    fun other stored same => fresh other stored (.inl same)⟩, ?_, rfl, rows⟩
  intro current found
  exact ne_orgOwner_of_canInviteRole
    (allows_of_some (fun current => canInviteRole current body.adminRole) found allowed)

theorem createMember_succeeds {newId : Uuid} {body : MemberCreate}
    (joins : Joins teams accounts newId caller body)
    (memberless : currentOrgMember accounts caller = none) :
    ∃ after, Members.createMember teams accounts newId caller body = .ok after := by
  obtain ⟨members, ins⟩ := accounts.members.exists_insert
    (fun other stored conflict => conflict.elim (joins.fresh other stored) fun same =>
      List.find?_eq_none.mp joins.absent other stored (by simp [same.1, same.2]) :
      ∀ other ∈ accounts.members.rows, ¬ MemberConflict other
        ⟨newId, caller.tenantId, body.userSubject, body.adminRole, body.teamId⟩)
  unfold Members.createMember
  rw [joins.admitted, joins.absent, forbids_of_none memberless, joins.team]
  exact ⟨_, createMember_ok_iff.mpr ⟨members, ins, rfl⟩⟩

theorem spares_createMember_iff (newId : Uuid) (body : MemberCreate) :
    OwnersKept accounts (commit (perform service teams) accounts
        (.createMember newId caller body)) ↔
      Spares service teams accounts (.createMember newId caller body) := by
  refine commit_iff (OwnersKept accounts) (.of_eq rfl rfl) ?_ ?_
  · intro failure failed joins memberless
    obtain ⟨after, succeeds⟩ := createMember_succeeds joins memberless
    cases succeeds.symm.trans failed
  · intro after created
    obtain ⟨joins, held, users, rows⟩ := createMember_ok created
    have fresh : (⟨newId, caller.tenantId, body.userSubject, body.adminRole, body.teamId⟩ :
        OrgMember) ∉ accounts.members.rows := fun stored => joins.fresh _ stored rfl
    rw [ownersKept_joined_iff users rows fresh]
    refine ⟨fun below _ _ => below, fun spares => ?_⟩
    cases current : currentOrgMember accounts caller with
    | none => exact spares joins current
    | some member => exact held member current

variable {member : OrgMember} {memberId tenantId : Uuid} {scimId : String} {body : RegisterRequest}

theorem mem_of_getMember (found : getMember accounts.members tenantId memberId = some member) :
    member ∈ accounts.members.rows :=
  mem_of_find?_eq_some found

theorem updateMember_ok {body : MemberUpdate}
    (changed : updateMember teams accounts caller memberId body = .ok after) :
    ∃ member, Edits teams accounts caller memberId body member ∧
      (∀ current ∈ currentOrgMember accounts caller, member.adminRole ≠ .orgOwner ∧
        (updatedMember body member).adminRole ≠ .orgOwner) ∧
      after.users = accounts.users ∧
      after.members = setMember accounts.members member.id body := by
  unfold updateMember at changed
  split at changed
  · cases changed
  rename_i admitted
  split at changed
  · cases changed
  rename_i member found
  split at changed
  · cases changed
  rename_i manages
  split at changed
  · cases changed
  rename_i assigns
  split at changed
  · cases changed
  rename_i stored
  rw [← Except.ok.inj changed]
  refine ⟨member, ⟨by simpa using admitted, found, by simpa using stored⟩, ?_, rfl, rfl⟩
  intro current currently
  have below := ne_orgOwner_of_canManageMember
    (allows_of_some (fun current => canManageMember current member) currently manages)
  have roles := allows_of_some _ currently assigns
  refine ⟨below, ?_⟩
  unfold updatedMember
  cases assigned : body.adminRole.join with
  | none => exact below
  | some role =>
    rw [assigned] at roles
    exact ne_orgOwner_of_canInviteRole roles

theorem updateMember_succeeds {body : MemberUpdate}
    (edits : Edits teams accounts caller memberId body member)
    (memberless : currentOrgMember accounts caller = none) :
    ∃ after, updateMember teams accounts caller memberId body = .ok after := by
  unfold updateMember
  rw [edits.admitted, edits.found, edits.stored]
  dsimp only
  rw [forbids_of_none memberless, forbids_of_none memberless]
  exact ⟨_, rfl⟩

theorem spares_updateMember_iff (memberId : Uuid) (body : MemberUpdate) :
    OwnersKept accounts (commit (perform service teams) accounts
        (.updateMember caller memberId body)) ↔
      Spares service teams accounts (.updateMember caller memberId body) := by
  refine commit_iff (OwnersKept accounts) (.of_eq rfl rfl) ?_ ?_
  · intro failure failed member edits memberless
    obtain ⟨after, succeeds⟩ := updateMember_succeeds edits memberless
    cases succeeds.symm.trans failed
  · intro after changed
    obtain ⟨member, edits, held, users, members⟩ := updateMember_ok changed
    rw [ownersKept_changed_iff (mem_of_getMember edits.found) users members]
    constructor
    · intro spared other others _
      rw [← Option.some.inj (edits.found.symm.trans others.found)]
      exact spared
    · intro spares touches
      cases currently : currentOrgMember accounts caller with
      | none => exact spares member edits currently touches
      | some current =>
        obtain ⟨below, stays⟩ := held current currently
        exact absurd touches (not_or.mpr ⟨below, stays⟩)

theorem deleteMember_ok (deleted : deleteMember accounts caller memberId = .ok after) :
    adminSubject accounts caller = true ∧ ∃ member,
      getMember accounts.members caller.tenantId memberId = some member ∧
      (∀ current ∈ currentOrgMember accounts caller, member.adminRole ≠ .orgOwner) ∧
      after.users = accounts.users ∧
      after.members = accounts.members.delete fun other => other.id = member.id := by
  unfold deleteMember at deleted
  split at deleted
  · cases deleted
  rename_i admitted
  split at deleted
  · cases deleted
  rename_i member found
  split at deleted
  · cases deleted
  rename_i manages
  rw [← Except.ok.inj deleted]
  refine ⟨by simpa using admitted, member, found, fun current currently => ?_, rfl, rfl⟩
  exact ne_orgOwner_of_canManageMember
    (allows_of_some (fun current => canManageMember current member) currently manages)

theorem deleteMember_succeeds
    (found : getMember accounts.members caller.tenantId memberId = some member)
    (admitted : adminSubject accounts caller = true)
    (memberless : currentOrgMember accounts caller = none) :
    ∃ after, deleteMember accounts caller memberId = .ok after := by
  unfold deleteMember
  rw [admitted, found]
  dsimp only
  rw [forbids_of_none memberless]
  exact ⟨_, rfl⟩

theorem setApprovalStatus_none (users : UserTable) (status : UserApprovalStatus) :
    setApprovalStatus users (fun _ => false) status = users := by
  have same : markSelected (fun _ => false) status = id := rfl
  unfold setApprovalStatus Table.update
  simp [same]

theorem spares_deleteMember_iff (memberId : Uuid) :
    OwnersKept accounts (commit (perform service teams) accounts (.deleteMember caller memberId)) ↔
      Spares service teams accounts (.deleteMember caller memberId) := by
  refine commit_iff (OwnersKept accounts) (.of_eq rfl rfl) ?_ ?_
  · intro failure failed member found admitted memberless
    obtain ⟨after, succeeds⟩ := deleteMember_succeeds found admitted memberless
    cases succeeds.symm.trans failed
  · intro after deleted
    obtain ⟨admitted, member, found, held, users, members⟩ := deleteMember_ok deleted
    rw [ownersKept_removed_iff (mem_of_getMember found)
      (users.trans (setApprovalStatus_none _ _).symm) members]
    constructor
    · rintro ⟨below, _⟩ other others _ _
      rw [← Option.some.inj (found.symm.trans others)]
      exact below
    · intro spares
      refine ⟨?_, fun _ _ sel => (nomatch sel)⟩
      cases currently : currentOrgMember accounts caller with
      | none => exact spares member found admitted currently
      | some current => exact held current currently

/-! ### SCIM -/

theorem mem_of_resolveMember
    (found : resolveMember service accounts.members tenantId scimId = some member) :
    member ∈ accounts.members.rows := by
  unfold resolveMember at found
  split at found
  · rename_i resolved
    rw [← Option.some.inj found]
    exact mem_of_find?_eq_some resolved
  · obtain ⟨memberId, _, resolved⟩ := Option.bind_eq_some_iff.mp found
    exact mem_of_getMember resolved

theorem isScimUser_iff
    (found : resolveMember service accounts.members tenantId scimId = some member) {user : User}
    (stored : user ∈ accounts.users.rows) :
    isScimUser service accounts tenantId scimId user = true ↔
      getByEmail accounts.users tenantId member.userSubject = some user := by
  unfold isScimUser scimUser
  rw [found, Option.bind_some]
  cases holder : getByEmail accounts.users tenantId member.userSubject with
  | none => exact ⟨fun sel => (nomatch sel), fun same => (nomatch same)⟩
  | some other =>
    rw [Option.any_some, decide_eq_true_iff, Option.some_inj]
    refine ⟨fun same => ?_, fun same => by rw [same]⟩
    exact (accounts.users.eq_of_conflicts stored (getByEmail_some holder).1 (.inl same)).symm

theorem ownersKept_scimDelete_iff
    (deleted : scimDeleteUser service accounts tenantId scimId = .ok after) :
    OwnersKept accounts after ↔ ScimSpares service accounts tenantId scimId := by
  obtain ⟨member, found, rfl⟩ := scimDeleteUser_ok deleted
  rw [ownersKept_removed_iff (mem_of_resolveMember found) rfl rfl]
  constructor
  · rintro ⟨below, spared⟩ other others
    obtain rfl := Option.some.inj (found.symm.trans others)
    refine ⟨below, fun user holder => ?_⟩
    have stored := (getByEmail_some holder).1
    exact spared user stored ((isScimUser_iff found stored).mpr holder)
  · intro spares
    obtain ⟨below, spared⟩ := spares member found
    exact ⟨below, fun user stored sel =>
      spared user ((isScimUser_iff found stored).mp sel)⟩

theorem scimSpares_of_error {failure : Failure}
    (failed : scimDeleteUser service accounts tenantId scimId = .error failure) :
    ScimSpares service accounts tenantId scimId := by
  intro member found
  unfold scimDeleteUser at failed
  rw [found] at failed
  cases failed

/-! ### Invitations -/

theorem redeemInvite_ok {draws : Draws} {resp : AuthResponse}
    (redeemed : register service accounts draws { body with flow := .invitation } =
      .ok (after, resp)) :
    ∃ invitation user, Redeems service accounts draws body invitation ∧
      user.id = draws.userId ∧ user.orgRole = some invitation.role ∧
      after.users.rows = accounts.users.rows ++ [user] ∧ after.members = accounts.members := by
  obtain ⟨unknown, _, inviteCode, given, ne, invited⟩ := register_ok redeemed
  obtain ⟨invitation, created, invitations, issued, found, addressed, creating, marks, issuing⟩ :=
    registerViaInvite_ok invited
  obtain ⟨users, ins, rfl⟩ := createUser_ok_iff.mp creating
  obtain ⟨rows, fresh⟩ := Table.of_insert ins
  obtain ⟨key, keys, rfl, _⟩ := issueTenantToken_ok issuing
  refine ⟨invitation, _, ⟨unknown, ⟨inviteCode, given, ne, found⟩, addressed,
    fun other stored same => fresh other stored (.inl same), ?_, key⟩, rfl, rfl, rows, rfl⟩
  unfold markRedeemed at marks
  split at marks
  · assumption
  · cases marks

theorem registerViaInvite_succeeds {draws : Draws} {inviteCode : String} {invitation : Invitation}
    (passwordHash : String) (redeems : Redeems service accounts draws body invitation)
    (found : findActive service.unicode service.hmacSha256 accounts.invitations defaultTenantId
      inviteCode service.peppers.activePepper (some service.peppers.apiKeyPepper.val)
      draws.now = .ok invitation) :
    ∃ answered, registerViaInvite service accounts draws body inviteCode passwordHash =
      .ok answered := by
  obtain ⟨users, ins⟩ := accounts.users.exists_insert
    (fun other stored conflict => conflict.elim (redeems.fresh other stored) fun same =>
      List.find?_eq_none.mp redeems.unknown other stored (by
        rw [same.1, same.2]
        simp [newUser]) :
      ∀ other ∈ accounts.users.rows, ¬ UserConflict other
        (invitedUser body draws passwordHash invitation))
  have creating := createUser_ok_iff.mpr ⟨users, ins, rfl⟩
  obtain ⟨invitations, marks⟩ : ∃ invitations, markRedeemed accounts.invitations invitation.id
      draws.userId draws.now = some invitations := ⟨_, if_pos redeems.active⟩
  obtain ⟨committed, issued, issuing⟩ := issueTenantToken_succeeds service
    { accounts with users := users, invitations := invitations } defaultTenantId draws.userId
    redeems.key
  unfold registerViaInvite
  rw [found]
  dsimp only
  rw [redeems.email, if_neg Bool.false_ne_true, creating]
  dsimp only [bind, Except.bind, newUser]
  rw [marks]
  dsimp only
  rw [issueUserToken_eq, issuing]
  exact ⟨_, rfl⟩

theorem redeemInvite_succeeds {draws : Draws} {invitation : Invitation}
    (redeems : Redeems service accounts draws body invitation) :
    ∃ answered, register service accounts draws { body with flow := .invitation } =
      .ok answered := by
  obtain ⟨inviteCode, given, ne, found⟩ := redeems.code
  have same : Redeems service accounts draws { body with flow := .invitation } invitation :=
    ⟨redeems.unknown, redeems.code, redeems.email, redeems.fresh, redeems.active, redeems.key⟩
  unfold register
  rw [redeems.unknown]
  dsimp only
  rw [if_neg (by simp)]
  split
  · rename_i absent
    rw [absent] at given
    cases given
  · rename_i code present
    obtain rfl := Option.some.inj (present.symm.trans given)
    rw [if_neg ne]
    exact registerViaInvite_succeeds _ same found

theorem spares_redeemInvite_iff (draws : Draws) (body : RegisterRequest) :
    OwnersKept accounts (commit (perform service teams) accounts (.redeemInvite draws body)) ↔
      Spares service teams accounts (.redeemInvite draws body) := by
  refine commit_iff (OwnersKept accounts) (.of_eq rfl rfl) ?_ ?_
  · intro failure failed invitation redeems
    obtain ⟨ans, succeeds⟩ := redeemInvite_succeeds redeems
    rw [Members.perform, succeeds] at failed
    cases failed
  · intro after did
    obtain ⟨⟨_, resp⟩, redeemed, rfl⟩ := ok_of_map did
    obtain ⟨invitation, user, redeems, id, role, users, members⟩ := redeemInvite_ok redeemed
    rw [ownersKept_registered_iff users members
      fun other stored same => redeems.fresh other stored (same.trans id), role]
    constructor
    · intro below other others owner
      obtain ⟨code, given, _, found⟩ := redeems.code
      obtain ⟨otherCode, otherGiven, _, otherFound⟩ := others.code
      obtain rfl := Option.some.inj (given.symm.trans otherGiven)
      rw [← Except.ok.inj (found.symm.trans otherFound)] at owner
      exact below (congrArg some owner)
    · intro spares owner
      exact spares invitation redeems (Option.some.inj owner)

/-- The other requests touch neither users nor members. -/
def LeavesMembers : Request → Prop
  | .createInvite _ _ _ | .revokeInvite _ _ _ | .scimCreateUser _ | .scimUpdateUser _ _
  | .scimCreateGroup _ _ _ _ | .scimUpdateGroup _ _ => True
  | _ => False

theorem perform_leaves {request : Request} (leaves : LeavesMembers request)
    (did : perform service teams accounts request = .ok after) :
    after.users = accounts.users ∧ after.members = accounts.members := by
  cases request with
  | createInvite draws caller body =>
    simp only [Members.perform, createInvite] at did
    split at did
    · rw [← Except.ok.inj did]
      exact ⟨rfl, rfl⟩
    · cases did
  | revokeInvite now caller inviteId =>
    simp only [Members.perform, revokeInvite] at did
    split at did
    · split at did
      · rw [← Except.ok.inj did]
        exact ⟨rfl, rfl⟩
      · cases did
    · cases did
  | scimCreateUser caller => cases did
  | scimUpdateUser caller scimId =>
    simp only [Members.perform, scimUpdateUser] at did
    split at did
    · cases did
    · rw [← Except.ok.inj did]
      exact ⟨rfl, rfl⟩
  | scimCreateGroup newId caller name lowered =>
    simp only [Members.perform, scimCreateGroup] at did
    split at did
    · rw [← Except.ok.inj did]
      exact ⟨rfl, rfl⟩
    split at did
    · obtain ⟨_, _, rfl⟩ := ok_of_map did
      exact ⟨rfl, rfl⟩
    · cases did
  | scimUpdateGroup caller scimId =>
    simp only [Members.perform, scimUpdateGroup] at did
    split at did
    · cases did
    · rw [← Except.ok.inj did]
      exact ⟨rfl, rfl⟩
  | _ => exact leaves.elim

theorem ownersKept_of_leaves {request : Request} (leaves : LeavesMembers request) :
    OwnersKept accounts (commit (perform service teams) accounts request) := by
  refine Transactions.commit_cases (OwnersKept accounts) (fun _ _ => .of_eq rfl rfl) ?_
  intro after did
  obtain ⟨users, members⟩ := perform_leaves leaves did
  exact .of_eq users members

theorem spares_iff (service : Service) (teams : Uuid → Bool) (accounts : Accounts)
    (request : Request) :
    OwnersKept accounts (commit (perform service teams) accounts request) ↔
      Spares service teams accounts request := by
  cases request with
  | createMember newId caller body => exact spares_createMember_iff newId body
  | updateMember caller memberId body => exact spares_updateMember_iff memberId body
  | deleteMember caller memberId => exact spares_deleteMember_iff memberId
  | redeemInvite draws body => exact spares_redeemInvite_iff draws body
  | scimDeleteUser caller scimId =>
    exact commit_iff (OwnersKept accounts) (.of_eq rfl rfl) (fun _ => scimSpares_of_error)
      (fun _ => ownersKept_scimDelete_iff)
  | scimDeleteGroup caller scimId =>
    refine commit_iff (OwnersKept accounts) (.of_eq rfl rfl) ?_ ?_
    · intro failure failed
      simp only [Members.perform, scimDeleteGroup] at failed
      split at failed
      · cases failed
      · rename_i deleted
        exact scimSpares_of_error deleted
    · intro after did
      simp only [Members.perform, scimDeleteGroup] at did
      split at did
      · rename_i deleted
        rw [← Except.ok.inj did]
        exact ownersKept_scimDelete_iff deleted
      · cases did
  | _ => exact iff_of_true (ownersKept_of_leaves trivial) trivial

end Handlers

/-! ## Runs -/

/-- The request is made by a caller below an owner, or by nobody who is logged in. -/
def FromBelow (accounts : Accounts) (request : Request) : Prop :=
  ∀ caller ∈ request.caller, Below accounts caller

instance (accounts : Accounts) (request : Request) : Decidable (FromBelow accounts request) :=
  inferInstanceAs (Decidable (∀ caller ∈ request.caller, _))

/-- In every run, a request from below an owner keeps every owner and makes none just if it
spares owners: no caller without a member row adds, changes or removes one, no SCIM deletion
hits one, and no invitation is for one. -/
theorem owners_kept_from_below_iff (service : Service) (teams : Uuid → Bool) (start : Accounts)
    (requests : List Request) :
    (∀ first request rest, requests = first ++ request :: rest →
        FromBelow (run (perform service teams) start first) request →
        OwnersKept (run (perform service teams) start first)
          (commit (perform service teams) (run (perform service teams) start first) request)) ↔
      Transactions.Along (perform service teams)
        (fun accounts request =>
          FromBelow accounts request → Spares service teams accounts request) start requests :=
  Transactions.forall_operations_iff_along
    (fun accounts request => imp_congr_right fun _ => spares_iff service teams accounts request)
    start requests

def sampleAccounts : Accounts :=
  (run (Federation.perform sampleService) noDirectory [.account (sampleRegistration .create),
      sampleSsoLogin laterDraws "idp|2" "eve@example.com"]).accounts

def sampleOwner : OrgMember := ⟨⟨3⟩, defaultTenantId, (⟨2⟩ : Uuid).str, .orgOwner, none⟩

def sampleDeveloper : Principal := ⟨⟨(⟨14⟩ : Uuid).str, .apiKey, defaultTenantId⟩, ∅⟩

/-- A developer removes the owner through SCIM. -/
theorem developer_removes_owner :
    ¬ ∀ (service : Service) (teams : Uuid → Bool) (start : Accounts) (request : Request),
        FromBelow start request →
        OwnersKept start (commit (perform service teams) start request) := by
  intro claim
  have kept := claim sampleService (fun _ => true) sampleAccounts
    (.scimDeleteUser sampleDeveloper sampleOwner.userSubject) (by decide +kernel)
  have stays := (kept.members sampleOwner rfl).mpr (by decide +kernel)
  exact absurd stays (by decide +kernel)

end Portcullis.Auth.Escalation
