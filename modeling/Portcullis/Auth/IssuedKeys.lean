import Portcullis.Auth.Deprovisioning
import Portcullis.Auth.Issuance

/-!
# Owners of issued keys

The tenant and the owner of the keys that registration, login, approval, federated logins
and provisioning issue.  An approval looks its user up in the tenant of the administrator
and issues the key in the default tenant.  A federated login whose subject is linked does
not look at the approval of the user whose address it asserts.
-/

namespace Portcullis.Auth.IssuedKeys

open Auth.Accounts List
open Auth.ApiKeys (nameLength)
open Auth.Deprovisioning (noAccounts sampleDraws sampleService)
open Auth.Federation Auth.Issuance Lib
open Auth.Invites (hashCode mintedInvitation normalizeCode sampleMint)
open Auth.PepperRotation (findActive_hashed)
open Lib.Transactions (commit commit_cases commit_iff run)
open Models

/-! ## Tenants of keys -/

/-- The owner of a key is a user: the foreign key of the column. -/
def OwnersExist (accounts : Accounts) : Prop :=
  ∀ key ∈ accounts.keys.rows, ∀ userId, key.userId = some userId →
    ∃ user ∈ accounts.users.rows, user.id = userId

/-- A key that has an owner is in the owner's tenant. -/
def InOwnersTenant (accounts : Accounts) : Prop :=
  ∀ key ∈ accounts.keys.rows, ∀ user ∈ accounts.users.rows,
    key.userId = some user.id → key.tenantId = user.tenantId

instance (accounts : Accounts) : Decidable (InOwnersTenant accounts) :=
  inferInstanceAs (Decidable (∀ key ∈ accounts.keys.rows, ∀ user ∈ accounts.users.rows,
    key.userId = some user.id → key.tenantId = user.tenantId))

section Changes

variable {before after : Accounts} {row : ApiKey} {user : User}

theorem ownersExist_of_silent (silent : Silent before after) (exist : OwnersExist before) :
    OwnersExist after := by
  obtain ⟨users, change, sameKey, keys⟩ := silent
  intro key mem userId owned
  rw [keys] at mem
  obtain ⟨prev, earlierIn, rfl⟩ := mem_map.mp mem
  obtain ⟨user, userIn, rfl⟩ := exist prev earlierIn userId
    ((sameKey prev).userId.symm.trans owned)
  obtain ⟨later, laterIn, same⟩ := users user userIn
  exact ⟨later, laterIn, same.id⟩

theorem ownersExist_of_issued (issued : Issued before after row user)
    (exist : OwnersExist before) : OwnersExist after := by
  intro key mem userId owned
  rw [issued.keys, mem_append, mem_singleton] at mem
  rcases mem with prev | rfl
  · obtain ⟨found, foundIn, rfl⟩ := exist key prev userId owned
    obtain ⟨later, laterIn, same⟩ := issued.users found foundIn
    exact ⟨later, laterIn, same.id⟩
  · exact ⟨user, issued.member, Option.some.inj (issued.owner.symm.trans owned)⟩

theorem tenant_eq_of_usersKept (users : UsersKept before.users after.users)
    (exist : OwnersExist before) (aligned : InOwnersTenant before) {key : ApiKey}
    (mem : key ∈ before.keys.rows) (later : User) (laterIn : later ∈ after.users.rows)
    (owned : key.userId = some later.id) : key.tenantId = later.tenantId := by
  obtain ⟨found, foundIn, sameId⟩ := exist key mem later.id owned
  rw [(users.same foundIn laterIn sameId.symm).tenantId]
  exact aligned key mem found foundIn (by rw [sameId, owned])

theorem inOwnersTenant_of_silent (silent : Silent before after) (exist : OwnersExist before)
    (aligned : InOwnersTenant before) : InOwnersTenant after := by
  obtain ⟨users, change, sameKey, keys⟩ := silent
  intro key mem later laterIn owned
  rw [keys] at mem
  obtain ⟨prev, earlierIn, rfl⟩ := mem_map.mp mem
  rw [(sameKey prev).tenantId]
  rw [(sameKey prev).userId] at owned
  exact tenant_eq_of_usersKept users exist aligned earlierIn later laterIn owned

theorem inOwnersTenant_of_issued (issued : Issued before after row user)
    (exist : OwnersExist before) (aligned : InOwnersTenant before) :
    InOwnersTenant after ↔ row.tenantId = user.tenantId := by
  constructor
  · intro stays
    exact stays row issued.rowIn user issued.member issued.owner
  intro same key mem later laterIn owned
  rw [issued.keys, mem_append, mem_singleton] at mem
  rcases mem with prev | rfl
  · exact tenant_eq_of_usersKept issued.users exist aligned prev later laterIn owned
  · have sameId : later.id = user.id := Option.some.inj (owned.symm.trans issued.owner)
    rw [after.users.eq_of_conflicts laterIn issued.member (.inl sameId)]
    exact same

end Changes

/-- An approval that is answered is by an administrator of the default tenant. -/
def ApprovedAtHome (directory : Directory) : Federation.Operation → Prop
  | .account (.approveUser draws tenantId userId bodyUserId) =>
    Approves directory.accounts draws tenantId userId bodyUserId → tenantId = defaultTenantId
  | _ => True

section Steps

variable {service : Service} {directory later : Directory} {operation : Federation.Operation}

theorem approvedAtHome_of_error {failure : Failure}
    (failed : Federation.perform service directory operation = .error failure) :
    ApprovedAtHome directory operation := by
  cases operation with
  | account operation =>
    cases operation with
    | approveUser draws tenantId userId bodyUserId =>
      intro approves
      obtain ⟨ans, answers⟩ := approveUser_succeeds service approves
      rw [Federation.perform, Accounts.perform, answers] at failed
      cases failed
    | _ => trivial
  | _ => trivial

theorem approvedAtHome_of_quiet (quiet : Quiet operation) : ApprovedAtHome directory operation := by
  cases operation with
  | account operation =>
    cases operation with
    | approveUser draws tenantId userId bodyUserId => exact quiet.elim
    | _ => trivial
  | _ => trivial

theorem tenant_eq_iff_of_terms {row : ApiKey} {user : User}
    (terms : Terms directory.accounts operation row user) :
    row.tenantId = user.tenantId ↔ ApprovedAtHome directory operation := by
  cases operation with
  | account operation =>
    cases operation with
    | approveUser draws tenantId userId bodyUserId =>
      obtain ⟨binding, _, approves⟩ := terms
      rw [binding.keyTenant, binding.userTenant]
      exact ⟨fun same _ => same.symm, fun home => (home approves).symm⟩
    | register draws body =>
      exact iff_of_true (terms.1.keyTenant.trans terms.1.userTenant.symm) trivial
    | login draws body =>
      exact iff_of_true (terms.1.keyTenant.trans terms.1.userTenant.symm) trivial
    | _ => exact terms.elim
  | _ => exact iff_of_true (terms.1.keyTenant.trans terms.1.userTenant.symm) trivial

theorem ownersExist_commit (exist : OwnersExist directory.accounts) :
    OwnersExist (commit (Federation.perform service) directory operation).accounts := by
  refine commit_cases (fun later : Directory => OwnersExist later.accounts) (fun _ _ => exist) ?_
  intro later did
  rcases perform_outcome did with ⟨silent, _⟩ | ⟨row, user, issued, _⟩
  · exact ownersExist_of_silent silent exist
  · exact ownersExist_of_issued issued exist

theorem inOwnersTenant_commit_iff (exist : OwnersExist directory.accounts)
    (aligned : InOwnersTenant directory.accounts) :
    InOwnersTenant (commit (Federation.perform service) directory operation).accounts ↔
      ApprovedAtHome directory operation := by
  refine commit_iff (fun later : Directory => InOwnersTenant later.accounts) aligned
    (fun _ => approvedAtHome_of_error) ?_
  intro later did
  rcases perform_outcome did with ⟨silent, quiet⟩ | ⟨row, user, issued, terms⟩
  · exact iff_of_true (inOwnersTenant_of_silent silent exist aligned)
      (approvedAtHome_of_quiet quiet)
  · exact (inOwnersTenant_of_issued issued exist aligned).trans (tenant_eq_iff_of_terms terms)

end Steps

/-- Throughout a run every key is in the tenant of its owner exactly if every approval that
is answered is by an administrator of the default tenant. -/
theorem keys_in_owners_tenant_iff (service : Service) (start : Directory)
    (operations : List Federation.Operation) (exist : OwnersExist start.accounts)
    (aligned : InOwnersTenant start.accounts) :
    (∀ first rest, operations = first ++ rest →
        InOwnersTenant (run (Federation.perform service) start first).accounts) ↔
      Transactions.Along (Federation.perform service) ApprovedAtHome start operations :=
  Transactions.throughout_iff_along (fun directory : Directory => OwnersExist directory.accounts)
    (fun directory : Directory => InOwnersTenant directory.accounts) (fun _ _ => ownersExist_commit)
    (fun _ _ => inOwnersTenant_commit_iff) exist aligned operations

def noDirectory : Directory := ⟨noAccounts, .empty⟩

def sampleProvision : Federation.Operation :=
  .provisionTenant sampleDraws ⟨7⟩
    ⟨"Acme", "acme", "owner@acme.example", "Owner", "correct horse", none⟩

def laterDraws : Draws :=
  { sampleDraws with
    userId := ⟨12⟩
    memberId := ⟨13⟩
    keyId := ⟨14⟩
    keyText :=
      ⟨⟨List.replicate 8 'c', by decide, by decide⟩,
        ⟨List.replicate 43 'd', by decide, by decide⟩⟩ }

def sampleApproval : Federation.Operation :=
  .account (.approveUser laterDraws ⟨7⟩ ⟨2⟩ ⟨2⟩)

theorem keys_in_owners_tenant_iff_sample :
    InOwnersTenant (run (Federation.perform sampleService) noDirectory
      [sampleProvision]).accounts :=
  (keys_in_owners_tenant_iff sampleService noDirectory [sampleProvision] nofun nofun).mpr
    ⟨trivial, trivial⟩ [sampleProvision] [] rfl

/-- The key that an approval in another tenant issues opens the default tenant. -/
theorem approved_key_in_default_tenant :
    ¬ ∀ (service : Service) (start : Directory) (operations : List Federation.Operation),
        OwnersExist start.accounts → InOwnersTenant start.accounts →
        InOwnersTenant (run (Federation.perform service) start operations).accounts := by
  intro claim
  exact absurd (claim sampleService noDirectory [sampleProvision, sampleApproval] nofun nofun)
    (by decide +kernel)

/-! ## Approval of owners -/

/-- Whoever is issued a key is active and approved then. -/
def IssuesToUsable (before after : Accounts) : Prop :=
  ∀ key ∈ after.keys.rows, (∀ earlier ∈ before.keys.rows, earlier.id ≠ key.id) →
    ∀ user ∈ after.users.rows, key.userId = some user.id → Usable user

instance (before after : Accounts) : Decidable (IssuesToUsable before after) :=
  inferInstanceAs (Decidable (∀ key ∈ after.keys.rows, (∀ earlier ∈ before.keys.rows, _) →
    ∀ user ∈ after.users.rows, _ → _))

section Changes

variable {before after : Accounts}

theorem issuesToUsable_of_silent (silent : Silent before after) : IssuesToUsable before after := by
  obtain ⟨_, change, sameKey, keys⟩ := silent
  intro key mem new
  rw [keys] at mem
  obtain ⟨prev, earlierIn, rfl⟩ := mem_map.mp mem
  exact absurd (sameKey prev).id.symm (new prev earlierIn)

theorem issuesToUsable_of_issued {row : ApiKey} {user : User}
    (issued : Issued before after row user) :
    IssuesToUsable before after ↔ Usable user := by
  constructor
  · intro always
    exact always row issued.rowIn (fun _ => issued.fresh) user issued.member issued.owner
  intro usable key mem new other otherIn owned
  rw [issued.keys, mem_append, mem_singleton] at mem
  rcases mem with prev | rfl
  · exact absurd rfl (new key prev)
  · have sameId : other.id = user.id := Option.some.inj (owned.symm.trans issued.owner)
    rw [after.users.eq_of_conflicts otherIn issued.member (.inl sameId)]
    exact usable

end Changes

/-- The user that a linked subject enters as is approved. -/
def EntersApproved (accounts : Accounts) (draws : Draws) (subject email : String) : Prop :=
  ∀ user, EntersLinked accounts draws subject email user → user.approvalStatus = .approved

/-- A linked subject does not assert the address of an active user who is not approved. -/
def LinkedApproved (directory : Directory) : Federation.Operation → Prop
  | .ssoLogin draws login =>
    EntersApproved directory.accounts draws login.subject login.email
  | .clerkSync draws login =>
    EntersApproved directory.accounts draws login.subject login.email
  | _ => True

section Steps

variable {service : Service} {directory : Directory} {operation : Federation.Operation}

theorem linkedApproved_of_error {failure : Failure}
    (failed : Federation.perform service directory operation = .error failure) :
    LinkedApproved directory operation := by
  cases operation with
  | ssoLogin draws login =>
    intro user enters
    obtain ⟨ans, answers⟩ := linkOrCreate_succeeds service enters
    rw [Federation.perform, answers] at failed
    cases failed
  | clerkSync draws login =>
    intro user enters
    obtain ⟨ans, answers⟩ := clerkSync_succeeds service enters
    rw [Federation.perform, answers] at failed
    cases failed
  | _ => trivial

theorem linkedApproved_of_quiet (quiet : Quiet operation) : LinkedApproved directory operation := by
  cases operation with
  | account operation => trivial
  | _ => exact quiet.elim

theorem usable_iff_of_federatedTerms {before : Accounts} {draws : Draws}
    {subject email : String} {row : ApiKey} {user : User}
    (terms : FederatedTerms before draws subject email row user) :
    Usable user ↔ EntersApproved before draws subject email := by
  obtain ⟨_, _, enters | ⟨unlinked, usable⟩⟩ := terms
  · constructor
    · rintro ⟨_, approved⟩ other ⟨_, found, _⟩
      rw [← Option.some.inj (enters.2.1.symm.trans found)]
      exact approved
    · intro always
      exact ⟨enters.2.2.1, always user enters⟩
  · refine iff_of_true usable fun other enters => ?_
    rw [EntersLinked, unlinked] at enters
    cases enters.1

theorem usable_iff_of_terms {row : ApiKey} {user : User}
    (terms : Terms directory.accounts operation row user) :
    Usable user ↔ LinkedApproved directory operation := by
  cases operation with
  | account operation =>
    cases operation with
    | approveUser draws tenantId userId bodyUserId => exact iff_of_true terms.2.1 trivial
    | register draws body => exact iff_of_true terms.2 trivial
    | login draws body => exact iff_of_true terms.2 trivial
    | _ => exact terms.elim
  | ssoLogin draws login => exact usable_iff_of_federatedTerms terms
  | clerkSync draws login => exact usable_iff_of_federatedTerms terms
  | provisionTenant draws tenantId request => exact iff_of_true terms.2 trivial

theorem issuesToUsable_commit_iff (service : Service) (directory : Directory)
    (operation : Federation.Operation) :
    IssuesToUsable directory.accounts
        (commit (Federation.perform service) directory operation).accounts ↔
      LinkedApproved directory operation := by
  refine commit_iff (fun later : Directory => IssuesToUsable directory.accounts later.accounts)
    (issuesToUsable_of_silent (.refl _)) (fun _ => linkedApproved_of_error) ?_
  intro later did
  rcases perform_outcome did with ⟨silent, quiet⟩ | ⟨row, user, issued, terms⟩
  · exact iff_of_true (issuesToUsable_of_silent silent) (linkedApproved_of_quiet quiet)
  · exact (issuesToUsable_of_issued issued).trans (usable_iff_of_terms terms)

end Steps

/-- Every request of a run issues keys only to active and approved users exactly if no linked
subject asserts the address of an active user who is not approved. -/
theorem issues_to_usable_iff (service : Service) (start : Directory)
    (operations : List Federation.Operation) :
    (∀ first operation rest, operations = first ++ operation :: rest →
        IssuesToUsable (run (Federation.perform service) start first).accounts
          (commit (Federation.perform service) (run (Federation.perform service) start first)
            operation).accounts) ↔
      Transactions.Along (Federation.perform service) LinkedApproved start operations :=
  Transactions.forall_operations_iff_along (issuesToUsable_commit_iff service) start operations

def sampleSsoLogin (draws : Draws) (subject email : String) : Federation.Operation :=
  .ssoLogin draws ⟨subject, email, "Ada", .absent, .absent, "generated"⟩

def sampleJoin : Federation.Operation :=
  .account (.register { laterDraws with userId := ⟨22⟩ }
    ⟨"Eve", "eve@example.com", "correct horse", .join, none, none, none⟩)

/-- A linked subject that asserts the address of a pending user gets a key of that user. -/
theorem pending_user_gets_key :
    ¬ ∀ (service : Service) (start : Directory) (first : List Federation.Operation)
        (operation : Federation.Operation),
        IssuesToUsable (run (Federation.perform service) start first).accounts
          (commit (Federation.perform service) (run (Federation.perform service) start first)
            operation).accounts := by
  intro claim
  exact absurd (claim sampleService noDirectory
    [sampleSsoLogin sampleDraws "idp|1" "ada@example.com", sampleJoin]
    (sampleSsoLogin laterDraws "idp|1" "eve@example.com")) (by decide +kernel)

/-! ## Invited users -/

/-- A redeemable invitation, whose stored hash is that of the normalised code, is presented
with an address that it permits and that is free in its tenant. -/
structure Presents (service : Service) (accounts : Accounts) (draws : Draws)
    (body : RegisterRequest) (invitation : Invitation) : Prop where
  flow : body.flow = .invitation
  code : ∃ typed normalized, body.inviteCode = some typed ∧
    normalizeCode service.unicode typed = .ok normalized ∧ invitation.codeHash =
      hashCode service.hmacSha256 normalized service.peppers.activePepper
  member : invitation ∈ accounts.invitations
  alone : ∀ other ∈ accounts.invitations, other.tenantId = invitation.tenantId →
    other.codeHash = invitation.codeHash → other = invitation
  active : invitation.status = .active
  unexpired : ∀ expiry ∈ invitation.expiresAt, draws.now ≤ expiry
  permitted : ∀ email ∈ invitation.email, email = body.email
  unused : getByEmail accounts.users invitation.tenantId body.email = none
  newUser : ∀ user ∈ accounts.users.rows, user.id ≠ draws.userId
  newKey : ∀ key ∈ accounts.keys.rows,
    key.id ≠ draws.keyId ∧ key.keyPrefix ≠ String.ofList draws.keyText.keyPrefix.chars

/-- The registration creates a user in the tenant and with the role of the invitation. -/
def Admits (service : Service) (accounts : Accounts) (draws : Draws) (body : RegisterRequest)
    (invitation : Invitation) : Prop :=
  ∃ after response, register service accounts draws body = .ok (after, response) ∧
    ∃ user ∈ after.users.rows, user.id = draws.userId ∧ user.email = body.email ∧
      user.tenantId = invitation.tenantId ∧ user.orgRole = some invitation.role

section Invited

variable {service : Service} {accounts after : Accounts} {draws : Draws} {body : RegisterRequest}
  {invitation : Invitation} {response : AuthResponse}

theorem Presents.admits (presents : Presents service accounts draws body invitation)
    (default : invitation.tenantId = defaultTenantId)
    (short : ("user:" ++ body.email).length ≤ nameLength) :
    Admits service accounts draws body invitation := by
  obtain ⟨typed, normalized, given, normal, hashed⟩ := presents.code
  have free := presents.unused
  have found := findActive_hashed presents.member presents.alone hashed presents.active
    presents.unexpired normal
  rw [default] at free found
  have addressed : (invitation.email.any fun email => email ≠ body.email) = false := by
    cases limited : invitation.email with
    | none => rfl
    | some email => simpa using presents.permitted email limited
  have typedSome : typed ≠ "" := by
    rintro rfl
    cases normal
  obtain ⟨user, isInvited⟩ : ∃ user, user = invitedUser body draws
      (service.peppers.passwords.hashPassword service.argon2 draws.passwordSalt body.password)
      invitation := ⟨_, rfl⟩
  obtain ⟨users, inserted⟩ : ∃ users, accounts.users.insert user = some users := by
    refine accounts.users.exists_insert fun other member conflict => ?_
    subst isInvited
    exact conflict.elim (presents.newUser other member) fun same =>
      List.find?_eq_none.mp free other member
        (Bool.and_eq_true_iff.mpr ⟨decide_eq_true same.1, decide_eq_true same.2⟩)
  obtain ⟨redeemed, marks⟩ : ∃ redeemed,
      markRedeemed _ invitation.id draws.userId draws.now = some redeemed :=
    ⟨_, if_pos (any_eq_true.mpr ⟨invitation, presents.member, by simp [redeems, presents.active]⟩)⟩
  obtain ⟨committed, issued, issuing⟩ := issueTenantToken_succeeds service
    { accounts with users := users, invitations := redeemed } defaultTenantId draws.userId
    ⟨short, presents.newKey⟩
  have member : user ∈ committed.users.rows := by
    obtain ⟨_, keys, rfl, _⟩ := issueTenantToken_ok issuing
    exact Table.mem_of_insert inserted
  refine ⟨committed, ⟨issued.plaintext, user⟩, ?_, user, member, ?_⟩ <;> subst isInvited
  · simp only [register, free, presents.flow,
      given, typedSome, registerViaInvite, found, addressed]
    rw [createUser_ok_iff.mpr ⟨users, inserted, rfl⟩]
    dsimp only [bind, Except.bind]
    erw [marks]
    change (issueTenantToken service _ draws _ draws.userId body.email >>= _) = _
    rw [issuing]
    rfl
  · exact ⟨rfl, rfl, default.symm, rfl⟩

/-- An invitation admits into its own tenant exactly if that is the default tenant and the
name of the user's first key fits its column. -/
theorem invitation_admits_iff (presents : Presents service accounts draws body invitation) :
    Admits service accounts draws body invitation ↔ invitation.tenantId = defaultTenantId ∧
      ("user:" ++ body.email).length ≤ nameLength := by
  refine ⟨fun ⟨after, response, registers, user, mem, id, _, tenant, _⟩ => ?_,
    fun ⟨default, short⟩ => presents.admits default short⟩
  obtain ⟨_, passwordHash, flowed⟩ := register_ok registers
  rw [presents.flow] at flowed
  obtain ⟨typed, _, _, redeemed⟩ := flowed
  obtain ⟨found, created, _, _, _, _, creating, _, issuing⟩ := registerViaInvite_ok redeemed
  obtain ⟨users, ins, rfl⟩ := createUser_ok_iff.mp creating
  obtain ⟨⟨short, _⟩, keys, rfl, _⟩ := issueTenantToken_ok issuing
  refine ⟨?_, short⟩
  rw [(Table.of_insert ins).1, mem_append, mem_singleton] at mem
  rcases mem with known | rfl
  · exact absurd id (presents.newUser user known)
  · exact tenant.symm

end Invited

def mintedFor (tenantId : Uuid) : Invitation :=
  { mintedInvitation sampleService.hmacSha256 { sampleMint with tenantId := tenantId } with
    codeHash := hashCode sampleService.hmacSha256 "ABCDEFGHJKLM"
      sampleService.peppers.activePepper }

def invitedBody : RegisterRequest :=
  ⟨"Ada", "ada@example.com", "correct horse", .invitation, none, none, some "ABCD-EFGH-JKLM"⟩

theorem presents_minted (tenantId : Uuid) : Presents sampleService
    { noAccounts with invitations := [mintedFor tenantId] } sampleDraws invitedBody
    (mintedFor tenantId) where
  flow := rfl
  code := ⟨"ABCD-EFGH-JKLM", "ABCDEFGHJKLM", rfl, by decide, rfl⟩
  member := mem_singleton_self _
  alone := by simp
  active := rfl
  unexpired := by
    rintro _ ⟨⟩
    exact (by decide : (0 : Int) ≤ 0 + 7 * Invites.microsecondsPerDay)
  permitted := nofun
  unused := rfl
  newUser := nofun
  newKey := nofun

theorem invitation_admits_iff_default : Admits sampleService
    { noAccounts with invitations := [mintedFor defaultTenantId] } sampleDraws invitedBody
    (mintedFor defaultTenantId) :=
  (invitation_admits_iff (presents_minted defaultTenantId)).mpr ⟨rfl, by decide⟩

/-- The code of another tenant's invitation is refused. -/
theorem other_tenants_invitation_refused : ¬ ∀ (service : Service) (accounts : Accounts)
    (draws : Draws) (body : RegisterRequest) (invitation : Invitation),
    Presents service accounts draws body invitation →
      Admits service accounts draws body invitation := by
  intro claim
  obtain ⟨after, response, registers, _⟩ := claim _ _ _ _ _ (presents_minted ⟨2⟩)
  have acc := congrArg Except.isOk registers
  change _ = true at acc
  revert acc
  decide +kernel

end Portcullis.Auth.IssuedKeys
