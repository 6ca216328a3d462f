import Portcullis.Auth.Federation

/-!
# What a request issues

A request keeps the identity of every user and either leaves the keys to the same users or
adds one key, whose tenant and owner depend on the endpoint.
-/

namespace Portcullis.Auth.Issuance

open Auth.Accounts Auth.ApiKeys Auth.Federation Lib List
open Lib.Transactions (ok_of_bind ok_of_map)
open Models

/-! ## Users and keys over time -/

structure SameUser (left right : User) : Prop where
  id : right.id = left.id
  tenantId : right.tenantId = left.tenantId
  email : right.email = left.email

theorem SameUser.refl (user : User) : SameUser user user := ⟨rfl, rfl, rfl⟩

/-- Users are never deleted and keep id, tenant and address. -/
def UsersKept (before after : UserTable) : Prop :=
  ∀ user ∈ before.rows, ∃ later ∈ after.rows, SameUser user later

namespace UsersKept

variable {before middle after : UserTable}

theorem refl (users : UserTable) : UsersKept users users :=
  fun user member => ⟨user, member, .refl user⟩

theorem of_append {added : List User} (rows : after.rows = before.rows ++ added) :
    UsersKept before after := by
  intro user member
  refine ⟨user, ?_, .refl user⟩
  rw [rows]
  exact mem_append_left added member

theorem of_map {change : User → User} (same : ∀ user, SameUser user (change user))
    (rows : after.rows = before.rows.map change) : UsersKept before after := by
  intro user member
  refine ⟨change user, ?_, same user⟩
  rw [rows]
  exact mem_map_of_mem member

theorem trans (first : UsersKept before middle) (second : UsersKept middle after) :
    UsersKept before after := by
  intro user member
  obtain ⟨between, betweenIn, sameFirst⟩ := first user member
  obtain ⟨later, laterIn, sameSecond⟩ := second between betweenIn
  exact ⟨later, laterIn, sameSecond.id.trans sameFirst.id,
    sameSecond.tenantId.trans sameFirst.tenantId, sameSecond.email.trans sameFirst.email⟩

theorem same (kept : UsersKept before after) {user later : User} (member : user ∈ before.rows)
    (laterIn : later ∈ after.rows) (sameId : later.id = user.id) : SameUser user later := by
  obtain ⟨found, foundIn, same⟩ := kept user member
  rw [after.eq_of_conflicts laterIn foundIn (.inl (sameId.trans same.id.symm))]
  exact same

end UsersKept

theorem markSelected_sameUser (selects : User → Bool) (status : UserApprovalStatus)
    (user : User) : SameUser user (markSelected selects status user) :=
  let ⟨id, tenantId, email⟩ := markSelected_same selects status user
  ⟨id, tenantId, email⟩

theorem countOrganization_sameUser (issuerId : Option Uuid) (user : User) :
    SameUser user (countOrganization issuerId user) :=
  let ⟨id, tenantId, email⟩ := countOrganization_same issuerId user
  ⟨id, tenantId, email⟩

structure SameKey (left right : ApiKey) : Prop where
  id : right.id = left.id
  tenantId : right.tenantId = left.tenantId
  userId : right.userId = left.userId

theorem SameKey.refl (key : ApiKey) : SameKey key key := ⟨rfl, rfl, rfl⟩

theorem revoked_sameKey (keyId tenantId : Uuid) (now : Instant) (key : ApiKey) :
    SameKey key (revoked keyId tenantId now key) := by
  unfold revoked
  split
  · exact ⟨rfl, rfl, rfl⟩
  · exact .refl key

/-- Keys are never deleted and keep id, tenant and owner. -/
def KeysKept (before after : KeyTable) : Prop :=
  ∀ key ∈ before.rows, ∃ later ∈ after.rows, SameKey key later

structure Silent (before after : Accounts) : Prop where
  users : UsersKept before.users after.users
  keys : ∃ change : ApiKey → ApiKey, (∀ key, SameKey key (change key)) ∧
    after.keys.rows = before.keys.rows.map change

theorem Silent.of_keys_eq {before after : Accounts} (users : UsersKept before.users after.users)
    (keys : after.keys = before.keys) : Silent before after :=
  ⟨users, id, SameKey.refl, by rw [keys, map_id]⟩

theorem Silent.keysKept {before after : Accounts} (silent : Silent before after) :
    KeysKept before.keys after.keys := by
  obtain ⟨_, change, same, keys⟩ := silent
  intro key member
  refine ⟨change key, ?_, same key⟩
  rw [keys]
  exact mem_map_of_mem member

theorem Silent.refl (accounts : Accounts) : Silent accounts accounts :=
  .of_keys_eq (.refl _) rfl

/-- One key is issued to the user. -/
structure Issued (before after : Accounts) (row : ApiKey) (user : User) : Prop where
  users : UsersKept before.users after.users
  member : user ∈ after.users.rows
  owner : row.userId = some user.id
  keys : after.keys.rows = before.keys.rows ++ [row]

section Issued

variable {before after : Accounts} {row : ApiKey} {user : User}

theorem Issued.rowIn (issued : Issued before after row user) : row ∈ after.keys.rows := by
  rw [issued.keys]
  exact mem_append_right _ (mem_singleton_self row)

theorem Issued.keysKept (issued : Issued before after row user) :
    KeysKept before.keys after.keys := by
  intro key member
  refine ⟨key, ?_, .refl key⟩
  rw [issued.keys]
  exact mem_append_left _ member

theorem Issued.fresh (issued : Issued before after row user) {key : ApiKey}
    (member : key ∈ before.keys.rows) : key.id ≠ row.id := by
  have apart := after.keys.admitted
  rw [issued.keys, pairwise_append] at apart
  exact fun same => apart.2.2 key member row (mem_singleton_self row) (.inl same)

end Issued

/-! ## Issue of a token -/

/-- The name fits its column, and id and prefix are new. -/
def KeyFits (keys : KeyTable) (draws : Draws) (email : String) : Prop :=
  ("user:" ++ email).length ≤ nameLength ∧ ∀ key ∈ keys.rows,
    key.id ≠ draws.keyId ∧ key.keyPrefix ≠ String.ofList draws.keyText.keyPrefix.chars

def Usable (user : User) : Prop := user.isActive = true ∧ user.approvalStatus = .approved

instance (user : User) : Decidable (Usable user) :=
  inferInstanceAs (Decidable (user.isActive = true ∧ user.approvalStatus = .approved))

/-- The tenant of the key and the tenant of its owner. -/
structure Binding (draws : Draws) (keyTenant userTenant : Uuid) (row : ApiKey) (user : User) :
    Prop where
  id : row.id = draws.keyId
  keyTenant : row.tenantId = keyTenant
  userTenant : user.tenantId = userTenant

/-- A subject with a member row asserts the address of an active user. -/
def EntersLinked (accounts : Accounts) (draws : Draws) (subject email : String) (user : User) :
    Prop :=
  (getBySubject accounts.members defaultTenantId subject).isSome = true ∧
    getByEmail accounts.users defaultTenantId email = some user ∧ user.isActive = true ∧
    KeyFits accounts.keys draws user.email

/-- Who owns the key that a federated login issues. -/
def FederatedTerms (before : Accounts) (draws : Draws) (subject email : String) (row : ApiKey)
    (user : User) : Prop :=
  Binding draws defaultTenantId defaultTenantId row user ∧ user.email = email ∧
    (EntersLinked before draws subject email user ∨
      getBySubject before.members defaultTenantId subject = none ∧ Usable user)

/-- An approval is answered exactly if it names a user of the tenant and a key fits. -/
def Approves (accounts : Accounts) (draws : Draws) (tenantId userId bodyUserId : Uuid) : Prop :=
  bodyUserId = userId ∧ ∃ user ∈ accounts.users.rows.find? (hasId tenantId userId),
    KeyFits accounts.keys draws user.email

/-- Who owns the key that a request issues. -/
def Terms (before : Accounts) : Federation.Operation → ApiKey → User → Prop
  | .account (.register draws _), row, user | .account (.login draws _), row, user =>
    Binding draws defaultTenantId defaultTenantId row user ∧ Usable user
  | .account (.approveUser draws tenantId userId bodyUserId), row, user =>
    Binding draws defaultTenantId tenantId row user ∧ Usable user ∧
      Approves before draws tenantId userId bodyUserId
  | .account _, _, _ => False
  | .ssoLogin draws login, row, user =>
    FederatedTerms before draws login.subject login.email row user
  | .clerkSync draws login, row, user =>
    FederatedTerms before draws login.subject login.email row user
  | .provisionTenant draws tenantId _, row, user =>
    Binding draws tenantId tenantId row user ∧ Usable user

/-- Whether a request may be answered without a key. -/
def Quiet : Federation.Operation → Prop
  | .account (.login _ _) | .account (.approveUser _ _ _ _) => False
  | .account _ => True
  | _ => False

section Handlers

variable {service : Service} {before accounts after : Accounts} {draws : Draws}
  {response : AuthResponse}

theorem issueUserToken_eq (service : Service) (accounts : Accounts) (draws : Draws)
    (userId : Uuid) (email : String) :
    issueUserToken service accounts draws userId email =
      issueTenantToken service accounts draws defaultTenantId userId email :=
  rfl

variable {email subject : String} {issued : IssuedKey} {tenantId : Uuid} {user : User}
  {role : OrgMemberRole}

theorem issueTenantToken_succeeds (service : Service) (accounts : Accounts) (tenantId userId : Uuid)
    (fits : KeyFits accounts.keys draws email) :
    ∃ committed issued, issueTenantToken service accounts draws tenantId userId email =
      .ok (committed, issued) := by
  obtain ⟨short, fresh⟩ := fits
  obtain ⟨ins, insertion⟩ := accounts.keys.exists_insert
    (fun key member conflict => conflict.elim (fresh key member).1 (fresh key member).2 :
      ∀ key ∈ accounts.keys.rows, ¬ KeyConflict key (issuedRow service.argon2
        (tokenArgs draws tenantId userId email) service.peppers.activePepper))
  have issuing : issueKey service.argon2 accounts.keys (tokenArgs draws tenantId userId email)
      service.peppers.activePepper = .ok (ins, _) :=
    (issueKey_ok_iff service.argon2).mpr ⟨short, insertion, rfl⟩
  unfold issueTenantToken
  rw [issuing]
  exact ⟨_, _, rfl⟩

theorem issueTenantToken_ok {userId : Uuid}
    (issuing : issueTenantToken service accounts draws tenantId userId email =
      .ok (after, issued)) :
    KeyFits accounts.keys draws email ∧ ∃ keys, after = { accounts with keys := keys } ∧
      keys.rows = accounts.keys.rows ++ [issuedRow service.argon2
        (tokenArgs draws tenantId userId email) service.peppers.activePepper] := by
  unfold issueTenantToken at issuing
  cases issue : issueKey service.argon2 accounts.keys (tokenArgs draws tenantId userId email)
      service.peppers.activePepper with
  | error error =>
    rw [issue] at issuing
    cases issuing
  | ok made =>
    rw [issue] at issuing
    obtain ⟨rfl, rfl⟩ := Prod.mk.inj (Except.ok.inj issuing)
    obtain ⟨short, ins, _⟩ := (issueKey_ok_iff service.argon2).mp issue
    obtain ⟨rows, fresh⟩ := Table.of_insert ins
    exact ⟨⟨short, fun key stored => not_or.mp (fresh key stored)⟩, _, rfl, rows⟩

theorem issueTenantToken_issued
    (issuing : issueTenantToken service accounts draws tenantId user.id email =
      .ok (after, issued)) (users : UsersKept before.users accounts.users)
    (member : user ∈ accounts.users.rows) (keys : accounts.keys = before.keys) :
    KeyFits before.keys draws email ∧
      ∃ row, Binding draws tenantId user.tenantId row user ∧ Issued before after row user := by
  obtain ⟨fits, table, rfl, rows⟩ := issueTenantToken_ok issuing
  rw [keys] at fits rows
  exact ⟨fits, _, ⟨rfl, rfl, rfl⟩, users, member, rfl, rows⟩

theorem enrolled_issued {created joined : Accounts}
    (creating : createUser accounts user = .ok created)
    (issuing : issueTenantToken service joined draws tenantId user.id email = .ok (after, issued))
    (sameUsers : joined.users = created.users) (sameKeys : joined.keys = created.keys)
    (users : UsersKept before.users accounts.users) (keys : accounts.keys = before.keys) :
    ∃ row, Binding draws tenantId user.tenantId row user ∧ Issued before after row user := by
  obtain ⟨createdKeys, rows, _⟩ := createUser_ok creating
  refine (issueTenantToken_issued issuing ?_ ?_ ?_).2
  · rw [sameUsers]
    exact users.trans (.of_append rows)
  · rw [sameUsers, rows]
    exact mem_append_right _ (mem_singleton_self user)
  · rw [sameKeys, createdKeys, keys]

/-! ### Registration, login and approval -/

theorem register_outcome {body : RegisterRequest}
    (hok : register service before draws body = .ok (after, response)) :
    Silent before after ∨ ∃ row user, Issued before after row user ∧
      Terms before (.account (.register draws body)) row user := by
  obtain ⟨user, tenant, active, ⟨approved, enrolled⟩ | ⟨_, creating⟩⟩ :=
    register_creates hok
  · obtain ⟨created, joined, issued, creating, sameUsers, sameKeys, issuing⟩ := enrolled
    obtain ⟨row, binding, added⟩ :=
      enrolled_issued creating issuing sameUsers sameKeys (.refl _) rfl
    rw [tenant] at binding
    exact .inr ⟨row, user, added, binding, active, approved⟩
  · obtain ⟨keys, rows, _⟩ := createUser_ok creating
    exact .inl (.of_keys_eq (.of_append rows) keys)

theorem getByEmail_some {users : UserTable} (found : getByEmail users tenantId email = some user) :
    user ∈ users.rows ∧ user.tenantId = tenantId ∧ user.email = email := by
  have sel := List.find?_some found
  rw [Bool.and_eq_true, decide_eq_true_iff, decide_eq_true_iff] at sel
  exact ⟨mem_of_find?_eq_some found, sel⟩

theorem login_issued {body : LoginRequest}
    (hok : login service before draws body = .ok (after, response)) :
    ∃ row user, Issued before after row user ∧ Terms before (.account (.login draws body))
      row user := by
  obtain ⟨user, issued, found, active, approved, issuing⟩ := login_ok hok
  obtain ⟨member, tenant, _⟩ := getByEmail_some found
  obtain ⟨_, row, binding, added⟩ := issueTenantToken_issued issuing (.refl _) member rfl
  rw [tenant] at binding
  exact ⟨row, user, added, binding, active, approved⟩

theorem approveUser_succeeds (service : Service) {userId bodyUserId : Uuid}
    (approves : Approves before draws tenantId userId bodyUserId) :
    ∃ answered, approveUser service before draws tenantId userId bodyUserId = .ok answered := by
  obtain ⟨rfl, user, found, fits⟩ := approves
  obtain ⟨committed, issued, issuing⟩ := issueTenantToken_succeeds service
    { before with users := setApprovalStatus before.users (hasId tenantId bodyUserId) .approved }
    defaultTenantId user.id fits
  unfold approveUser
  rw [if_neg (not_not.mpr rfl), Option.mem_def.mp found]
  dsimp only
  rw [issueUserToken_eq, issuing]
  exact ⟨_, rfl⟩

theorem approveUser_issued {userId bodyUserId : Uuid}
    (hok : approveUser service before draws tenantId userId bodyUserId =
      .ok (after, response)) :
    ∃ row user, Issued before after row user ∧
      Terms before (.account (.approveUser draws tenantId userId bodyUserId)) row user := by
  obtain ⟨matching, user, issued, found, issuing⟩ := approveUser_ok hok
  have sel : hasId tenantId userId user = true := List.find?_some found
  have tenant : user.tenantId = tenantId := by
    simpa using (Bool.and_eq_true_iff.mp sel).1
  have approved : withStatus .approved user ∈
      (setApprovalStatus before.users (hasId tenantId userId) .approved).rows := by
    refine mem_map.mpr ⟨user, mem_of_find?_eq_some found, ?_⟩
    rw [markSelected, if_pos sel]
  have toApproved : issueTenantToken service _ draws defaultTenantId
      (withStatus .approved user).id user.email = .ok (after, issued) := issuing
  obtain ⟨fits, row, binding, added⟩ := issueTenantToken_issued toApproved
    (.of_map (markSelected_sameUser _ _) rfl) approved rfl
  exact ⟨row, _, added, ⟨binding.id, binding.keyTenant, tenant⟩, ⟨rfl, rfl⟩, matching, user,
    found, fits⟩

/-! ### Federated logins -/

theorem issueSession_issued
    (hok : issueSession service accounts draws user = .ok (after, response))
    (users : UsersKept before.users accounts.users) (member : user ∈ accounts.users.rows)
    (keys : accounts.keys = before.keys) :
    KeyFits before.keys draws user.email ∧
      ∃ row, Binding draws defaultTenantId user.tenantId row user ∧
        Issued before after row user := by
  obtain ⟨⟨committed, issued⟩, issuing, done⟩ := ok_of_bind hok
  obtain ⟨rfl, _⟩ := Prod.mk.inj (Except.ok.inj done)
  exact issueTenantToken_issued issuing users member keys

theorem linkMember_ok {linked : Accounts}
    (hok : linkMember accounts draws subject role = .ok linked) :
    linked.keys = accounts.keys ∧ linked.users = accounts.users := by
  unfold linkMember at hok
  split at hok
  · exact createMember_ok hok
  · cases hok

theorem enterLinked_issued {refusal : Failure}
    (linked : (getBySubject before.members defaultTenantId subject).isSome = true)
    (hok : enterLinked service before draws email refusal = .ok (after, response)) :
    ∃ row user, Issued before after row user ∧
      FederatedTerms before draws subject email row user := by
  unfold enterLinked at hok
  split at hok
  · cases hok
  rename_i user found
  split at hok
  · cases hok
  rename_i active
  obtain ⟨member, tenant, address⟩ := getByEmail_some found
  obtain ⟨fits, row, binding, added⟩ := issueSession_issued hok (.refl _) member rfl
  rw [tenant] at binding
  exact ⟨row, user, added, binding, address, .inl ⟨linked, found, by simpa using active, fits⟩⟩

theorem enterLinked_succeeds (service : Service) (refusal : Failure)
    (enters : EntersLinked before draws subject email user) :
    ∃ answered, enterLinked service before draws email refusal = .ok answered := by
  obtain ⟨_, found, active, fits⟩ := enters
  obtain ⟨committed, issued, issuing⟩ :=
    issueTenantToken_succeeds service before defaultTenantId user.id fits
  unfold enterLinked issueSession
  rw [found]
  dsimp only
  rw [active, issueUserToken_eq, issuing]
  exact ⟨_, rfl⟩

theorem linkUser_issued (unlinked : getBySubject before.members defaultTenantId subject = none)
    (found : getByEmail before.users defaultTenantId email = some user) (usable : Usable user)
    (hok : linkUser service before draws subject role user = .ok (after, response)) :
    ∃ row user, Issued before after row user ∧
      FederatedTerms before draws subject email row user := by
  obtain ⟨linked, linking, issuing⟩ := ok_of_bind hok
  obtain ⟨sameKeys, sameUsers⟩ := linkMember_ok linking
  obtain ⟨member, tenant, address⟩ := getByEmail_some found
  obtain ⟨_, row, binding, added⟩ := issueSession_issued issuing
    (sameUsers ▸ .refl _) (sameUsers ▸ member) sameKeys
  rw [tenant] at binding
  exact ⟨row, user, added, binding, address, .inr ⟨unlinked, usable⟩⟩

theorem createLinked_issued (unlinked : getBySubject before.members defaultTenantId subject = none)
    (tenant : user.tenantId = defaultTenantId) (address : user.email = email) (usable : Usable user)
    (hok : createLinked service before draws subject role user = .ok (after, response)) :
    ∃ row user, Issued before after row user ∧
      FederatedTerms before draws subject email row user := by
  obtain ⟨created, creating, joining⟩ := ok_of_bind hok
  obtain ⟨joined, linking, committing⟩ := ok_of_bind joining
  obtain ⟨⟨committed, issued⟩, issuing, done⟩ := ok_of_bind committing
  obtain ⟨rfl, _⟩ := Prod.mk.inj (Except.ok.inj done)
  obtain ⟨sameKeys, sameUsers⟩ := linkMember_ok linking
  obtain ⟨row, binding, added⟩ :=
    enrolled_issued creating issuing sameUsers sameKeys (.refl _) rfl
  rw [tenant] at binding
  exact ⟨row, user, added, binding, address, .inr ⟨unlinked, usable⟩⟩

theorem linkOrCreate_issued {login : SsoLogin}
    (hok : linkOrCreate service before draws login = .ok (after, response)) :
    ∃ row user, Issued before after row user ∧
      FederatedTerms before draws login.subject login.email row user := by
  unfold linkOrCreate at hok
  split at hok
  · rename_i linked
    exact enterLinked_issued (by rw [linked]; rfl) hok
  rename_i unlinked
  split at hok
  · rename_i user found
    split at hok
    · cases hok
    rename_i approved
    split at hok
    · cases hok
    · rename_i active
      exact linkUser_issued unlinked found ⟨by simpa using active, not_not.mp approved⟩ hok
  · exact createLinked_issued unlinked rfl rfl ⟨rfl, rfl⟩ hok

theorem linkOrCreate_succeeds (service : Service) {login : SsoLogin}
    (enters : EntersLinked before draws login.subject login.email user) :
    ∃ answered, linkOrCreate service before draws login = .ok answered := by
  obtain ⟨member, linked⟩ := Option.isSome_iff_exists.mp enters.1
  unfold linkOrCreate
  rw [linked]
  exact enterLinked_succeeds service accountDisabled enters

theorem clerkSync_issued {login : ClerkLogin}
    (hok : clerkSync service before draws login = .ok (after, response)) :
    ∃ row user, Issued before after row user ∧
      FederatedTerms before draws login.subject login.email row user := by
  unfold clerkSync at hok
  split at hok
  · rename_i linked
    exact enterLinked_issued (by rw [linked]; rfl) hok
  rename_i unlinked
  split at hok
  · rename_i user found
    split at hok
    · cases hok
    rename_i unpending
    split at hok
    · cases hok
    rename_i unrejected
    split at hok
    · cases hok
    · rename_i active
      refine linkUser_issued unlinked found ⟨by simpa using active, ?_⟩ hok
      exact approved_of_not unpending unrejected
  · exact createLinked_issued unlinked rfl rfl ⟨rfl, rfl⟩ hok

theorem clerkSync_succeeds (service : Service) {login : ClerkLogin}
    (enters : EntersLinked before draws login.subject login.email user) :
    ∃ answered, clerkSync service before draws login = .ok answered := by
  obtain ⟨member, linked⟩ := Option.isSome_iff_exists.mp enters.1
  unfold clerkSync
  rw [linked]
  exact enterLinked_succeeds service invalidCredentials enters

/-! ### Provisioning -/

theorem provisionTenant_issued {directory provisioned : Directory} {request : ProvisionRequest}
    (hok : provisionTenant service directory draws tenantId request =
      .ok (provisioned, response)) :
    ∃ row user, Issued directory.accounts provisioned.accounts row user ∧
      Terms directory.accounts (.provisionTenant draws tenantId request) row user := by
  unfold provisionTenant at hok
  split at hok
  · cases hok
  split at hok
  · cases hok
  split at hok
  · cases hok
  obtain ⟨created, creating, joining⟩ := ok_of_bind hok
  obtain ⟨joined, joins, committing⟩ := ok_of_bind joining
  obtain ⟨⟨committed, issued⟩, issuing, done⟩ := ok_of_bind committing
  obtain ⟨rfl, _⟩ := Prod.mk.inj (Except.ok.inj done)
  obtain ⟨sameKeys, sameUsers⟩ := createMember_ok joins
  have counted := countOrganization_sameUser request.issuerId
  obtain ⟨row, binding, added⟩ := enrolled_issued creating issuing sameUsers sameKeys
    (.of_map counted rfl) rfl
  exact ⟨row, _, added, binding, rfl, rfl⟩

/-! ### Any request -/

theorem performAccount_outcome {operation : Accounts.Operation}
    (hok : Accounts.perform service before operation = .ok after) :
    Silent before after ∧ Quiet (.account operation) ∨
      ∃ row user, Issued before after row user ∧ Terms before (.account operation) row user := by
  cases operation with
  | register draws body =>
    obtain ⟨⟨accounts, response⟩, handled, rfl⟩ := ok_of_map hok
    exact (register_outcome handled).imp_left fun silent => ⟨silent, trivial⟩
  | login draws body =>
    obtain ⟨⟨accounts, response⟩, handled, rfl⟩ := ok_of_map hok
    exact .inr (login_issued handled)
  | approveUser draws tenantId userId bodyUserId =>
    obtain ⟨⟨accounts, response⟩, handled, rfl⟩ := ok_of_map hok
    exact .inr (approveUser_issued handled)
  | rejectUser tenantId userId =>
    rw [rejectUser_ok hok]
    exact .inl ⟨.of_keys_eq (.of_map (markSelected_sameUser _ _) rfl) rfl, trivial⟩
  | scimDeleteUser tenantId scimId =>
    obtain ⟨member, _, rfl⟩ := scimDeleteUser_ok hok
    exact .inl ⟨.of_keys_eq (.of_map (markSelected_sameUser _ _) rfl) rfl, trivial⟩
  | revokeKey keyId tenantId now =>
    obtain ⟨users, keys⟩ := perform_revokeKey_ok hok
    refine .inl ⟨⟨?_, _, revoked_sameKey keyId tenantId now, keys⟩, trivial⟩
    rw [users]
    exact .refl _

theorem perform_outcome {directory later : Directory} {operation : Federation.Operation}
    (hok : Federation.perform service directory operation = .ok later) :
    Silent directory.accounts later.accounts ∧ Quiet operation ∨
      ∃ row user, Issued directory.accounts later.accounts row user ∧
        Terms directory.accounts operation row user := by
  cases operation with
  | account operation =>
    obtain ⟨accounts, handled, rfl⟩ := ok_of_map hok
    exact performAccount_outcome handled
  | ssoLogin draws login =>
    obtain ⟨⟨accounts, response⟩, handled, rfl⟩ := ok_of_map hok
    exact .inr (linkOrCreate_issued handled)
  | clerkSync draws login =>
    obtain ⟨⟨accounts, response⟩, handled, rfl⟩ := ok_of_map hok
    exact .inr (clerkSync_issued handled)
  | provisionTenant draws tenantId request =>
    obtain ⟨⟨provisioned, response⟩, handled, rfl⟩ := ok_of_map hok
    exact .inr (provisionTenant_issued handled)

end Handlers

end Portcullis.Auth.Issuance
