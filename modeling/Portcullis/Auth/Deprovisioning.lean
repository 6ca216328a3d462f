import Portcullis.Auth.Accounts
import Portcullis.Auth.PepperRotation

/-!
# Keys of deprovisioned users

Rejecting or deleting a user changes the users table; whether a key authenticates is read
from the keys table alone.  A user who is rejected or deactivated while one of their keys
is live keeps access through it.
-/

namespace Portcullis.Auth.Deprovisioning

open Auth.Accounts Auth.ApiKeys Auth.Passwords Lib List
open Lib.Transactions (ok_of_map)
open Models

/-- Rejected or deactivated, and not approved since. -/
def Deprovisioned (user : User) : Prop :=
  user.approvalStatus = .rejected ∨ user.isActive = false

instance (user : User) : Decidable (Deprovisioned user) :=
  inferInstanceAs (Decidable (user.approvalStatus = .rejected ∨ user.isActive = false))

section Keys

variable (service : Service)

def Authenticates (accounts : Accounts) (key : ApiKey) : Prop :=
  ∃ verifyJwt now raw used, authenticate service.argon2 service.peppers verifyJwt accounts.keys
    now raw = .ok (keyPrincipal key, used)

/-- No key of a deprovisioned user authenticates. -/
def LockedOut (accounts : Accounts) : Prop :=
  ∀ user ∈ accounts.users.rows, Deprovisioned user →
    ∀ key ∈ accounts.keys.rows, key.userId = some user.id → ¬ Authenticates service accounts key

def Minted (keys : KeyTable) : Prop :=
  ∀ key ∈ keys.rows, ∃ text pepper, Hashes service.argon2 key text pepper ∧
    (pepper = service.peppers.activePepper ∨ pepper = service.peppers.apiKeyPepper)

def NoLiveKey (keys : List ApiKey) (user : User) : Prop :=
  ∀ key ∈ keys, key.userId = some user.id → key.revokedAt ≠ none

instance (keys : List ApiKey) (user : User) : Decidable (NoLiveKey keys user) :=
  inferInstanceAs (Decidable (∀ key ∈ keys, key.userId = some user.id → key.revokedAt ≠ none))

/-- Whom an operation rejects or deactivates. -/
def deactivates (accounts : Accounts) : Operation → User → Bool
  | .rejectUser tenantId userId => hasId tenantId userId
  | .scimDeleteUser tenantId scimId => isScimUser service accounts tenantId scimId
  | _ => fun _ => false

/-- Whoever the operation deactivates has no live key. -/
def Clean (accounts : Accounts) (operation : Operation) : Prop :=
  ∀ user ∈ accounts.users.rows, deactivates service accounts operation user = true →
    NoLiveKey accounts.keys.rows user

instance (accounts : Accounts) (operation : Operation) :
    Decidable (Clean service accounts operation) :=
  inferInstanceAs (Decidable (∀ user ∈ accounts.users.rows, _ → _))

variable {service}

theorem authenticates_iff {accounts : Accounts} (minted : Minted service accounts.keys)
    {key : ApiKey} (mem : key ∈ accounts.keys.rows) :
    Authenticates service accounts key ↔ key.revokedAt = none := by
  constructor
  · rintro ⟨verifyJwt, now, raw, used, acc⟩
    obtain ⟨row, rowIn, live, same⟩ := live_of_authenticate acc rfl
    have sameId : row.id = key.id :=
      Uuid.str_injective _ _ (congrArg (fun principal => principal.subjectId) same).symm
    rw [← accounts.keys.eq_of_conflicts rowIn mem (.inl sameId)]
    exact live
  · intro live
    obtain ⟨text, pepper, hashes, known⟩ := minted key mem
    refine ⟨none, 0, text.plaintext, noteUse accounts.keys key 0, ?_⟩
    rw [authenticate_plaintext mem live hashes, if_pos known]

theorem lockedOut_iff {accounts : Accounts} (minted : Minted service accounts.keys) :
    LockedOut service accounts ↔
      ∀ user ∈ accounts.users.rows, Deprovisioned user → NoLiveKey accounts.keys.rows user := by
  constructor
  · intro locked user userIn deprovisioned key keyIn owned live
    exact locked user userIn deprovisioned key keyIn owned
      ((authenticates_iff minted keyIn).mpr live)
  · intro noKey user userIn deprovisioned key keyIn owned acc
    exact noKey user userIn deprovisioned key keyIn owned
      ((authenticates_iff minted keyIn).mp acc)

end Keys

/-! ## What an operation does -/

/-- What an operation can do to the users and to the keys. -/
inductive Change (service : Service) (before : Accounts) (operation : Operation)
    (after : Accounts) : Prop where
  | kept (keys : after.keys = before.keys)
      (users : ∀ user ∈ after.users.rows, Deprovisioned user → user ∈ before.users.rows)
      (harmless : ∀ user ∈ before.users.rows, deactivates service before operation user = false)
  | granted (owner : Uuid) (row : ApiKey) (text : KeyText) (issuedTo : row.userId = some owner)
      (hashes : Hashes service.argon2 row text service.peppers.activePepper)
      (keys : after.keys.rows = before.keys.rows ++ [row])
      (users : ∀ user ∈ after.users.rows, Deprovisioned user →
        user ∈ before.users.rows ∧ user.id ≠ owner)
      (harmless : ∀ user, deactivates service before operation user = false)
  | deactivated (keys : after.keys = before.keys) (users : after.users.rows = before.users.rows.map
        (markSelected (deactivates service before operation) .rejected))
  | revoked (keyId tenantId : Uuid) (now : Instant)
      (keys : after.keys.rows = before.keys.rows.map (revoked keyId tenantId now))
      (users : after.users = before.users)
      (harmless : ∀ user, deactivates service before operation user = false)

section Handlers

variable {service : Service} {before after : Accounts}

theorem not_deprovisioned {user : User} (active : user.isActive = true)
    (unrejected : user.approvalStatus ≠ .rejected) : ¬ Deprovisioned user := by
  rintro (rejected | inactive)
  · exact unrejected rejected
  · rw [active] at inactive
    cases inactive

theorem Change.enrolled {operation : Operation} {user : User} {draws : Draws}
    (usable : ¬ Deprovisioned user) (enrolled : Enrolled service before draws user after)
    (harmless : ∀ user, deactivates service before operation user = false) :
    Change service before operation after := by
  obtain ⟨created, joined, issued, creating, sameUsers, sameKeys, issuing⟩ := enrolled
  obtain ⟨keys, rows, fresh⟩ := createUser_ok creating
  obtain ⟨users, row, issuedTo, hashes, added⟩ := issueUserToken_ok issuing
  refine .granted user.id row draws.keyText issuedTo hashes ?_ ?_ harmless
  · rw [added, sameKeys, keys]
  intro other mem deprovisioned
  rw [users, sameUsers, rows, mem_append, mem_singleton] at mem
  rcases mem with prev | rfl
  · exact ⟨prev, fun same => fresh other prev (.inl same)⟩
  · exact absurd deprovisioned usable

theorem register_change {draws : Draws} {body : RegisterRequest} {resp : AuthResponse}
    (hok : register service before draws body = .ok (after, resp)) :
    Change service before (.register draws body) after := by
  obtain ⟨user, _, active, ⟨status, enrolled⟩ | ⟨status, creating⟩⟩ :=
    register_creates hok
  · exact .enrolled (not_deprovisioned active (by rw [status]; decide)) enrolled fun _ => rfl
  · obtain ⟨keys, rows, _⟩ := createUser_ok creating
    refine .kept keys ?_ fun _ _ => rfl
    intro other mem deprovisioned
    rw [rows, mem_append, mem_singleton] at mem
    rcases mem with prev | rfl
    · exact prev
    · exact absurd deprovisioned (not_deprovisioned active (by rw [status]; decide))

theorem login_change {draws : Draws} {body : LoginRequest} {resp : AuthResponse}
    (hok : login service before draws body = .ok (after, resp)) :
    Change service before (.login draws body) after := by
  obtain ⟨user, issued, found, active, status, issuing⟩ := login_ok hok
  obtain ⟨users, row, issuedTo, hashes, added⟩ := issueUserToken_ok issuing
  refine .granted user.id row draws.keyText issuedTo hashes added ?_ fun _ => rfl
  intro other mem deprovisioned
  rw [users] at mem
  refine ⟨mem, fun same => ?_⟩
  have isUser : other = user := before.users.eq_of_conflicts mem
    (mem_of_find?_eq_some found) (.inl same)
  rw [isUser] at deprovisioned
  exact not_deprovisioned active (by rw [status]; decide) deprovisioned

theorem approveUser_change {draws : Draws} {tenantId userId bodyUserId : Uuid}
    {resp : AuthResponse}
    (hok : approveUser service before draws tenantId userId bodyUserId =
      .ok (after, resp)) :
    Change service before (.approveUser draws tenantId userId bodyUserId) after := by
  obtain ⟨_, user, issued, found, issuing⟩ := approveUser_ok hok
  obtain ⟨users, row, issuedTo, hashes, added⟩ := issueUserToken_ok issuing
  refine .granted user.id row draws.keyText issuedTo hashes added ?_ fun _ => rfl
  intro other mem deprovisioned
  rw [users] at mem
  obtain ⟨prev, earlierIn, rfl⟩ := mem_map.mp mem
  have unselected : hasId tenantId userId prev = false := by
    by_contra sel
    rw [markSelected, if_pos (by simpa using sel)] at deprovisioned
    exact not_deprovisioned rfl (show UserApprovalStatus.approved ≠ .rejected by decide)
      deprovisioned
  rw [markSelected, unselected]
  refine ⟨earlierIn, fun same => ?_⟩
  have isUser : prev = user := before.users.eq_of_conflicts earlierIn
    (mem_of_find?_eq_some found) (.inl same)
  rw [isUser, List.find?_some found] at unselected
  cases unselected

theorem deactivates_of_error {operation : Operation} {failure : Failure}
    (failed : perform service before operation = .error failure) :
    ∀ user ∈ before.users.rows, deactivates service before operation user = false := by
  intro user mem
  cases operation with
  | rejectUser tenantId userId =>
    simp only [perform, rejectUser] at failed
    split at failed
    · cases failed
    · rename_i missing
      exact Bool.eq_false_iff.mpr fun sel =>
        missing (any_eq_true.mpr ⟨user, mem, sel⟩)
  | scimDeleteUser tenantId scimId =>
    simp only [perform, scimDeleteUser] at failed
    split at failed
    · rename_i missing
      simp [deactivates, isScimUser, scimUser, missing]
    · cases failed
  | _ => rfl

theorem perform_change {operation : Operation}
    (hok : perform service before operation = .ok after) :
    Change service before operation after := by
  cases operation with
  | register draws body =>
    obtain ⟨⟨accounts, resp⟩, handled, rfl⟩ := ok_of_map hok
    exact register_change handled
  | login draws body =>
    obtain ⟨⟨accounts, resp⟩, handled, rfl⟩ := ok_of_map hok
    exact login_change handled
  | approveUser draws tenantId userId bodyUserId =>
    obtain ⟨⟨accounts, resp⟩, handled, rfl⟩ := ok_of_map hok
    exact approveUser_change handled
  | rejectUser tenantId userId =>
    rw [rejectUser_ok hok]
    exact .deactivated rfl rfl
  | scimDeleteUser tenantId scimId =>
    obtain ⟨mem, _, rfl⟩ := scimDeleteUser_ok hok
    exact .deactivated rfl rfl
  | revokeKey keyId tenantId now =>
    obtain ⟨users, keys⟩ := perform_revokeKey_ok hok
    exact .revoked keyId tenantId now keys users fun _ => rfl

theorem step_change (service : Service) (before : Accounts) (operation : Operation) :
    Change service before operation (step service before operation) := by
  refine Transactions.commit_cases (Change service before operation) ?_ fun _ => perform_change
  intro failure failed
  exact .kept rfl (fun user mem _ => mem) (deactivates_of_error failed)

end Handlers

/-! ## Runs -/

section Runs

variable {service : Service} {before after : Accounts} {operation : Operation}

theorem Change.minted (change : Change service before operation after)
    (minted : Minted service before.keys) : Minted service after.keys := by
  cases change with
  | kept keys _ _ => rwa [keys]
  | granted owner row text _ hashes keys _ _ =>
    intro key mem
    rw [keys, mem_append, mem_singleton] at mem
    rcases mem with prev | rfl
    · exact minted key prev
    · exact ⟨text, _, hashes, .inl rfl⟩
  | deactivated keys _ => rwa [keys]
  | revoked keyId tenantId now keys _ _ =>
    intro key mem
    rw [keys] at mem
    obtain ⟨prev, earlierIn, rfl⟩ := mem_map.mp mem
    obtain ⟨text, pepper, hashes, known⟩ := minted prev earlierIn
    refine ⟨text, pepper, ?_, known⟩
    unfold ApiKeys.revoked
    split
    · exact ⟨hashes.keyPrefix, hashes.keyHash⟩
    · exact hashes

theorem noLiveKey_append {keys : List ApiKey} {row : ApiKey} {owner : Uuid} {user : User}
    (issuedTo : row.userId = some owner) (other : user.id ≠ owner) (noKey : NoLiveKey keys user) :
    NoLiveKey (keys ++ [row]) user := by
  intro key mem owned
  rw [mem_append, mem_singleton] at mem
  rcases mem with prev | rfl
  · exact noKey key prev owned
  · exact absurd (Option.some.inj (owned.symm.trans issuedTo)) other

theorem noLiveKey_revoked {keys : List ApiKey} {user : User} (keyId tenantId : Uuid)
    (now : Instant) (noKey : NoLiveKey keys user) :
    NoLiveKey (keys.map (ApiKeys.revoked keyId tenantId now)) user := by
  intro key mem owned
  obtain ⟨prev, earlierIn, rfl⟩ := mem_map.mp mem
  unfold ApiKeys.revoked at owned ⊢
  split at owned
  · rename_i hit
    rw [if_pos hit]
    nofun
  · rename_i missed
    rw [if_neg missed]
    exact noKey prev earlierIn owned

theorem Change.lockedOut_iff (change : Change service before operation after)
    (minted : Minted service before.keys) (locked : LockedOut service before) :
    LockedOut service after ↔ Clean service before operation := by
  rw [Deprovisioning.lockedOut_iff (change.minted minted)]
  rw [Deprovisioning.lockedOut_iff minted] at locked
  cases change with
  | kept keys users harmless =>
    refine ⟨fun _ user mem sel => ?_, fun _ user mem deprovisioned => ?_⟩
    · rw [harmless user mem] at sel
      cases sel
    · rw [keys]
      exact locked user (users user mem deprovisioned) deprovisioned
  | granted owner row text issuedTo hashes keys users harmless =>
    refine ⟨fun _ user _ sel => ?_, fun _ user mem deprovisioned => ?_⟩
    · rw [harmless user] at sel
      cases sel
    · obtain ⟨prev, other⟩ := users user mem deprovisioned
      rw [keys]
      exact noLiveKey_append issuedTo other (locked user prev deprovisioned)
  | revoked keyId tenantId now keys users harmless =>
    refine ⟨fun _ user _ sel => ?_, fun _ user mem deprovisioned => ?_⟩
    · rw [harmless user] at sel
      cases sel
    · rw [users] at mem
      rw [keys]
      exact noLiveKey_revoked keyId tenantId now (locked user mem deprovisioned)
  | deactivated keys users =>
    rw [keys, users]
    constructor
    · intro noKey user mem sel
      have rejected := noKey (markSelected (deactivates service before operation) .rejected user)
        (mem_map_of_mem mem) (by rw [markSelected, if_pos sel]; exact .inl rfl)
      rw [markSelected, if_pos sel] at rejected
      exact rejected
    · intro clean user mem deprovisioned
      obtain ⟨prev, earlierIn, rfl⟩ := mem_map.mp mem
      by_cases sel : deactivates service before operation prev = true
      · rw [markSelected, if_pos sel]
        exact clean prev earlierIn sel
      · rw [markSelected, if_neg sel] at deprovisioned ⊢
        exact locked prev earlierIn deprovisioned

end Runs

def CleanRun (service : Service) (start : Accounts) (operations : List Operation) : Prop :=
  Transactions.Along (perform service) (Clean service) start operations

instance (service : Service) (start : Accounts) (operations : List Operation) :
    Decidable (CleanRun service start operations) :=
  inferInstanceAs
    (Decidable (Transactions.Along (perform service) (Clean service) start operations))

/-- Deprovisioned users are locked out in every state of a run exactly if no user is
rejected or deactivated while one of their keys is live. -/
theorem deprovisioned_locked_out_iff (service : Service) (start : Accounts)
    (operations : List Operation) (minted : Minted service start.keys)
    (locked : LockedOut service start) :
    (∀ first rest, operations = first ++ rest → LockedOut service (run service start first)) ↔
      CleanRun service start operations :=
  Transactions.throughout_iff_along _ _
    (fun before operation held => (step_change service before operation).minted held)
    (fun before operation held good =>
      (step_change service before operation).lockedOut_iff held good)
    minted locked operations

/-! ## One account -/

def noAccounts : Accounts := ⟨Table.empty, Table.empty, Table.empty, []⟩

def sampleService : Service where
  argon2 := plainHasher
  hmacSha256 key message := key ++ message
  unicode := PyStr.asciiCase
  peppers := ⟨PepperRotation.oldPepper, none⟩
  parseUuid _ := none

def sampleDraws : Draws where
  now := 0
  userId := ⟨2⟩
  memberId := ⟨3⟩
  passwordSalt := 0
  keyId := ⟨4⟩
  keyText := PepperRotation.sampleText
  keySalt := 0
  license := none

def sampleRegistration (flow : RegisterFlow) : Operation :=
  .register sampleDraws ⟨"Ada", "ada@example.com", "correct horse", flow, none, none, none⟩

def sampleRejection : Operation := .rejectUser defaultTenantId ⟨2⟩

theorem lockedOut_noAccounts : LockedOut sampleService noAccounts := nofun

theorem minted_noAccounts : Minted sampleService noAccounts.keys := nofun

/-- A request to join that is rejected leaves nothing behind. -/
theorem deprovisioned_locked_out_iff_sample : LockedOut sampleService (run sampleService noAccounts
      [sampleRegistration .join, sampleRejection]) :=
  (deprovisioned_locked_out_iff sampleService noAccounts
    [sampleRegistration .join, sampleRejection] minted_noAccounts lockedOut_noAccounts).mpr
    (by decide) _ [] rfl

/-- An owner who is rejected goes on using the key of their registration. -/
theorem rejected_owner_authenticates :
    ¬ ∀ (service : Service) (start : Accounts) (operations first rest : List Operation),
        Minted service start.keys → LockedOut service start → operations = first ++ rest →
        LockedOut service (run service start first) := by
  intro claim
  have locked := claim sampleService noAccounts _ [sampleRegistration .create, sampleRejection] []
    minted_noAccounts lockedOut_noAccounts rfl
  have minted := (step_change _ _ sampleRejection).minted
    ((step_change _ _ (sampleRegistration .create)).minted minted_noAccounts)
  exact absurd ((lockedOut_iff minted).mp locked) (by decide)

end Portcullis.Auth.Deprovisioning
