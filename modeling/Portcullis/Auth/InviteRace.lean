import Portcullis.Auth.IssuedKeys
import Portcullis.Lib.ReadCommitted

/-!
# Racing redemptions

`_register_via_invite` and `revoke_invite` of `app/api/auth.py` as programs whose
statements are steps of their own.  Both end the life of an invitation with an UPDATE that
asks for an active row; what else an attempt has written is committed with that UPDATE in
`issue_key`, or rolled back.
-/

namespace Portcullis.Auth.InviteRace

open Auth.Accounts Auth.ApiKeys List
open Auth.Invites (getByCodeHash hashCode normalizeCode)
open Lib Lib.ReadCommitted Lib.Session Models

/-! ## Statements -/

/-- What an UPDATE of an active invitation makes of it. -/
inductive Mark where
  | redeem (redeemedBy : Uuid) (now : Instant)
  | revoke (tenantId : Uuid) (now : Instant)

def Mark.selects : Mark → Invitation → Bool
  | .redeem _ _, _ => true
  | .revoke tenantId _, invitation => invitation.tenantId = tenantId

def Mark.apply : Mark → Invitation → Invitation
  | .redeem redeemedBy now, invitation =>
    { invitation with status := .used, redeemedBy := some redeemedBy, redeemedAt := some now }
  | .revoke _ now, invitation => { invitation with status := .revoked, revokedAt := some now }

inductive Op where
  | getByCodeHash (tenantId : Uuid) (codeHash : String)
  | insertUser (user : User)
  | update (inviteId : Uuid) (mark : Mark)
  | insertKey (row : ApiKey)

/-- An update answers whether it has found a row. -/
abbrev Ans : Op → Type
  | .getByCodeHash _ _ => Option Invitation
  | .insertUser _ => Unit
  | .update _ _ => Bool
  | .insertKey _ => Unit

variable (inviteId : Uuid)

def markRedeemed (redeemedBy : Uuid) (now : Instant) : Op :=
  .update inviteId (.redeem redeemedBy now)

def revoke (tenantId : Uuid) (now : Instant) : Op :=
  .update inviteId (.revoke tenantId now)

def finds (mark : Mark) (invitation : Invitation) : Bool :=
  invitation.id = inviteId && mark.selects invitation && invitation.status = .active

def marked (mark : Mark) (invitation : Invitation) : Invitation :=
  if finds inviteId mark invitation then mark.apply invitation else invitation

def rejection : DbError → Rejection
  | .integrityError => .violation
  | .dataError => .fault

def execute (accounts : Accounts) : (op : Op) → Except Rejection (Ans op)
  | .getByCodeHash tenantId codeHash =>
    .ok (getByCodeHash accounts.invitations tenantId codeHash)
  | .insertUser user =>
    match accounts.users.insert user with
    | some _ => .ok ()
    | none => .error .violation
  | .update inviteId mark => .ok (accounts.invitations.any (finds inviteId mark))
  | .insertKey row =>
    match insertKey accounts.keys row with
    | .ok _ => .ok ()
    | .error error => .error (rejection error)

def change : Event Op Ans → Accounts → Accounts
  | ⟨.getByCodeHash _ _, _⟩, accounts => accounts
  | ⟨.insertUser user, _⟩, accounts =>
    match accounts.users.insert user with
    | some users => { accounts with users := users }
    | none => accounts
  | ⟨.update _ _, false⟩, accounts => accounts
  | ⟨.update inviteId mark, true⟩, accounts =>
    { accounts with invitations := accounts.invitations.map (marked inviteId mark) }
  | ⟨.insertKey row, _⟩, accounts =>
    match insertKey accounts.keys row with
    | .ok keys => { accounts with keys := keys }
    | .error _ => accounts

def engine : Engine Accounts Op Ans := ⟨execute, change⟩

inductive Lock where
  | invitation (id : Uuid)
  | user (id : Uuid)
  | email (tenantId : Uuid) (email : String)
  | key (id : Uuid)
  | keyStem (text : String)
  deriving DecidableEq

/-- An update locks the row it has found, an insertion the unique keys of its row. -/
def locks : Event Op Ans → List Lock
  | ⟨.getByCodeHash _ _, _⟩ => []
  | ⟨.insertUser user, _⟩ => [.user user.id, .email user.tenantId user.email]
  | ⟨.update _ _, false⟩ => []
  | ⟨.update inviteId _, true⟩ => [.invitation inviteId]
  | ⟨.insertKey row, _⟩ => [.key row.id, .keyStem row.keyPrefix]

/-! ## Programs -/

inductive Done where
  | registered (response : AuthResponse)
  | revoked

abbrev Handler := Sql Op Ans Failure

abbrev History := Prog.Trace (Lib.Session.Request Op) (Reply Ans)

def statement (op : Op) : Handler (Ans op) := query op

section Programs

variable (service : Service)

def invalidCode : Failure := .http 401 "Invalid or expired invitation code"

def redeemable (now : Instant) : Option Invitation → Handler Invitation
  | none => refuse invalidCode
  | some invitation =>
    if invitation.status ≠ .active then refuse invalidCode
    else if invitation.expiresAt.any (fun expiry => decide (expiry < now)) then
      refuse invalidCode
    else pure invitation

/-- `find_active`, whose error the handler answers with one message. -/
@[irreducible] def findActive (code : String) (now : Instant) : Handler Invitation :=
  match normalizeCode service.unicode code with
  | .error _ => refuse invalidCode
  | .ok normalized => do
    let pepper := service.peppers.activePepper
    let fallback := service.peppers.apiKeyPepper.val
    let primary : Option Invitation ← statement (.getByCodeHash defaultTenantId
      (hashCode service.hmacSha256 normalized pepper))
    let found : Option Invitation ←
      if primary.isNone ∧ fallback ≠ "" ∧ fallback ≠ pepper then
        statement (.getByCodeHash defaultTenantId (hashCode service.hmacSha256 normalized fallback))
      else pure primary
    redeemable now found

variable (draws : Draws)

def userKey (userId : Uuid) (email : String) : ApiKey :=
  issuedRow service.argon2
    { newId := draws.keyId, text := draws.keyText, salt := draws.keySalt,
      name := "user:" ++ email, scopes := [], tenantId := defaultTenantId,
      userId := some userId } service.peppers.activePepper

def issueUserToken (userId : Uuid) (email : String) : Handler String := do
  statement (.insertKey (userKey service draws userId email))
  commit
  pure draws.keyText.plaintext

def invitedUser (body : RegisterRequest) (passwordHash : String) (invitation : Invitation) : User :=
  newUser body draws passwordHash
    (if invitation.orgName ≠ "" then some invitation.orgName else body.orgName) .approved
    (some invitation.role)

def registerViaInvite (body : RegisterRequest) (inviteCode passwordHash : String) :
    Handler Done := do
  let invitation ← findActive service inviteCode draws.now
  if invitation.email.any fun email => email ≠ body.email then
    refuse (.http 401 "This invitation is for a different email address")
  else do
    let user := invitedUser draws body passwordHash invitation
    statement (.insertUser user)
    let redeemed : Bool ← statement (markRedeemed invitation.id user.id draws.now)
    if redeemed then do
      let token ← issueUserToken service draws user.id user.email
      pure (.registered ⟨token, user⟩)
    else refuse (.http 409 "This invitation has already been used")

/-- `revoke_invite` by an administrator of the tenant. -/
def revokeInvite (inviteId tenantId : Uuid) (now : Instant) : Handler Done := do
  let found : Bool ← statement (revoke inviteId tenantId now)
  if found then do
    commit
    pure .revoked
  else refuse (.http 404 "Invitation not found or already used")

inductive Call where
  | register (draws : Draws) (body : RegisterRequest) (inviteCode passwordHash : String)
  | revoke (inviteId tenantId : Uuid) (now : Instant)

def Call.program : Call → Handler Done
  | .register draws body inviteCode passwordHash =>
    registerViaInvite service draws body inviteCode passwordHash
  | .revoke inviteId tenantId now => revokeInvite inviteId tenantId now

abbrev State := World Accounts Op Ans Lock Failure Done

def begin (accounts : Accounts) (calls : Nat → Call) : State :=
  start accounts fun session => (calls session).program service

end Programs

/-! ## What a statement does -/

section Statements

variable {accounts : Accounts} {event : Event Op Ans} {inviteId : Uuid} {mark : Mark}

/-- The primary key of the invitations. -/
def Unique (accounts : Accounts) : Prop := (accounts.invitations.map Invitation.id).Nodup

def Active (inviteId : Uuid) (accounts : Accounts) : Prop :=
  ∃ invitation ∈ accounts.invitations, invitation.id = inviteId ∧ invitation.status = .active

theorem id_apply (mark : Mark) (invitation : Invitation) :
    (mark.apply invitation).id = invitation.id := by
  cases mark <;> rfl

theorem apply_not_active (mark : Mark) (invitation : Invitation) :
    (mark.apply invitation).status ≠ .active := by
  cases mark <;> exact nofun

variable {invitation : Invitation}

theorem finds_iff : finds inviteId mark invitation = true ↔
    invitation.id = inviteId ∧ mark.selects invitation = true ∧ invitation.status = .active := by
  simp [finds, and_assoc]

theorem marked_cases (inviteId : Uuid) (mark : Mark) (invitation : Invitation) :
    finds inviteId mark invitation = true ∧
        marked inviteId mark invitation = mark.apply invitation ∨
      finds inviteId mark invitation = false ∧ marked inviteId mark invitation = invitation := by
  unfold marked
  cases finds inviteId mark invitation with
  | true => exact .inl ⟨rfl, rfl⟩
  | false => exact .inr ⟨rfl, rfl⟩

theorem id_marked (inviteId : Uuid) (mark : Mark) (invitation : Invitation) :
    (marked inviteId mark invitation).id = invitation.id := by
  rcases marked_cases inviteId mark invitation with ⟨-, same⟩ | ⟨-, same⟩
  · rw [same, id_apply]
  · rw [same]

theorem invitations_change (event : Event Op Ans) (accounts : Accounts) :
    (change event accounts).invitations = accounts.invitations ∨
      ∃ inviteId mark, event = ⟨.update inviteId mark, true⟩ ∧
        (change event accounts).invitations = accounts.invitations.map (marked inviteId mark) := by
  obtain ⟨op, answer⟩ := event
  cases op with
  | getByCodeHash tenantId codeHash => exact .inl rfl
  | insertUser user =>
    unfold change
    dsimp only
    split <;> exact .inl rfl
  | insertKey row =>
    unfold change
    dsimp only
    split <;> exact .inl rfl
  | update inviteId mark =>
    cases answer with
    | false => exact .inl rfl
    | true => exact .inr ⟨inviteId, mark, rfl, rfl⟩

theorem unique_change (event : Event Op Ans) (unique : Unique accounts) :
    Unique (change event accounts) := by
  unfold Unique at unique ⊢
  rcases invitations_change event accounts with same | ⟨inviteId, mark, -, mapped⟩
  · rw [same]
    exact unique
  have ids : (change event accounts).invitations.map Invitation.id =
      accounts.invitations.map Invitation.id := by
    rw [mapped, map_map]
    exact map_congr_left fun invitation _ => id_marked inviteId mark invitation
  rw [ids]
  exact unique

theorem update_of_locked (held : .invitation inviteId ∈ locks event) :
    ∃ mark, event = ⟨.update inviteId mark, true⟩ := by
  obtain ⟨op, answer⟩ := event
  cases op with
  | getByCodeHash tenantId codeHash => cases held
  | insertUser user => simp [locks] at held
  | insertKey row => simp [locks] at held
  | update id mark =>
    cases answer with
    | false => cases held
    | true =>
      rw [Lock.invitation.inj (mem_singleton.mp held)]
      exact ⟨mark, rfl⟩

theorem mem_change_of_unlocked (free : .invitation inviteId ∉ locks event)
    (same : invitation.id = inviteId) :
    invitation ∈ (change event accounts).invitations ↔ invitation ∈ accounts.invitations := by
  rcases invitations_change event accounts with kept | ⟨other, mark, rfl, mapped⟩
  · rw [kept]
  have apart : inviteId ≠ other := fun equal => free (by simp [locks, equal])
  have left : ∀ row : Invitation, row.id = inviteId → marked other mark row = row := by
    intro row own
    rcases marked_cases other mark row with ⟨found, -⟩ | ⟨-, kept⟩
    · exact absurd (own.symm.trans (finds_iff.mp found).1) apart
    · exact kept
  rw [mapped, mem_map]
  constructor
  · rintro ⟨row, mem, rfl⟩
    rw [id_marked] at same
    rw [left row same]
    exact mem
  · exact fun mem => ⟨invitation, mem, left invitation same⟩

theorem not_active_change (event : Event Op Ans) (closed : ¬ Active inviteId accounts) :
    ¬ Active inviteId (change event accounts) := by
  rintro ⟨invitation, mem, same, active⟩
  rcases invitations_change event accounts with kept | ⟨other, mark, -, mapped⟩
  · rw [kept] at mem
    exact closed ⟨invitation, mem, same, active⟩
  rw [mapped, mem_map] at mem
  obtain ⟨row, stored, rfl⟩ := mem
  rcases marked_cases other mark row with ⟨-, marked⟩ | ⟨-, kept⟩
  · rw [marked] at active
    exact apply_not_active mark row active
  · rw [kept] at same active
    exact closed ⟨row, stored, same, active⟩

theorem not_active_update (unique : Unique accounts)
    (found : ∃ invitation ∈ accounts.invitations, finds inviteId mark invitation = true) :
    ¬ Active inviteId (change ⟨.update inviteId mark, true⟩ accounts) := by
  obtain ⟨stored, storedIn, hit⟩ := found
  rintro ⟨invitation, mem, same, active⟩
  obtain ⟨row, rowIn, rfl⟩ := mem_map.mp mem
  rcases marked_cases inviteId mark row with ⟨-, marked⟩ | ⟨missed, kept⟩
  · rw [marked] at active
    exact apply_not_active mark row active
  · rw [kept] at same
    rw [inj_on_of_nodup_map unique rowIn storedIn (same.trans (finds_iff.mp hit).1.symm), hit] at missed
    cases missed

theorem mem_users_change {user : User} (mem : user ∈ (change event accounts).users.rows) :
    user ∈ accounts.users.rows ∨ event = ⟨.insertUser user, ()⟩ := by
  obtain ⟨op, answer⟩ := event
  cases op with
  | getByCodeHash tenantId codeHash => exact .inl mem
  | update inviteId mark => cases answer <;> exact .inl mem
  | insertKey row =>
    unfold change at mem
    dsimp only at mem
    split at mem <;> exact .inl mem
  | insertUser added =>
    unfold change at mem
    dsimp only at mem
    split at mem
    · rename_i users ins
      have grown : user ∈ users.rows := mem
      rw [(Table.of_insert ins).1, mem_append, mem_singleton] at grown
      exact grown.imp_right fun same => by rw [same]
    · exact .inl mem

theorem mem_keys_change {key : ApiKey} (mem : key ∈ (change event accounts).keys.rows) :
    key ∈ accounts.keys.rows ∨ event = ⟨.insertKey key, ()⟩ := by
  obtain ⟨op, answer⟩ := event
  cases op with
  | getByCodeHash tenantId codeHash => exact .inl mem
  | update inviteId mark => cases answer <;> exact .inl mem
  | insertUser user =>
    unfold change at mem
    dsimp only at mem
    split at mem <;> exact .inl mem
  | insertKey added =>
    unfold change at mem
    dsimp only at mem
    split at mem
    · rename_i keys ins
      have grown : key ∈ keys.rows := mem
      rw [(Table.of_insert (insertKey_ok_iff.mp ins).2).1, mem_append,
        mem_singleton] at grown
      exact grown.imp_right fun same => by rw [same]
    · exact .inl mem

theorem insert_of_execute {user : User} {answer : Ans (.insertUser user)}
    (executed : execute accounts (.insertUser user) = .ok answer) :
    ∃ users, accounts.users.insert user = some users := by
  unfold execute at executed
  dsimp only at executed
  split at executed
  · rename_i users ins
    exact ⟨users, ins⟩
  · cases executed

theorem insertKey_of_execute {row : ApiKey} {answer : Ans (.insertKey row)}
    (executed : execute accounts (.insertKey row) = .ok answer) :
    ∃ keys, insertKey accounts.keys row = .ok keys := by
  unfold execute at executed
  dsimp only at executed
  split at executed
  · rename_i keys ins
    exact ⟨keys, ins⟩
  · cases executed

theorem rows_subset_change (event : Event Op Ans) (accounts : Accounts) :
    accounts.users.rows ⊆ (change event accounts).users.rows ∧
      accounts.keys.rows ⊆ (change event accounts).keys.rows := by
  obtain ⟨op, answer⟩ := event
  cases op with
  | getByCodeHash tenantId codeHash => exact ⟨List.Subset.refl _, List.Subset.refl _⟩
  | update inviteId mark => cases answer <;> exact ⟨List.Subset.refl _, List.Subset.refl _⟩
  | insertUser user =>
    unfold change
    dsimp only
    split
    · rename_i users ins
      refine ⟨?_, List.Subset.refl _⟩
      rw [(Table.of_insert ins).1]
      exact subset_append_left _ _
    · exact ⟨List.Subset.refl _, List.Subset.refl _⟩
  | insertKey row =>
    unfold change
    dsimp only
    split
    · rename_i keys ins
      refine ⟨List.Subset.refl _, ?_⟩
      rw [(Table.of_insert (insertKey_ok_iff.mp ins).2).1]
      exact subset_append_left _ _
    · exact ⟨List.Subset.refl _, List.Subset.refl _⟩

theorem rows_subset_view (accounts : Accounts) (events : List (Event Op Ans)) :
    accounts.users.rows ⊆ (view engine accounts events).users.rows ∧
      accounts.keys.rows ⊆ (view engine accounts events).keys.rows :=
  view_induction engine (fun seen => accounts.users.rows ⊆ seen.users.rows ∧
      accounts.keys.rows ⊆ seen.keys.rows)
    (fun event _ seen before =>
      ⟨List.Subset.trans before.1 (rows_subset_change event seen).1,
        List.Subset.trans before.2 (rows_subset_change event seen).2⟩)
    ⟨List.Subset.refl _, List.Subset.refl _⟩

theorem mem_view_of_unlocked {events : List (Event Op Ans)}
    (free : ∀ event ∈ events, .invitation inviteId ∉ locks event)
    (same : invitation.id = inviteId) :
    invitation ∈ (view engine accounts events).invitations ↔ invitation ∈ accounts.invitations :=
  view_induction engine
    (fun seen => invitation ∈ seen.invitations ↔ invitation ∈ accounts.invitations)
    (fun event mem _ before => (mem_change_of_unlocked (free event mem) same).trans before)
    Iff.rfl

/-- What an open transaction relies on: its insertions go on to fit, and the row it has
updated is still there to be updated. -/
def Fact : Event Op Ans → Accounts → Prop
  | ⟨.getByCodeHash _ _, _⟩, _ => True
  | ⟨.insertUser user, _⟩, accounts => ∀ other ∈ accounts.users.rows, ¬ UserConflict other user
  | ⟨.update _ _, false⟩, _ => True
  | ⟨.update inviteId mark, true⟩, accounts =>
    ∃ invitation ∈ accounts.invitations, finds inviteId mark invitation = true
  | ⟨.insertKey row, _⟩, accounts =>
    row.name.length ≤ nameLength ∧ ∀ other ∈ accounts.keys.rows, ¬ KeyConflict other row

theorem fact_change {written : Event Op Ans} (apart : ∀ lock ∈ locks written, lock ∉ locks event)
    (fact : Fact event accounts) : Fact event (change written accounts) := by
  obtain ⟨op, answer⟩ := event
  cases op with
  | getByCodeHash tenantId codeHash => trivial
  | insertUser user =>
    intro other mem conflict
    rcases mem_users_change mem with old | rfl
    · exact fact other old conflict
    rcases conflict with same | ⟨tenant, email⟩
    · exact apart (.user other.id) (by simp [locks]) (by simp [locks, same])
    · exact apart (.email other.tenantId other.email) (by simp [locks])
        (by simp [locks, tenant, email])
  | insertKey row =>
    refine ⟨fact.1, fun other mem conflict => ?_⟩
    rcases mem_keys_change mem with old | rfl
    · exact fact.2 other old conflict
    · rcases conflict with same | same
      · exact apart (.key other.id) (by simp [locks]) (by simp [locks, same])
      · exact apart (.keyStem other.keyPrefix) (by simp [locks]) (by simp [locks, same])
  | update inviteId mark =>
    cases answer with
    | false => trivial
    | true =>
      obtain ⟨invitation, mem, found⟩ := fact
      have free : .invitation inviteId ∉ locks written := fun held =>
        apart _ held (by simp [locks])
      exact ⟨invitation, (mem_change_of_unlocked free (finds_iff.mp found).1).mpr mem, found⟩

end Statements

/-! ## What the calls keep to -/

/-- A transaction updates an invitation once. -/
def Permitted (history : History) : Lib.Session.Request Op → Prop
  | .statement op => ∀ inviteId mark, op = .update inviteId mark →
      ∃ events, history = statements events ∧
        ∀ event ∈ events, ∀ id, Lock.invitation id ∉ locks event
  | .commit => True
  | .rollback => True

/-- What a call that has been answered with success has written. -/
def Wrote : Done → List (Event Op Ans) → Prop
  | .registered response, events => ∃ reads inviteId now key,
      events = reads ++ [⟨.insertUser response.user, ()⟩,
        ⟨.update inviteId (.redeem response.user.id now), true⟩, ⟨.insertKey key, ()⟩] ∧
      (∀ event ∈ reads, ∃ tenantId codeHash answer,
        event = ⟨.getByCodeHash tenantId codeHash, answer⟩) ∧
      key.userId = some response.user.id
  | .revoked, events => ∃ inviteId tenantId now,
      events = [⟨.update inviteId (.revoke tenantId now), true⟩]

def Returned (history : History) (done : Done) : Prop :=
  ∃ events, history = statements events ++ [⟨.commit, .ok ()⟩] ∧ Wrote done events

/-- A call that fails has committed nothing. -/
def Failed (history : History) (_ : Raised Failure) : Prop := ⟨.commit, .ok ()⟩ ∉ history

def Looked (history : History) : Prop :=
  ∃ reads, history = statements reads ∧
    ∀ event ∈ reads, ∃ tenantId codeHash answer, event = ⟨.getByCodeHash tenantId codeHash, answer⟩

theorem failed_of_statements (events : List (Event Op Ans)) (raised : Raised Failure) :
    Failed (statements events) raised :=
  commit_not_mem_statements events _

theorem failed_append (events : List (Event Op Ans))
    {event : Event (Lib.Session.Request Op) (Reply Ans)} (other : event ≠ ⟨.commit, .ok ()⟩)
    (raised : Raised Failure) : Failed (statements events ++ [event]) raised := by
  intro mem
  rcases mem_append.mp mem with before | last
  · exact commit_not_mem_statements events _ before
  · exact other (mem_singleton.mp last).symm

section Safety

variable (service : Service)

variable {history : History}

theorem redeemable_safe (now : Instant) (found : Option Invitation) (looked : Looked history) :
    Prog.Safe Permitted (fun later _ => Looked later) Failed history (redeemable now found) := by
  have failed : ∀ raised, Failed history raised := by
    obtain ⟨reads, rfl, -⟩ := looked
    exact failed_of_statements reads
  cases found with
  | none => exact failed _
  | some invitation =>
    unfold redeemable
    dsimp only
    split
    · exact failed _
    · split
      · exact failed _
      · exact looked

theorem looked_append (looked : Looked history) (tenantId : Uuid) (codeHash : String)
    (answer : Option Invitation) :
    Looked (history ++ [⟨.statement (.getByCodeHash tenantId codeHash), .ok answer⟩]) := by
  obtain ⟨reads, rfl, lookups⟩ := looked
  refine ⟨_, statements_append reads _ _, fun event mem => ?_⟩
  rcases mem_append.mp mem with before | last
  · exact lookups event before
  · exact ⟨tenantId, codeHash, answer, mem_singleton.mp last⟩

theorem lookup_safe (looked : Looked history) (tenantId : Uuid) (codeHash : String)
    {continuation : Option Invitation → Handler Invitation}
    (rest : ∀ answer later, Looked later →
      Prog.Safe Permitted (fun later _ => Looked later) Failed later (continuation answer)) :
    Prog.Safe Permitted (fun later _ => Looked later) Failed history
      (statement (.getByCodeHash tenantId codeHash) >>= continuation) := by
  refine safe_query (fun _ _ same => nomatch same) (fun rej => ?_) fun answer => ?_
  · obtain ⟨reads, rfl, -⟩ := looked
    exact failed_append reads (by nofun) _
  · exact rest answer _ (looked_append looked tenantId codeHash answer)

theorem findActive_safe (code : String) (now : Instant) :
    Prog.Safe Permitted (fun history _ => Looked history) Failed []
      (findActive service code now) := by
  have nothing : Looked [] := ⟨[], rfl, fun _ mem => absurd mem not_mem_nil⟩
  unfold findActive
  split
  · exact failed_of_statements [] _
  refine lookup_safe nothing _ _ fun primary later looked => ?_
  split
  · exact lookup_safe looked _ _ fun found after seen => redeemable_safe now found seen
  · exact redeemable_safe now primary looked

theorem issueUserToken_safe (draws : Draws) (userId : Uuid) (email : String)
    (events : List (Event Op Ans)) :
    Prog.Safe Permitted (fun later _ => ∃ key : ApiKey, key.userId = some userId ∧
        later = statements (events ++ [⟨.insertKey key, ()⟩]) ++ [⟨.commit, .ok ()⟩])
      Failed (statements events) (issueUserToken service draws userId email) := by
  refine safe_query (fun _ _ same => nomatch same)
    (fun rej => failed_append events (by nofun) _) fun _ => ?_
  rw [statements_append]
  exact safe_commit trivial (fun rej => failed_append _ (by nofun) _) ⟨_, rfl, rfl⟩

theorem registerViaInvite_safe (draws : Draws) (body : RegisterRequest)
    (inviteCode passwordHash : String) :
    Prog.Safe Permitted Returned Failed []
      (registerViaInvite service draws body inviteCode passwordHash) := by
  refine (findActive_safe service inviteCode draws.now).bind ?_
  rintro _ invitation - ⟨reads, rfl, lookups⟩
  split
  · exact failed_of_statements reads _
  refine safe_query (fun _ _ same => nomatch same)
    (fun rej => failed_append reads (by nofun) _) fun _ => ?_
  rw [statements_append]
  refine safe_query (fun _ _ _ => ⟨_, rfl, fun event mem id held => ?_⟩)
    (fun rej => failed_append _ (by nofun) _) fun redeemed => ?_
  · rcases mem_append.mp mem with before | last
    · obtain ⟨tenantId, codeHash, answer, rfl⟩ := lookups event before
      cases held
    · rw [mem_singleton.mp last] at held
      simp [locks] at held
  · rw [statements_append]
    cases redeemed with
    | false => exact failed_of_statements _ _
    | true =>
      refine (issueUserToken_safe service draws _ _ _).bind ?_
      rintro _ token - ⟨key, owned, rfl⟩
      exact ⟨_, rfl, reads, invitation.id, draws.now, key, by simp [markRedeemed], lookups, owned⟩

theorem revokeInvite_safe (inviteId tenantId : Uuid) (now : Instant) :
    Prog.Safe Permitted Returned Failed [] (revokeInvite inviteId tenantId now) := by
  refine safe_query (fun _ _ _ => ⟨[], rfl, fun _ mem => absurd mem not_mem_nil⟩)
    (fun rej => failed_append [] (by nofun) _) fun found => ?_
  cases found with
  | false => exact failed_of_statements [⟨revoke inviteId tenantId now, false⟩] _
  | true =>
    exact safe_commit trivial
      (fun rej => failed_append [⟨revoke inviteId tenantId now, true⟩] (by nofun) _)
      ⟨[⟨revoke inviteId tenantId now, true⟩], rfl, inviteId, tenantId, now, rfl⟩

theorem call_safe (call : Call) :
    Prog.Safe Permitted Returned Failed [] (call.program service) := by
  cases call with
  | register draws body inviteCode passwordHash =>
    exact registerViaInvite_safe service draws body inviteCode passwordHash
  | revoke inviteId tenantId now => exact revokeInvite_safe inviteId tenantId now

end Safety

/-! ## Runs -/

/-- The session has ended the life of the invitation. -/
def Took (world : State) (inviteId : Uuid) (session : Nat) : Prop :=
  (∃ done, world.programs session = .ret done) ∧
    ∃ mark, ⟨.statement (.update inviteId mark), .ok true⟩ ∈ world.histories session

def Redeemed (inviteId userId : Uuid) (accounts : Accounts) : Prop :=
  ∃ invitation ∈ accounts.invitations, invitation.id = inviteId ∧
    invitation.status = .used ∧ invitation.redeemedBy = some userId

/-- The account and its key are stored, and an invitation names the account. -/
structure Settled (world : State) (session : Nat) (user : User) : Prop where
  account : user ∈ world.committed.users.rows
  key : ∃ key ∈ world.committed.keys.rows, key.userId = some user.id
  invitation : ∃ inviteId, Took world inviteId session ∧ Redeemed inviteId user.id world.committed

structure Invariant (world : State) : Prop where
  locked : Locked locks world
  obeys : Obeys (fun _ => Permitted) (fun _ => Returned) (fun _ => Failed) world
  relied : Relied Fact world
  unique : Unique world.committed
  taken : ∀ inviteId session, Took world inviteId session → ¬ Active inviteId world.committed
  once : ∀ inviteId first second, Took world inviteId first → Took world inviteId second →
    first = second
  settled : ∀ session response, world.programs session = .ret (.registered response) →
    Settled world session response.user

section Runs

variable {world after : State} {turn : Turn} {inviteId : Uuid} {accounts : Accounts}

theorem not_returned_begin (service : Service) (accounts : Accounts) (calls : Nat → Call)
    (session : Nat) (done : Done) : (begin service accounts calls).programs session ≠ .ret done := by
  intro returned
  have safe := call_safe service (calls session)
  rw [show (calls session).program service = .ret done from returned] at safe
  obtain ⟨events, made, -⟩ := safe
  simp at made

theorem invariant_begin (service : Service) (calls : Nat → Call) (unique : Unique accounts) :
    Invariant (begin service accounts calls) where
  locked := locked_start _ _
  obeys session := call_safe service (calls session)
  relied := relied_start _ _ _
  unique := unique
  taken _ session took := by
    obtain ⟨⟨done, returned⟩, -⟩ := took
    exact absurd returned (not_returned_begin service accounts calls session done)
  once _ session _ took := by
    obtain ⟨⟨done, returned⟩, -⟩ := took
    exact absurd returned (not_returned_begin service accounts calls session done)
  settled session resp returned :=
    absurd returned (not_returned_begin service accounts calls session _)

theorem Invariant.relied_perform (inv : Invariant world)
    (did : perform engine locks world turn = .ok after) : Relied Fact after := by
  refine inv.relied.perform inv.locked did ?_
    (fun event written data apart fact => fact_change apart fact)
  intro op next events answer prog opened executed
  have subset := rows_subset_view world.committed events
  cases op with
  | getByCodeHash tenantId codeHash => trivial
  | insertUser user =>
    obtain ⟨users, ins⟩ := insert_of_execute executed
    exact fun other mem => (Table.of_insert ins).2 other (subset.1 mem)
  | insertKey row =>
    obtain ⟨keys, ins⟩ := insertKey_of_execute executed
    obtain ⟨short, added⟩ := insertKey_ok_iff.mp ins
    exact ⟨short, fun other mem => (Table.of_insert added).2 other (subset.2 mem)⟩
  | update inviteId mark =>
    cases answer with
    | false => trivial
    | true =>
      obtain ⟨before, made, free⟩ := inv.obeys.permits prog inviteId mark rfl
      rw [made, writesOf_statements] at opened
      cases opened
      obtain ⟨invitation, mem, found⟩ := any_eq_true.mp (Except.ok.inj executed)
      exact ⟨invitation, (mem_view_of_unlocked (fun event written => free event written inviteId)
        (finds_iff.mp found).1).mp mem, found⟩

theorem Invariant.returned (inv : Invariant world)
    (did : perform engine locks world turn = .ok after) {session : Nat} {done : Done}
    (returned : after.programs session = .ret done) :
    world.programs session = .ret done ∧ after.histories session = world.histories session ∨
      session = turn.session ∧ ∃ events, Wrote done events ∧
        after.histories session = statements events ++ [⟨.commit, .ok ()⟩] ∧
        (∀ event ∈ events, Pending world session event) ∧
        after.committed = view engine world.committed events := by
  rcases returned_cases did returned with before | ⟨rfl, event, grown⟩
  · exact .inl before
  obtain ⟨events, made, wrote⟩ := (inv.obeys.perform did).returned returned
  obtain ⟨history, last⟩ := append_inj' (grown.symm.trans made) rfl
  have opened : writesOf (world.histories turn.session) = some events := by
    rw [history, writesOf_statements]
  obtain ⟨⟨next, prog⟩, changed⟩ := committed_of_history did
    (grown.trans (by rw [last])) opened
  exact .inr ⟨rfl, events, wrote, made,
    fun event mem => ⟨⟨_, _, prog⟩, events, opened, mem⟩, changed⟩

theorem wrote_update {done : Done} {events : List (Event Op Ans)} {mark : Mark}
    (wrote : Wrote done events) (mem : ⟨.update inviteId mark, true⟩ ∈ events) :
    ∃ before rest, events = before ++ ⟨.update inviteId mark, true⟩ :: rest ∧
      ∀ event ∈ before, .invitation inviteId ∉ locks event := by
  cases done with
  | revoked =>
    obtain ⟨id, tenantId, now, rfl⟩ := wrote
    rw [mem_singleton] at mem
    cases mem
    exact ⟨[], [], rfl, fun _ mem => absurd mem not_mem_nil⟩
  | registered resp =>
    obtain ⟨reads, id, now, key, rfl, lookups, -⟩ := wrote
    rcases mem_append.mp mem with read | written
    · obtain ⟨tenantId, codeHash, answer, same⟩ := lookups _ read
      cases same
    simp only [mem_cons, not_mem_nil, or_false, Event.mk.injEq, reduceCtorEq,
      false_and, false_or] at written
    obtain ⟨⟨rfl, rfl⟩, -⟩ := written
    refine ⟨reads ++ [⟨.insertUser resp.user, ()⟩], [⟨.insertKey key, ()⟩], by simp, ?_⟩
    intro event before held
    rcases mem_append.mp before with read | last
    · obtain ⟨tenantId, codeHash, answer, rfl⟩ := lookups _ read
      cases held
    · rw [mem_singleton.mp last] at held
      simp [locks] at held

theorem not_active_view (unique : Unique accounts) {before rest : List (Event Op Ans)} {mark : Mark}
    (free : ∀ event ∈ before, .invitation inviteId ∉ locks event)
    (found : ∃ invitation ∈ accounts.invitations, finds inviteId mark invitation = true) :
    ¬ Active inviteId (view engine accounts (before ++ ⟨.update inviteId mark, true⟩ :: rest)) := by
  have uniqueSeen : Unique (view engine accounts before) :=
    view_induction engine Unique (fun event _ _ => unique_change event) unique
  obtain ⟨invitation, mem, hit⟩ := found
  have seen := (mem_view_of_unlocked free (finds_iff.mp hit).1).mpr mem
  rw [view_append]
  change ¬ Active inviteId (view engine (change ⟨.update inviteId mark, true⟩
    (view engine accounts before)) rest)
  exact view_induction engine (fun data => ¬ Active inviteId data)
    (fun event _ _ => not_active_change event)
    (not_active_update uniqueSeen ⟨invitation, seen, hit⟩)

theorem settled_view {user : User} {reads : List (Event Op Ans)} {now : Instant} {key : ApiKey}
    (lookups : ∀ event ∈ reads, ∃ tenantId codeHash answer,
      event = ⟨.getByCodeHash tenantId codeHash, answer⟩)
    (account : Fact ⟨.insertUser user, ()⟩ accounts)
    (invitation : Fact ⟨.update inviteId (.redeem user.id now), true⟩ accounts)
    (issued : Fact ⟨.insertKey key, ()⟩ accounts) :
    let seen := view engine accounts (reads ++ [⟨.insertUser user, ()⟩,
      ⟨.update inviteId (.redeem user.id now), true⟩, ⟨.insertKey key, ()⟩])
    user ∈ seen.users.rows ∧ key ∈ seen.keys.rows ∧ Redeemed inviteId user.id seen := by
  intro seen
  obtain ⟨users, insertedUser⟩ := accounts.users.exists_insert account
  obtain ⟨keys, insertedKey⟩ := accounts.keys.exists_insert issued.2
  obtain ⟨stored, mem, hit⟩ := invitation
  have unread : view engine accounts reads = accounts :=
    view_eq_of_reads engine fun event read data => by
      obtain ⟨tenantId, codeHash, answer, rfl⟩ := lookups event read
      rfl
  have done : seen = { accounts with
      users := users
      keys := keys
      invitations := accounts.invitations.map (marked inviteId (.redeem user.id now)) } := by
    simp only [seen]
    rw [view_append, unread]
    simp only [view, List.foldl, engine, change, insertedUser,
      insertKey_ok_iff.mpr ⟨issued.1, insertedKey⟩]
  rw [done]
  refine ⟨?_, ?_, marked inviteId (.redeem user.id now) stored, mem_map_of_mem mem, ?_⟩
  · rw [(Table.of_insert insertedUser).1]
    exact mem_append_right _ (mem_singleton.mpr rfl)
  · rw [(Table.of_insert insertedKey).1]
    exact mem_append_right _ (mem_singleton.mpr rfl)
  · unfold marked
    rw [if_pos hit]
    exact ⟨(finds_iff.mp hit).1, rfl, rfl⟩

theorem active_of_fact {mark : Mark} (fact : Fact ⟨.update inviteId mark, true⟩ accounts) :
    Active inviteId accounts := by
  obtain ⟨invitation, mem, found⟩ := fact
  exact ⟨invitation, mem, (finds_iff.mp found).1, (finds_iff.mp found).2.2⟩

theorem Invariant.took (inv : Invariant world)
    (did : perform engine locks world turn = .ok after) {session : Nat}
    (took : Took after inviteId session) :
    Took world inviteId session ∨ session = turn.session ∧ Active inviteId world.committed ∧
        ¬ Active inviteId after.committed := by
  obtain ⟨⟨done, ret⟩, mark, mem⟩ := took
  rcases inv.returned did ret with
    ⟨before, same⟩ | ⟨rfl, events, wrote, made, pending, changed⟩
  · exact .inl ⟨⟨done, before⟩, mark, same ▸ mem⟩
  · have written : ⟨.update inviteId mark, true⟩ ∈ events := by
      rw [made] at mem
      rcases mem_append.mp mem with early | last
      · exact mem_statements.mp early
      · cases mem_singleton.mp last
    have fact := inv.relied turn.session _ (pending _ written)
    obtain ⟨before, rest, rfl, free⟩ := wrote_update wrote written
    refine .inr ⟨rfl, active_of_fact fact, ?_⟩
    rw [changed]
    exact not_active_view inv.unique free fact

theorem Invariant.redeemed_perform (inv : Invariant world)
    (did : perform engine locks world turn = .ok after) {userId : Uuid}
    (closed : ¬ Active inviteId world.committed)
    (redeemed : Redeemed inviteId userId world.committed) :
    Redeemed inviteId userId after.committed := by
  refine committed_induction did (Redeemed inviteId userId) ?_ redeemed
  rintro event pending data ⟨invitation, mem, same, used⟩
  have free : .invitation inviteId ∉ locks event := by
    intro held
    obtain ⟨mark, rfl⟩ := update_of_locked held
    exact closed (active_of_fact (inv.relied turn.session _ pending))
  exact ⟨invitation, (mem_change_of_unlocked free same).mpr mem, same, used⟩

theorem Invariant.settled_perform (inv : Invariant world)
    (did : perform engine locks world turn = .ok after) {session : Nat}
    {resp : AuthResponse} (returned : after.programs session = .ret (.registered resp)) :
    Settled after session resp.user := by
  rcases inv.returned did returned with
    ⟨before, same⟩ | ⟨rfl, events, wrote, made, pending, changed⟩
  · obtain ⟨account, ⟨key, stored, owned⟩, inviteId, took, redeemed⟩ :=
      inv.settled session resp before
    refine ⟨?_, ⟨key, ?_, owned⟩, inviteId, ⟨⟨_, returned⟩, ?_⟩, ?_⟩
    · exact committed_induction did (fun data => resp.user ∈ data.users.rows)
        (fun event _ data mem => (rows_subset_change event data).1 mem) account
    · exact committed_induction did (fun data => key ∈ data.keys.rows)
        (fun event _ data mem => (rows_subset_change event data).2 mem) stored
    · rw [same]
      exact took.2
    · exact inv.redeemed_perform did (inv.taken _ _ took) redeemed
  · obtain ⟨reads, inviteId, now, key, rfl, lookups, owned⟩ := wrote
    have fact : ∀ event ∈ [⟨.insertUser resp.user, ()⟩,
        ⟨.update inviteId (.redeem resp.user.id now), true⟩, ⟨.insertKey key, ()⟩],
        Fact event world.committed := fun event mem =>
      inv.relied turn.session event (pending event (mem_append_right _ mem))
    obtain ⟨account, stored, redeemed⟩ := settled_view lookups (fact _ (by simp))
      (fact ⟨.update inviteId (.redeem resp.user.id now), true⟩ (by simp))
      (fact ⟨.insertKey key, ()⟩ (by simp))
    rw [← changed] at account stored redeemed
    refine ⟨account, ⟨key, stored, owned⟩, inviteId,
      ⟨⟨_, returned⟩, .redeem resp.user.id now, ?_⟩, redeemed⟩
    rw [made]
    exact mem_append_left _ (mem_statements.mpr (mem_append_right _ (by simp)))

theorem Invariant.perform (inv : Invariant world)
    (did : perform engine locks world turn = .ok after) : Invariant after where
  locked := inv.locked.perform did
  obeys := inv.obeys.perform did
  relied := inv.relied_perform did
  unique := committed_induction did Unique (fun event _ _ => unique_change event)
    inv.unique
  taken inviteId session took := by
    rcases inv.took did took with before | ⟨-, -, closed⟩
    · exact committed_induction did (fun data => ¬ Active inviteId data)
        (fun event _ _ => not_active_change event) (inv.taken inviteId session before)
    · exact closed
  once inviteId first second firstTook secondTook := by
    rcases inv.took did firstTook with firstBefore | ⟨rfl, firstFound, -⟩ <;>
      rcases inv.took did secondTook with secondBefore | ⟨rfl, secondFound, -⟩
    · exact inv.once inviteId first second firstBefore secondBefore
    · exact absurd secondFound (inv.taken inviteId first firstBefore)
    · exact absurd firstFound (inv.taken inviteId second secondBefore)
    · rfl
  settled _ _ returned := inv.settled_perform did returned

/-- Neither redeemed nor revoked while active, and never both. -/
def Consistent (invitation : Invitation) : Prop :=
  (invitation.status = .active → invitation.redeemedBy = none ∧ invitation.revokedAt = none) ∧
    (invitation.redeemedBy = none ∨ invitation.revokedAt = none)

theorem consistent_change (event : Event Op Ans)
    (consistent : ∀ invitation ∈ accounts.invitations, Consistent invitation) :
    ∀ invitation ∈ (change event accounts).invitations, Consistent invitation := by
  intro invitation mem
  rcases invitations_change event accounts with kept | ⟨id, mark, -, mapped⟩
  · rw [kept] at mem
    exact consistent invitation mem
  rw [mapped, mem_map] at mem
  obtain ⟨row, stored, rfl⟩ := mem
  rcases marked_cases id mark row with ⟨found, marked⟩ | ⟨-, kept⟩
  · obtain ⟨unredeemed, unrevoked⟩ := (consistent row stored).1 (finds_iff.mp found).2.2
    rw [marked]
    cases mark with
    | redeem redeemedBy now => exact ⟨nofun, .inr unrevoked⟩
    | revoke tenantId now => exact ⟨nofun, .inl unredeemed⟩
  · rw [kept]
    exact consistent row stored

/-- Whatever the interleaving of attempts and revocations: an invitation is taken by one
call at most, a registration that was answered has its account, its key and a used
invitation that names it in the database, and a call that was answered with an error has
left no trace there. -/
theorem invitation_single_use (service : Service) (accounts : Accounts) (unique : Unique accounts)
    (calls : Nat → Call) (turns : List Turn) :
    let world := run engine locks (begin service accounts calls) turns
    (∀ inviteId first second, Took world inviteId first → Took world inviteId second →
      first = second) ∧
    ((∀ invitation ∈ accounts.invitations, Consistent invitation) →
      ∀ invitation ∈ world.committed.invitations,
        invitation.redeemedBy = none ∨ invitation.revokedAt = none) ∧
    (∀ session resp, world.programs session = .ret (.registered resp) →
      Settled world session resp.user) ∧
    (∀ session raised, world.programs session = .fail raised →
      ∀ first turn rest, turns = first ++ turn :: rest → turn.session = session →
        (run engine locks (begin service accounts calls) (first ++ [turn])).committed =
          (run engine locks (begin service accounts calls) first).committed) := by
  intro world
  have inv : Invariant world :=
    Transactions.invariant_run (fun state turn after did before => before.perform did)
      (invariant_begin service calls unique) turns
  refine ⟨inv.once, fun consistent invitation mem => ?_, inv.settled, ?_⟩
  · have throughout : ∀ invitation ∈ world.committed.invitations, Consistent invitation :=
      @Transactions.invariant_run _ _ _ (perform engine locks)
        (fun state : State => ∀ invitation ∈ state.committed.invitations, Consistent invitation)
        (fun state turn after did => committed_induction did
          (fun data => ∀ invitation ∈ data.invitations, Consistent invitation)
          fun event _ data => consistent_change event)
        (begin service accounts calls) consistent turns
    exact (throughout invitation mem).2
  · rintro session raised failed first turn rest split rfl
    exact committed_of_never (inv.obeys.failed failed) split

end Runs

/-! ## One code, two attempts -/

open Auth.Deprovisioning (noAccounts sampleDraws sampleService)

def openInvitation : Invitation where
  id := ⟨9⟩
  tenantId := defaultTenantId
  createdBy := none
  orgName := "Acme"
  email := none
  codeHash := hashCode sampleService.hmacSha256 "ABCDEFGHJKLM" sampleService.peppers.activePepper
  role := .developer
  status := .active
  redeemedBy := none
  redeemedAt := none
  expiresAt := none
  revokedAt := none

def invitedAccounts : Accounts := { noAccounts with invitations := [openInvitation] }

def attempt (draws : Draws) (email : String) : Call :=
  .register draws ⟨"Ada", email, "correct horse", .invitation, none, none, none⟩ "ABCD-EFGH-JKLM"
    "hash"

def contenders : Nat → Call
  | 0 => attempt sampleDraws "ada@example.com"
  | 1 => attempt IssuedKeys.laterDraws "eve@example.com"
  | _ => .revoke ⟨9⟩ defaultTenantId 5

/-- The first attempt updates the invitation before the others and commits after they have
begun to wait. -/
def contention : List Turn :=
  [0, 1, 0, 1, 0, 1, 2, 0, 0, 1, 2].map fun session => ⟨session, false⟩

theorem invitation_single_use_sample :
    let world := run engine locks (begin sampleService invitedAccounts contenders) contention
    world.committed.users.rows.map User.email = ["ada@example.com"] ∧
      world.committed.invitations.map Invitation.redeemedBy = [some ⟨2⟩] ∧
      ∀ inviteId first second, Took world inviteId first → Took world inviteId second →
        first = second :=
  ⟨by decide +kernel, by decide +kernel,
    (invitation_single_use sampleService invitedAccounts (nodup_singleton _) contenders
      contention).1⟩

end Portcullis.Auth.InviteRace
