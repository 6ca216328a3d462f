import Portcullis.Auth.IssuedKeys
import Portcullis.Lib.Pool

/-!
# Racing federated logins

SSO and Clerk logins as programs whose queries, insertions and commits are steps of their
own.  A query sees what is committed; what a login has inserted becomes visible at its
commit.  The role of a new member follows from a count of the members that is taken before
the commit and, for SSO, from the groups that the provider asserts.
-/

namespace Portcullis.Auth.FederationRace

open Auth.Accounts
open Auth.Deprovisioning (noAccounts sampleDraws sampleService)
open Auth.Federation Auth.Issuance
open Auth.IssuedKeys (laterDraws)
open Lib
open Lib.Transactions (ok_of_bind)
open Models

/-! ## Programs -/

/-- The rows that a session has flushed, and the account it issues a key to. -/
structure Work where
  created : Option User
  member : Option OrgMember
  owner : User
  draws : Draws

inductive Op where
  | getBySubject (subject : String)
  | getByEmail (email : String)
  | countMembers
  | insertUser (user : User)
  | insertMember (member : OrgMember)
  | commit (work : Work)

def Ans : Op → Type
  | .getBySubject _ => Option OrgMember
  | .getByEmail _ => Option User
  | .countMembers => Nat
  | .insertUser _ => Bool
  | .insertMember _ => Bool
  | .commit _ => Except Failure AuthResponse

abbrev Login := Prog Op Ans Failure

def request (op : Op) : Login (Ans op) := Prog.request op

/-- `issue_key`, which commits the session. -/
def issueSession (work : Work) : Login AuthResponse := do
  let answer : Except Failure AuthResponse ← request (.commit work)
  match answer with
  | .ok response => pure response
  | .error failure => .fail failure

variable (draws : Draws) (subject : String)

def linkMember (role : OrgMemberRole) : Login OrgMember :=
  if 1 ≤ subject.length ∧ subject.length ≤ 500 then do
    let member : OrgMember := ⟨draws.memberId, defaultTenantId, subject, role, none⟩
    let inserted : Bool ← request (.insertMember member)
    if inserted then pure member else .fail (.database .integrityError)
  else .fail (.http 500 "Internal Server Error")

def enterLinked (email : String) (refusal : Failure) : Login AuthResponse := do
  let found : Option User ← request (.getByEmail email)
  match found with
  | none => .fail refusal
  | some user =>
    if !user.isActive then .fail refusal else issueSession ⟨none, none, user, draws⟩

def linkUser (role : OrgMemberRole) (user : User) :
    Login AuthResponse := do
  let member ← linkMember draws subject role
  issueSession ⟨none, some member, user, draws⟩

def createLinked (role : OrgMemberRole) (user : User) :
    Login AuthResponse := do
  let inserted : Bool ← request (.insertUser user)
  if inserted then do
    let member ← linkMember draws subject role
    issueSession ⟨some user, some member, user, draws⟩
  else .fail (.database .integrityError)

section Programs

variable (service : Service)

def linkOrCreate (draws : Draws) (login : SsoLogin) : Login AuthResponse := do
  let groups := claimedGroups login.groups login.roles
  let member : Option OrgMember ← request (.getBySubject login.subject)
  match member with
  | some _ => enterLinked draws login.email accountDisabled
  | none => do
    let found : Option User ← request (.getByEmail login.email)
    match found with
    | some user =>
      if user.approvalStatus ≠ .approved then
        .fail (.http 401 "account is pending approval or was denied")
      else if !user.isActive then .fail accountDisabled
      else do
        let existingCount : Nat ← request .countMembers
        linkUser draws login.subject (linkedRole groups existingCount) user
    | none => do
      let existingCount : Nat ← request .countMembers
      createLinked draws login.subject (provisionedRole groups existingCount)
        (federatedUser draws login.email login.fullName
          (service.peppers.passwords.hashPassword service.argon2 draws.passwordSalt
            login.generatedPassword) (firstOrgRole existingCount))

def clerkSync (draws : Draws) (login : ClerkLogin) : Login AuthResponse := do
  let member : Option OrgMember ← request (.getBySubject login.subject)
  match member with
  | some _ => enterLinked draws login.email invalidCredentials
  | none => do
    let found : Option User ← request (.getByEmail login.email)
    match found with
    | some user =>
      if user.approvalStatus = .pending then
        .fail (.http 403 "Your account is pending approval by an organization admin.")
      else if user.approvalStatus = .rejected then
        .fail (.http 403 "Your account has been denied.")
      else if !user.isActive then .fail invalidCredentials
      else do
        let memberCount : Nat ← request .countMembers
        linkUser draws login.subject (clerkRole memberCount) user
    | none => do
      let memberCount : Nat ← request .countMembers
      createLinked draws login.subject (clerkRole memberCount) (federatedUser draws login.email
          (if login.fullName = "" then login.email else login.fullName)
          (service.peppers.passwords.hashPassword service.argon2 draws.passwordSalt
            login.generatedPassword) (firstOrgRole memberCount))

inductive Job where
  | sso (draws : Draws) (login : SsoLogin)
  | clerk (draws : Draws) (login : ClerkLogin)

def Job.program : Job → Login AuthResponse
  | .sso draws login => linkOrCreate service draws login
  | .clerk draws login => clerkSync service draws login

/-! ## The database -/

def flushUser (accounts : Accounts) : Option User → Except Failure Accounts
  | none => .ok accounts
  | some user => createUser accounts user

def flushMember (accounts : Accounts) : Option OrgMember → Except Failure Accounts
  | none => .ok accounts
  | some member => createMember accounts member

/-- What a session has flushed is committed together with its key, or not at all. -/
def apply (accounts : Accounts) (work : Work) : Except Failure (Accounts × AuthResponse) := do
  let created ← flushUser accounts work.created
  let joined ← flushMember created work.member
  Federation.issueSession service joined work.draws work.owner

def settled (accounts : Accounts) :
    Except Failure (Accounts × AuthResponse) → Except Failure AuthResponse × Accounts
  | .ok (after, response) => (.ok response, after)
  | .error failure => (.error failure, accounts)

def serve (accounts : Accounts) : (op : Op) → Ans op × Accounts
  | .getBySubject subject => (getBySubject accounts.members defaultTenantId subject, accounts)
  | .getByEmail email => (getByEmail accounts.users defaultTenantId email, accounts)
  | .countMembers => (countMembers accounts.members defaultTenantId, accounts)
  | .insertUser user =>
    (decide (∀ other ∈ accounts.users.rows, ¬ UserConflict other user), accounts)
  | .insertMember member =>
    (decide (∀ other ∈ accounts.members.rows, ¬ MemberConflict other member), accounts)
  | .commit work => settled accounts (apply service accounts work)

/-- Other requests may commit anything between the steps of the logins. -/
def rules : PoolRules Accounts Op Ans Unit Accounts where
  serve _ := serve service
  drift committed _ := committed

abbrev World := Pool Accounts Op Ans Failure AuthResponse

abbrev Move := Turn Unit Accounts

def start (accounts : Accounts) (jobs : Nat → Job) : World where
  shared := accounts
  programs thread := (jobs thread).program service
  histories _ := []

end Programs

/-! ## Roles -/

def countOf : (op : Op) → Ans op → Option Nat
  | .countMembers, count => some count
  | _, _ => none

def accountOf : (op : Op) → Ans op → Option User
  | .getByEmail _, found => found
  | _, _ => none

def counted (history : Prog.Trace Op Ans) : Option Nat :=
  history.findSome? fun event => countOf event.op event.answer

def account (history : Prog.Trace Op Ans) : Option User :=
  history.findSome? fun event => accountOf event.op event.answer

/-- The provider asserts the group `org_owner`. -/
def Job.ClaimsOwner : Job → Prop
  | .sso _ login => "org_owner" ∈ claimedGroups login.groups login.roles
  | .clerk _ _ => False

/-- The login counted no member, or links an account under the group `org_owner`. -/
def TakesOwnership (job : Job) (history : Prog.Trace Op Ans) : Prop :=
  counted history = some 0 ∨ job.ClaimsOwner ∧ (account history).isSome = true

variable (groups : List String)

theorem mapIdpRolesToOrgRole_eq_orgOwner_iff :
    mapIdpRolesToOrgRole groups = .orgOwner ↔ "org_owner" ∈ groups := by
  have first : (roleMapping.any fun entry => entry.2 = .orgOwner && groups.contains entry.1) =
      groups.contains "org_owner" := by
    simp [roleMapping]
  unfold mapIdpRolesToOrgRole
  rw [priorityOrder, List.find?_cons, first]
  by_cases member : "org_owner" ∈ groups
  · rw [List.contains_iff_mem.mpr member]
    exact iff_of_true rfl member
  rw [Bool.eq_false_iff.mpr fun contained => member (List.contains_iff_mem.mp contained)]
  refine iff_of_false (fun owner => ?_) member
  -- no lower role maps to an owner, and neither does the default
  cases found : List.find? (fun role =>
      roleMapping.any fun entry => entry.2 = role && groups.contains entry.1)
      [.orgAdmin, .developer, .teamMember, .auditor, .billingAdmin, .viewer] with
  | none =>
    rw [found] at owner
    cases owner
  | some role =>
    have listed := List.mem_of_find?_eq_some found
    rw [found] at owner
    obtain rfl : role = .orgOwner := owner
    revert listed
    decide

theorem linkedRole_eq_orgOwner_iff (count : Nat) :
    linkedRole groups count = .orgOwner ↔ count = 0 ∨ "org_owner" ∈ groups := by
  unfold linkedRole
  split
  · rename_i none
    exact iff_of_true rfl (.inl none)
  · rename_i some
    rw [mapIdpRolesToOrgRole_eq_orgOwner_iff, or_iff_right some]

theorem provisionedRole_eq_orgOwner_iff (count : Nat) :
    provisionedRole groups count = .orgOwner ↔ count = 0 := by
  unfold provisionedRole
  by_cases none : count = 0
  · simp [none]
  simp only [none, if_false, Nat.pos_of_ne_zero none, true_and, iff_false]
  split
  · nofun
  · assumption

theorem clerkRole_eq_orgOwner_iff (count : Nat) : clerkRole count = .orgOwner ↔ count = 0 := by
  unfold clerkRole
  split
  · rename_i none
    exact iff_of_true rfl none
  · rename_i some
    exact iff_of_false nofun some

/-- A commit gives its member the owner's role just if the login takes ownership. -/
def Derived (job : Job) (history : Prog.Trace Op Ans) : Op → Prop
  | .commit work => ∀ member ∈ work.member,
      (member.adminRole = .orgOwner ↔ TakesOwnership job history)
  | _ => True

abbrev Sound (job : Job) (history : Prog.Trace Op Ans) (program : Login AuthResponse) : Prop :=
  Prog.Safe (Derived job) (fun _ _ => True) (fun _ _ => True) history program

section Sound

variable {service : Service} {job : Job} {history : Prog.Trace Op Ans} {draws : Draws}
  {subject : String} {role : OrgMemberRole} {user : User}

theorem takesOwnership_concat {op : Op} {answer : Ans op} (noCount : countOf op answer = none)
    (noAccount : accountOf op answer = none) :
    TakesOwnership job (history ++ [⟨op, answer⟩]) ↔ TakesOwnership job history := by
  unfold TakesOwnership counted account
  simp [noCount, noAccount]

theorem issueSession_sound {work : Work} (derived : ∀ member ∈ work.member,
      (member.adminRole = .orgOwner ↔ TakesOwnership job history)) :
    Sound job history (issueSession work) := by
  refine Prog.Safe.bind (Prog.Safe.request derived) ?_
  intro later answer _ _
  cases answer <;> trivial

theorem linkMember_sound {next : OrgMember → Login AuthResponse}
    (derived : role = .orgOwner ↔ TakesOwnership job history)
    (rest : ∀ later member, (member.adminRole = .orgOwner ↔ TakesOwnership job later) →
      Sound job later (next member)) :
    Sound job history (linkMember draws subject role >>= next) := by
  unfold linkMember
  split
  · refine ⟨trivial, fun ins => ?_⟩
    cases ins with
    | false => trivial
    | true => exact rest _ _ (derived.trans (takesOwnership_concat rfl rfl).symm)
  · trivial

theorem enterLinked_sound (email : String) (refusal : Failure) :
    Sound job history (enterLinked draws email refusal) := by
  refine Prog.Safe.bind (Prog.Safe.request trivial) ?_
  intro later found _ _
  cases found with
  | none => trivial
  | some user =>
    dsimp only
    split
    · trivial
    · exact issueSession_sound nofun

theorem linkUser_sound (derived : role = .orgOwner ↔ TakesOwnership job history) :
    Sound job history (linkUser draws subject role user) := by
  refine linkMember_sound derived fun later member derived => issueSession_sound ?_
  intro other same
  rw [← Option.some.inj same]
  exact derived

theorem createLinked_sound (derived : role = .orgOwner ↔ TakesOwnership job history) :
    Sound job history (createLinked draws subject role user) := by
  refine ⟨trivial, fun ins => ?_⟩
  cases ins with
  | false => trivial
  | true =>
    refine linkMember_sound (derived.trans (takesOwnership_concat rfl rfl).symm)
      fun later member derived => issueSession_sound ?_
    intro other same
    rw [← Option.some.inj same]
    exact derived

theorem takesOwnership_counted (job : Job) (subject email : String) (found : Option User)
    (count : Nat) :
    TakesOwnership job [⟨.getBySubject subject, none⟩, ⟨.getByEmail email, found⟩,
        ⟨.countMembers, count⟩] ↔
      count = 0 ∨ job.ClaimsOwner ∧ found.isSome = true := by
  have sameCount : counted [⟨.getBySubject subject, none⟩, ⟨.getByEmail email, found⟩,
      ⟨.countMembers, count⟩] = some count := by
    cases found <;> rfl
  have sameAccount : account [⟨.getBySubject subject, none⟩, ⟨.getByEmail email, found⟩,
      ⟨.countMembers, count⟩] = found := by
    cases found <;> rfl
  unfold TakesOwnership
  rw [sameCount, sameAccount, Option.some_inj]

theorem linkOrCreate_sound (login : SsoLogin) :
    Sound (.sso draws login) [] (linkOrCreate service draws login) := by
  refine Prog.Safe.bind (Prog.Safe.request trivial) ?_
  rintro _ member _ rfl
  cases member with
  | some member => exact enterLinked_sound login.email accountDisabled
  | none =>
    refine Prog.Safe.bind (Prog.Safe.request trivial) ?_
    rintro _ found _ rfl
    cases found with
    | none =>
      refine Prog.Safe.bind (Prog.Safe.request trivial) ?_
      rintro _ count _ rfl
      refine createLinked_sound ((provisionedRole_eq_orgOwner_iff _ count).trans ?_)
      refine Iff.trans ?_ (takesOwnership_counted _ _ _ none count).symm
      exact (or_iff_left (by simp)).symm
    | some user =>
      dsimp only
      split
      · trivial
      split
      · trivial
      refine Prog.Safe.bind (Prog.Safe.request trivial) ?_
      rintro _ count _ rfl
      refine linkUser_sound ((linkedRole_eq_orgOwner_iff _ count).trans ?_)
      refine Iff.trans ?_ (takesOwnership_counted _ _ _ (some user) count).symm
      exact or_congr_right (and_iff_left rfl).symm

theorem clerkSync_sound (login : ClerkLogin) :
    Sound (.clerk draws login) [] (clerkSync service draws login) := by
  have derived : ∀ (found : Option User) (count : Nat), clerkRole count = .orgOwner ↔
      TakesOwnership (.clerk draws login) [⟨.getBySubject login.subject, none⟩,
        ⟨.getByEmail login.email, found⟩, ⟨.countMembers, count⟩] := by
    intro found count
    rw [clerkRole_eq_orgOwner_iff, takesOwnership_counted]
    exact (or_iff_left fun claims => claims.1.elim).symm
  refine Prog.Safe.bind (Prog.Safe.request trivial) ?_
  rintro _ member _ rfl
  cases member with
  | some member => exact enterLinked_sound login.email invalidCredentials
  | none =>
    refine Prog.Safe.bind (Prog.Safe.request trivial) ?_
    rintro _ found _ rfl
    cases found with
    | none =>
      refine Prog.Safe.bind (Prog.Safe.request trivial) ?_
      rintro _ count _ rfl
      exact createLinked_sound (derived none count)
    | some user =>
      dsimp only
      split
      · trivial
      split
      · trivial
      split
      · trivial
      · refine Prog.Safe.bind (Prog.Safe.request trivial) ?_
        rintro _ count _ rfl
        exact linkUser_sound (derived (some user) count)

theorem Job.sound (service : Service) (job : Job) : Sound job [] (job.program service) := by
  cases job with
  | sso draws login => exact linkOrCreate_sound login
  | clerk draws login => exact clerkSync_sound login

end Sound

/-! ## Commits -/

def Fits (accounts : Accounts) (work : Work) : Prop :=
  (∀ user ∈ work.created, ∀ other ∈ accounts.users.rows, ¬ UserConflict other user) ∧
    (∀ member ∈ work.member, ∀ other ∈ accounts.members.rows, ¬ MemberConflict other member) ∧
    KeyFits accounts.keys work.draws work.owner.email

theorem Fits.not_mem {accounts : Accounts} {work : Work} (fits : Fits accounts work)
    {member : OrgMember} (added : member ∈ work.member) : member ∉ accounts.members.rows :=
  fun stored => fits.2.1 member added member stored (.inl rfl)

section Commits

variable {service : Service} {accounts after : Accounts} {work : Work} {response : AuthResponse}

theorem issueSession_ok {draws : Draws} {owner : User}
    (issuing : Federation.issueSession service accounts draws owner = .ok (after, response)) :
    KeyFits accounts.keys draws owner.email ∧ after.members = accounts.members := by
  obtain ⟨⟨committed, issued⟩, issues, done⟩ := ok_of_bind issuing
  obtain ⟨rfl, _⟩ := Prod.mk.inj (Except.ok.inj done)
  obtain ⟨fits, keys, rfl, _⟩ := issueTenantToken_ok issues
  exact ⟨fits, rfl⟩

theorem flushUser_succeeds {created : Option User}
    (fresh : ∀ user ∈ created, ∀ other ∈ accounts.users.rows, ¬ UserConflict other user) :
    ∃ users, flushUser accounts created = .ok { accounts with users := users } := by
  cases created with
  | none => exact ⟨accounts.users, rfl⟩
  | some user =>
    obtain ⟨users, ins⟩ := accounts.users.exists_insert (fresh user rfl)
    exact ⟨users, createUser_ok_iff.mpr ⟨users, ins, rfl⟩⟩

theorem flushUser_ok {created : Option User} {flushed : Accounts}
    (flushing : flushUser accounts created = .ok flushed) :
    (∀ user ∈ created, ∀ other ∈ accounts.users.rows, ¬ UserConflict other user) ∧
      ∃ users, flushed = { accounts with users := users } := by
  have fresh : ∀ user ∈ created, ∀ other ∈ accounts.users.rows, ¬ UserConflict other user := by
    rintro user rfl
    exact (createUser_ok flushing).2.2
  obtain ⟨users, flushes⟩ := flushUser_succeeds fresh
  exact ⟨fresh, users, Except.ok.inj (flushing.symm.trans flushes)⟩

theorem flushMember_succeeds {member : Option OrgMember}
    (fresh : ∀ row ∈ member, ∀ other ∈ accounts.members.rows, ¬ MemberConflict other row) :
    ∃ members, flushMember accounts member = .ok { accounts with members := members } ∧
      members.rows = accounts.members.rows ++ member.toList := by
  cases member with
  | none => exact ⟨accounts.members, rfl, (List.append_nil _).symm⟩
  | some row =>
    obtain ⟨members, ins⟩ := accounts.members.exists_insert (fresh row rfl)
    exact ⟨members, createMember_ok_iff.mpr ⟨members, ins, rfl⟩, (Table.of_insert ins).1⟩

theorem fresh_of_flushMember {member : Option OrgMember} {joined : Accounts}
    (flushing : flushMember accounts member = .ok joined) :
    ∀ row ∈ member, ∀ other ∈ accounts.members.rows, ¬ MemberConflict other row := by
  rintro row rfl
  obtain ⟨members, ins, _⟩ := createMember_ok_iff.mp flushing
  exact (Table.of_insert ins).2

theorem apply_succeeds (service : Service) (fits : Fits accounts work) :
    ∃ answered, apply service accounts work = .ok answered := by
  obtain ⟨freshUser, freshMember, key⟩ := fits
  obtain ⟨users, flushing⟩ := flushUser_succeeds freshUser
  obtain ⟨members, joining, _⟩ :=
    @flushMember_succeeds { accounts with users := users } _ freshMember
  obtain ⟨committed, issued, issuing⟩ := issueTenantToken_succeeds service
    { accounts with users := users, members := members } defaultTenantId work.owner.id key
  unfold apply Federation.issueSession
  rw [flushing]
  dsimp only [bind, Except.bind]
  rw [joining]
  dsimp only
  rw [issueUserToken_eq, issuing]
  exact ⟨_, rfl⟩

theorem apply_ok (applied : apply service accounts work = .ok (after, response)) :
    Fits accounts work ∧ after.members.rows = accounts.members.rows ++ work.member.toList := by
  obtain ⟨flushed, flushing, joining⟩ := ok_of_bind applied
  obtain ⟨joined, joins, issuing⟩ := ok_of_bind joining
  obtain ⟨freshUser, users, rfl⟩ := flushUser_ok flushing
  have freshMember := fresh_of_flushMember joins
  obtain ⟨members, flushes, rows⟩ := flushMember_succeeds freshMember
  obtain rfl := Except.ok.inj (joins.symm.trans flushes)
  obtain ⟨fits, sameMembers⟩ := issueSession_ok issuing
  refine ⟨⟨freshUser, freshMember, fits⟩, ?_⟩
  rw [sameMembers]
  exact rows

end Commits

/-! ## Interleavings -/

/-- A new owner joins a tenant that has no member. -/
def OwnerIsFirst (before after : Accounts) : Prop :=
  ∀ member ∈ after.members.rows, member ∉ before.members.rows →
    member.adminRole = .orgOwner → countMembers before.members defaultTenantId = 0

instance (before after : Accounts) : Decidable (OwnerIsFirst before after) :=
  inferInstanceAs (Decidable (∀ member ∈ after.members.rows, _ → _ → _))

theorem ownerIsFirst_refl (accounts : Accounts) : OwnerIsFirst accounts accounts :=
  fun _ member new => absurd member new

/-- A step of a login makes an owner only of the first member. -/
def MakesFirstOwner (service : Service) (world : World) : Move → Prop
  | .drift _ => True
  | .move thread choice =>
    OwnerIsFirst world.shared (world.step (rules service) (.move thread choice)).shared

/-- A login that counted no member, or that links an account under the group `org_owner`,
finds no member when it commits. -/
def CommitsFirst (jobs : Nat → Job) (world : World) : Move → Prop
  | .drift _ => True
  | .move thread _ => ∀ work, world.asking thread = some (.commit work) →
      work.member.isSome = true → Fits world.shared work →
      TakesOwnership (jobs thread) (world.histories thread) →
      countMembers world.shared.members defaultTenantId = 0

section Interleavings

variable {service : Service} {jobs : Nat → Job} {accounts : Accounts}

theorem ownerIsFirst_commit_iff {job : Job} {history : Prog.Trace Op Ans} {work : Work}
    (derived : Derived job history (.commit work)) :
    OwnerIsFirst accounts (serve service accounts (.commit work)).2 ↔
      (work.member.isSome = true → Fits accounts work → TakesOwnership job history →
        countMembers accounts.members defaultTenantId = 0) := by
  dsimp only [serve]
  cases applied : apply service accounts work with
  | error failure =>
    refine iff_of_true (ownerIsFirst_refl accounts) fun _ fits => ?_
    obtain ⟨ans, answers⟩ := apply_succeeds service fits
    rw [answers] at applied
    cases applied
  | ok ans =>
    obtain ⟨fits, rows⟩ := apply_ok applied
    change (∀ member ∈ ans.1.members.rows, _) ↔ _
    rw [rows]
    constructor
    · intro first joins _ takes
      obtain ⟨member, added⟩ := Option.isSome_iff_exists.mp joins
      refine first member ?_ (fits.not_mem added) ((derived member added).mpr takes)
      exact List.mem_append_right _ (Option.mem_toList.mpr added)
    · intro late member stored new owner
      rcases List.mem_append.mp stored with prev | added
      · exact absurd prev new
      · have joins := Option.mem_toList.mp added
        exact late (Option.isSome_iff_exists.mpr ⟨member, joins⟩) fits
          ((derived member joins).mp owner)

theorem makesFirstOwner_iff (world : World)
    (obeys : Pool.Obeys (fun thread => Derived (jobs thread)) world) (turn : Move) :
    MakesFirstOwner service world turn ↔ CommitsFirst jobs world turn := by
  cases turn with
  | drift committed => exact Iff.rfl
  | move thread choice =>
    unfold MakesFirstOwner CommitsFirst
    dsimp only
    rw [Pool.shared_step_move]
    have derived := obeys.permits thread
    cases asked : world.asking thread with
    | none => exact iff_of_true (ownerIsFirst_refl _) fun _ asks => by cases asks
    | some op =>
      cases op with
      | commit work =>
        refine (ownerIsFirst_commit_iff (derived _ asked)).trans ?_
        constructor
        · intro late other same
          rw [← Op.commit.inj (Option.some.inj same)]
          exact late
        · intro late
          exact late work rfl
      | _ => exact iff_of_true (ownerIsFirst_refl _) fun _ asks => by cases asks

end Interleavings

/-- In every interleaving of SSO and Clerk logins, a login makes an owner only of the first
member just if every login that counted no member, or that links an account under the group
`org_owner`, finds no member when it commits. -/
theorem owner_is_first_iff (service : Service) (accounts : Accounts) (jobs : Nat → Job)
    (turns : List Move) :
    (∀ first thread choice rest, turns = first ++ .move thread choice :: rest →
        OwnerIsFirst ((start service accounts jobs).run (rules service) first).shared
          ((start service accounts jobs).run (rules service)
            (first ++ [.move thread choice])).shared) ↔
      Pool.Along (rules service) (CommitsFirst jobs) (start service accounts jobs) turns := by
  rw [← Pool.along_congr_of_invariant (rules service)
    (Pool.Obeys fun thread => Derived (jobs thread)) (fun _ turn obeys => obeys.step _ turn)
    (fun world turn obeys => makesFirstOwner_iff world obeys turn) turns
    fun thread => (jobs thread).sound service, ← Pool.forall_turns_iff_along]
  simp only [Pool.run_append]
  constructor
  · intro always first turn rest split
    cases turn with
    | drift committed => trivial
    | move thread choice => exact always first thread choice rest split
  · intro always first thread choice rest split
    exact always first (.move thread choice) rest split

def moves (thread steps : Nat) : List Move := List.replicate steps (.move thread ())

def sampleSso (draws : Draws) (subject email : String) (groups : Claim) : Job :=
  .sso draws ⟨subject, email, "", groups, .absent, "generated"⟩

def firstLogins : Nat → Job
  | 0 => sampleSso sampleDraws "idp|1" "ada@example.com" .absent
  | _ => .clerk laterDraws ⟨"user_2", "eve@example.com", "Eve", "generated"⟩

/-- A stranger, and then another subject with the address of the first. -/
def groupLogins : Nat → Job
  | 0 => sampleSso sampleDraws "idp|1" "ada@example.com" .absent
  | _ => sampleSso laterDraws "idp|2" "ada@example.com" (.text "org_owner")

/-- Of two logins that both counted no member the second to commit makes an owner too, and so
does a later login under the group `org_owner`. -/
theorem later_login_makes_owner : (¬ ∀ first thread,
      OwnerIsFirst ((start sampleService noAccounts firstLogins).run (rules sampleService)
          first).shared
        ((start sampleService noAccounts firstLogins).run (rules sampleService)
          (first ++ moves thread 1)).shared) ∧
      ¬ ∀ first thread,
        OwnerIsFirst ((start sampleService noAccounts groupLogins).run (rules sampleService)
            first).shared
          ((start sampleService noAccounts groupLogins).run (rules sampleService)
            (first ++ moves thread 1)).shared := by
  constructor
  · intro claim
    exact absurd (claim (moves 0 5 ++ moves 1 5 ++ moves 0 1) 1) (by decide +kernel)
  · intro claim
    exact absurd (claim (moves 0 6 ++ moves 1 4) 1) (by decide +kernel)

end Portcullis.Auth.FederationRace
