import Portcullis.Auth.Licenses
import Portcullis.Lib.Table
import Portcullis.Lib.Transactions
import Portcullis.Metering.Usage

/-!
# Issuing and revoking licenses

`LicenseService` of `app/auth/licenses.py` on the table of licenses.  `issue` inserts an
active license whatever the tenant has already, and `revoke` changes the newest one only, so
that an earlier active license stays.
-/

namespace Portcullis.Auth.LicenseService

open Lib Lib.Transactions List
open Metering.Usage (LicensePlan)
open Models

structure StoredLicense extends License where
  id : Uuid
  plan : LicensePlan
  keyHash : String
  issuedAt : Instant
  revokedAt : Option Instant
  licensee : String
  issuedBy : Option Uuid
  createdAt : Instant
  deriving DecidableEq, Repr

def sameId (left right : StoredLicense) : Prop := left.id = right.id

instance : DecidableRel sameId :=
  fun left right => inferInstanceAs (Decidable (left.id = right.id))

abbrev Licenses := Table sameId

structure IssueRequest where
  tenantId : Uuid
  issuerId : Option Uuid
  plan : LicensePlan
  licensee : String
  seatLimit : Int
  serverLimit : Option Int
  expiresInDays : Int

/-- What the clocks and the generators give for one row; the stored hash covers a random
seed. -/
structure Mint where
  id : Uuid
  now : Instant
  createdAt : Instant
  keyHash : String

inductive IssueError where
  | overflowError
  | integrityError
  deriving DecidableEq, Repr

/-- `now + timedelta(days=days)`, within the years 1 to 9999. -/
def addDays (now : Instant) (days : Int) : Option Instant :=
  let sum := now + days * 86400000000
  if -62135596800000000 ≤ sum ∧ sum ≤ 253402300799999999 then some sum else none

def newLicense (request : IssueRequest) (mint : Mint) (expiresAt : Instant) :
    StoredLicense where
  tenantId := request.tenantId
  status := .active
  seatLimit := request.seatLimit
  serverLimit := request.serverLimit
  expiresAt := expiresAt
  id := mint.id
  plan := request.plan
  keyHash := mint.keyHash
  issuedAt := mint.now
  revokedAt := none
  licensee := request.licensee
  issuedBy := request.issuerId
  createdAt := mint.createdAt

/-- The check constraints of the table. -/
def positiveLimits (license : StoredLicense) : Bool :=
  decide (0 < license.seatLimit) && license.serverLimit.all fun limit => decide (0 < limit)

section Code

-- `admits` stands for the foreign keys and the width of the licensee
variable (admits : StoredLicense → Bool)

variable (licenses : Licenses)

def issue (request : IssueRequest) (mint : Mint) : Except IssueError (Licenses × StoredLicense) :=
  match addDays mint.now request.expiresInDays with
  | none => .error .overflowError
  | some expiresAt =>
    let license := newLicense request mint expiresAt
    if positiveLimits license && admits license then
      match licenses.insert license with
      | none => .error .integrityError
      | some inserted => .ok (inserted, license)
    else .error .integrityError

/-- The licenses among which `ORDER BY created_at DESC LIMIT 1` takes one. -/
def newest (tenantId : Uuid) : List StoredLicense :=
  let own := licenses.rows.filter fun license => license.tenantId = tenantId
  own.filter fun license => own.all fun other => decide (other.createdAt ≤ license.createdAt)

/-- `choice` is what the database takes among equal timestamps. -/
def current (tenantId : Uuid) (choice : Nat) : Option StoredLicense :=
  (newest licenses tenantId)[choice % (newest licenses tenantId).length]?

def revoked (license : StoredLicense) (now : Instant) : StoredLicense :=
  { license with status := .revoked, revokedAt := some now }

def revoke (tenantId : Uuid) (choice : Nat) (now : Instant) : Licenses × Option StoredLicense :=
  match current licenses tenantId choice with
  | none => (licenses, none)
  | some license =>
    if license.status ≠ .active then (licenses, none)
    else
      (licenses.update (fun row => if row.id = license.id then revoked row now else row)
        (fun left right same => by
          unfold sameId at same ⊢
          split at same <;> split at same <;> exact same),
        some (revoked license now))

inductive Operation where
  | issue (request : IssueRequest) (mint : Mint)
  | revoke (tenantId : Uuid) (choice : Nat) (now : Instant)

def perform (licenses : Licenses) : Operation → Except IssueError Licenses
  | .issue request mint => (issue admits licenses request mint).map Prod.fst
  | .revoke tenantId choice now => .ok (revoke licenses tenantId choice now).1

end Code

/-! ## Active licenses -/

def isActiveOf (tenantId : Uuid) (license : StoredLicense) : Bool :=
  decide (license.tenantId = tenantId ∧ license.status = .active)

def activeCount (licenses : Licenses) (tenantId : Uuid) : Nat :=
  licenses.rows.countP (isActiveOf tenantId)

def AtMostOneActive (licenses : Licenses) : Prop := ∀ tenantId, activeCount licenses tenantId ≤ 1

/-- The row of an issue passes every check of the table. -/
def Storable (admits : StoredLicense → Bool) (licenses : Licenses) (request : IssueRequest)
    (mint : Mint) : Prop :=
  ∃ expiresAt ∈ addDays mint.now request.expiresInDays,
    positiveLimits (newLicense request mint expiresAt) = true ∧
      admits (newLicense request mint expiresAt) = true ∧
      ∀ other ∈ licenses.rows, other.id ≠ mint.id

/-- A license is issued to a tenant that has no active one. -/
def IssuesToUnlicensed (admits : StoredLicense → Bool) (licenses : Licenses) :
    Operation → Prop
  | .issue request mint =>
    Storable admits licenses request mint → activeCount licenses request.tenantId = 0
  | .revoke _ _ _ => True

section Steps

variable {admits : StoredLicense → Bool} {licenses : Licenses}

variable {after : Licenses} {license : StoredLicense} {mint : Mint} {request : IssueRequest}
  {choice : Nat} {tenantId : Uuid} {now : Instant}

theorem issue_ok (issued : issue admits licenses request mint = .ok (after, license)) :
    Storable admits licenses request mint ∧ after.rows = licenses.rows ++ [license] ∧
      license.tenantId = request.tenantId ∧ license.status = .active := by
  unfold issue at issued
  split at issued
  · cases issued
  rename_i expiresAt inRange
  dsimp only at issued
  split at issued
  · rename_i passes
    rw [Bool.and_eq_true] at passes
    split at issued
    · cases issued
    rename_i ins acc
    cases issued
    obtain ⟨rows, fresh⟩ := Table.of_insert acc
    exact ⟨⟨expiresAt, inRange, passes.1, passes.2, fresh⟩, rows, rfl, rfl⟩
  · cases issued

theorem issue_of_storable (storable : Storable admits licenses request mint) :
    ∃ after license, issue admits licenses request mint = .ok (after, license) := by
  obtain ⟨expiresAt, inRange, pos, admitted, fresh⟩ := storable
  obtain ⟨after, acc⟩ : ∃ after, licenses.insert (newLicense request mint expiresAt) =
    some after := licenses.exists_insert fresh
  refine ⟨after, newLicense request mint expiresAt, ?_⟩
  unfold issue
  rw [Option.mem_def.mp inRange]
  dsimp only
  rw [pos, admitted, acc]
  rfl

theorem activeCount_issue (issued : issue admits licenses request mint = .ok (after, license))
    (tenantId : Uuid) :
    activeCount after tenantId =
      activeCount licenses tenantId + if request.tenantId = tenantId then 1 else 0 := by
  obtain ⟨-, rows, tenant, active⟩ := issue_ok issued
  rw [activeCount, rows, countP_append, countP_singleton, activeCount, isActiveOf,
    tenant, active]
  simp only [and_true, decide_eq_true_eq]

theorem atMostOneActive_issue_iff
    (issued : issue admits licenses request mint = .ok (after, license))
    (single : AtMostOneActive licenses) :
    AtMostOneActive after ↔ activeCount licenses request.tenantId = 0 := by
  have counts := activeCount_issue issued
  constructor
  · intro still
    have bound := still request.tenantId
    rw [counts, if_pos rfl] at bound
    omega
  · intro none tenantId
    rw [counts]
    split
    · rename_i same
      rw [← same, none]
    · exact single tenantId

theorem current_mem (found : current licenses tenantId choice = some license) :
    license ∈ licenses.rows ∧ license.tenantId = tenantId := by
  have mem := mem_of_getElem? found
  have own := (mem_filter.mp mem).1
  exact ⟨(mem_filter.mp own).1, of_decide_eq_true (mem_filter.mp own).2⟩

theorem revoke_returns {ret : StoredLicense}
    (revokes : revoke licenses tenantId choice now = (after, some ret)) :
    ∃ license ∈ licenses.rows, license.tenantId = tenantId ∧ license.status = .active ∧
      after.rows = licenses.rows.map fun row =>
        if row.id = license.id then revoked row now else row := by
  unfold revoke at revokes
  split at revokes
  · cases revokes
  rename_i license found
  split at revokes
  · cases revokes
  rename_i active
  obtain ⟨mem, own⟩ := current_mem found
  cases revokes
  exact ⟨license, mem, own, not_not.mp active, rfl⟩

theorem revoke_returns_none (revokes : revoke licenses tenantId choice now = (after, none)) :
    after = licenses := by
  unfold revoke at revokes
  split at revokes
  · exact (Prod.mk.inj revokes).1.symm
  · split at revokes
    · exact (Prod.mk.inj revokes).1.symm
    · cases revokes

theorem activeCount_revoked_le {target : Uuid}
    (rows : after.rows = licenses.rows.map fun row =>
      if row.id = target then revoked row now else row) (tenantId : Uuid) :
    activeCount after tenantId ≤ activeCount licenses tenantId := by
  rw [activeCount, rows, countP_map, activeCount]
  apply countP_mono_left
  intro row _ active
  rw [Function.comp_apply] at active
  split at active
  · simp [isActiveOf, revoked] at active
  · exact active

theorem eq_of_atMostOneActive (single : AtMostOneActive licenses) {left right : StoredLicense}
    (leftIn : left ∈ licenses.rows) (rightIn : right ∈ licenses.rows)
    (leftActive : isActiveOf tenantId left = true)
    (rightActive : isActiveOf tenantId right = true) : left = right := by
  have bound := single tenantId
  rw [activeCount, countP_eq_length_filter] at bound
  have leftKept := mem_filter.mpr ⟨leftIn, leftActive⟩
  have rightKept := mem_filter.mpr ⟨rightIn, rightActive⟩
  cases actives : licenses.rows.filter (isActiveOf tenantId) with
  | nil =>
    rw [actives] at leftKept
    cases leftKept
  | cons only rest =>
    rw [actives, length_cons] at bound
    have alone : rest = [] := eq_nil_of_length_eq_zero (by omega)
    rw [actives, alone] at leftKept rightKept
    rw [mem_singleton.mp leftKept, mem_singleton.mp rightKept]

theorem activeCount_revoke {ret : StoredLicense} (single : AtMostOneActive licenses)
    (revokes : revoke licenses tenantId choice now = (after, some ret)) :
    activeCount after tenantId = 0 := by
  obtain ⟨license, mem, own, active, rows⟩ := revoke_returns revokes
  rw [activeCount, countP_eq_zero, rows]
  intro row inside stillActive
  obtain ⟨source, sourceIn, rfl⟩ := mem_map.mp inside
  split at stillActive
  · simp [isActiveOf, revoked] at stillActive
  · rename_i other
    exact other (congrArg StoredLicense.id (eq_of_atMostOneActive single sourceIn mem
      stillActive (decide_eq_true ⟨own, active⟩)))

theorem atMostOneActive_revoke (single : AtMostOneActive licenses) (tenantId : Uuid)
    (choice : Nat) (now : Instant) : AtMostOneActive (revoke licenses tenantId choice now).1 := by
  cases revokes : revoke licenses tenantId choice now with
  | mk after ret =>
    cases ret with
    | none =>
      rw [revoke_returns_none revokes]
      exact single
    | some license =>
      obtain ⟨_, _, _, _, rows⟩ := revoke_returns revokes
      exact fun other => (activeCount_revoked_le rows other).trans (single other)

theorem atMostOneActive_commit_iff (single : AtMostOneActive licenses) (operation : Operation) :
    AtMostOneActive (commit (perform admits) licenses operation) ↔
      IssuesToUnlicensed admits licenses operation := by
  cases operation with
  | issue request mint =>
    refine commit_iff AtMostOneActive single ?_ ?_
    · intro failure failed storable
      obtain ⟨after, license, issued⟩ := issue_of_storable storable
      rw [perform, issued] at failed
      cases failed
    · intro after did
      obtain ⟨⟨_, license⟩, issued, rfl⟩ := ok_of_map did
      rw [atMostOneActive_issue_iff issued single]
      exact ⟨fun none _ => none, fun clear => clear (issue_ok issued).1⟩
  | revoke tenantId choice now =>
    exact iff_of_true (atMostOneActive_revoke single tenantId choice now) trivial

end Steps

/-- A revocation that returns a license leaves the tenant without an active one. -/
def RevokeClears (licenses : Licenses) (tenantId : Uuid) (choice : Nat) (now : Instant) : Prop :=
  (revoke licenses tenantId choice now).2.isSome = true →
    activeCount (revoke licenses tenantId choice now).1 tenantId = 0

theorem revokeClears_of_single {licenses : Licenses} (single : AtMostOneActive licenses)
    (tenantId : Uuid) (choice : Nat) (now : Instant) :
    RevokeClears licenses tenantId choice now := by
  intro returns
  cases revokes : revoke licenses tenantId choice now with
  | mk after ret =>
    rw [revokes] at returns
    obtain ⟨license, rfl⟩ := Option.isSome_iff_exists.mp returns
    exact activeCount_revoke single revokes

/-- Every tenant has at most one active license throughout a run, and none after a revocation,
exactly if licenses are issued to tenants without an active one. -/
theorem one_active_license_iff (admits : StoredLicense → Bool) (start : Licenses)
    (single : AtMostOneActive start) (operations : List Operation) :
    ((∀ first rest, operations = first ++ rest →
        AtMostOneActive (run (perform admits) start first)) ∧
      ∀ first tenantId choice now rest, operations = first ++ .revoke tenantId choice now :: rest →
          RevokeClears (run (perform admits) start first) tenantId choice now) ↔
      Along (perform admits) (IssuesToUnlicensed admits) start operations := by
  have throughout : (∀ first rest, operations = first ++ rest →
      AtMostOneActive (run (perform admits) start first)) ↔
        Along (perform admits) (IssuesToUnlicensed admits) start operations :=
    throughout_iff_along (fun _ => True) AtMostOneActive (fun _ _ _ => trivial)
      (fun _ operation _ single => atMostOneActive_commit_iff single operation)
      trivial single operations
  rw [← throughout]
  constructor
  · exact fun both => both.1
  · intro always
    exact ⟨always, fun first tenantId choice now rest split =>
      revokeClears_of_single (always first _ split) tenantId choice now⟩

def sampleIssue (number : BitVec 128) (created : Instant) : Operation :=
  .issue ⟨⟨1⟩, none, .pro, "Acme", 10, some 5, 365⟩ ⟨⟨number⟩, 0, created, "hash"⟩

theorem one_active_license_iff_sample :
    ((∀ first rest, [sampleIssue 7 0, .revoke ⟨1⟩ 0 5, sampleIssue 8 9] = first ++ rest →
        AtMostOneActive (run (perform fun _ => true) Table.empty first)) ∧
      ∀ first tenantId choice now rest, [sampleIssue 7 0, .revoke ⟨1⟩ 0 5, sampleIssue 8 9] =
          first ++ .revoke tenantId choice now :: rest →
            RevokeClears (run (perform fun _ => true) Table.empty first) tenantId choice now) := by
  refine (one_active_license_iff (fun _ => true) Table.empty (fun _ => Nat.zero_le 1) _).mpr ?_
  exact ⟨fun _ => rfl, trivial, fun _ => rfl, trivial⟩

/-- After a renewal both licenses are active, and a revocation leaves the first. -/
theorem renewal_leaves_two_active :
    activeCount (run (perform fun _ => true) Table.empty [sampleIssue 7 0, sampleIssue 8 9])
        ⟨1⟩ = 2 ∧
      ¬ RevokeClears (run (perform fun _ => true) Table.empty
        [sampleIssue 7 0, sampleIssue 8 9]) ⟨1⟩ 0 10 := by
  constructor
  · rfl
  · intro clears
    exact absurd (clears rfl) (by decide)

/-! ## What becomes of a license -/

/-- The license is as it was, or it was active and its tenant has revoked it. -/
def Ages (operations : List Operation) (old new : StoredLicense) : Prop :=
  new = old ∨ old.status = .active ∧
    ∃ choice now, Operation.revoke old.tenantId choice now ∈ operations ∧ new = revoked old now

theorem commit_ages (admits : StoredLicense → Bool) (licenses : Licenses) (operation : Operation)
    {old : StoredLicense} (mem : old ∈ licenses.rows) :
    ∃ new ∈ (commit (perform admits) licenses operation).rows, Ages [operation] old new := by
  cases operation with
  | issue request mint =>
    refine ⟨old, ?_, .inl rfl⟩
    refine commit_cases (fun after : Licenses => old ∈ after.rows) (fun _ _ => mem) ?_
    intro after did
    obtain ⟨⟨_, license⟩, issued, rfl⟩ := ok_of_map did
    rw [(issue_ok issued).2.1]
    exact mem_append_left _ mem
  | revoke tenantId choice now =>
    change ∃ new ∈ (revoke licenses tenantId choice now).1.rows, Ages _ old new
    cases revokes : revoke licenses tenantId choice now with
    | mk after ret =>
      cases ret with
      | none =>
        rw [revoke_returns_none revokes]
        exact ⟨old, mem, .inl rfl⟩
      | some ret =>
        obtain ⟨license, inside, own, active, rows⟩ := revoke_returns revokes
        rw [rows]
        refine ⟨_, mem_map_of_mem mem, ?_⟩
        split
        · -- ids are unique, so that the row changed is the active one that was found
          rename_i same
          have : Std.Symm sameId := ⟨fun _ _ same => same.symm⟩
          obtain rfl := licenses.eq_of_conflicts mem inside same
          exact .inr ⟨active, choice, now, own ▸ mem_singleton_self _, rfl⟩
        · exact .inl rfl

def storedLicense : StoredLicense :=
  newLicense ⟨⟨1⟩, none, .pro, "Acme", 10, some 5, 365⟩ ⟨⟨7⟩, 0, 0, "hash"⟩ 31536000000000

end Portcullis.Auth.LicenseService
