import Portcullis.Lib.HashChain
import Portcullis.Models.Orm

/-!
# The audit repository

`app/repositories/audit.py`: `create` appends a row that carries the hash of the tenant's
newest row, `verify_chain` reads the newest ten thousand rows of a tenant back and checks
links and hashes from the oldest of them on.  A log written by serial calls verifies
exactly if it fits that page and, for events without a tenant, has at most one row.
-/

namespace Portcullis.Repositories.Audit

open Lib Lib.HashChain Lib.Ranked Models

/-! ## Hash of an entry -/

/-- The values `_compute_entry_hash` serialises.  The sorted, compact JSON text spells
out these nine values and nothing else; `created_at` stands for its ISO text. -/
structure HashPayload where
  createdAt : Instant
  detail : Json
  eventType : String
  outcome : String
  prevHash : String
  serverSlug : String
  subjectId : String
  tenantId : String
  toolName : String
  deriving DecidableEq

/-- `detail or {}`. -/
def detailOrEmpty (detail : Option Json) : Json :=
  match detail with
  | some value => if value.truthy then value else .obj []
  | none => .obj []

def entryPayload (prevHash : Option String) (tenantId : Option Uuid)
    (subjectId : Option String) (eventType : AuditEventType) (outcome : String)
    (serverSlug toolName : Option String) (detail : Option Json) (createdAt : Instant) :
    HashPayload where
  createdAt := createdAt
  detail := (detailOrEmpty detail).sortKeys
  eventType := eventType.value
  outcome := outcome
  prevHash := prevHash.getD ""
  serverSlug := serverSlug.getD ""
  subjectId := subjectId.getD ""
  tenantId := (tenantId.map Uuid.str).getD ""
  toolName := toolName.getD ""

def rowPayload (log : AuditLog) : HashPayload :=
  entryPayload log.prevHash log.tenantId log.subjectId log.eventType log.outcome
    log.serverSlug log.toolName (some log.detail) log.createdAt

/-- A table in whatever order the database keeps it. -/
abbrev Table := List AuditLog

/-- Rows of the tenant, newest first; without a tenant the filter is `IS NULL`. -/
def listRows (tenantId : Option Uuid) (limit : Nat) (table : Table) : List AuditLog :=
  (sortOn (fun log : AuditLog => -log.createdAt)
    (table.filter fun log => decide (log.tenantId = tenantId))).take limit

section Hash

variable (hash : HashPayload → String)

/-! ## Appending -/

/-- The arguments of `create`. -/
structure AuditEvent where
  eventType : AuditEventType
  outcome : String
  tenantId : Option Uuid
  subjectId : Option String
  subjectType : Option SubjectType
  serverSlug : Option String
  toolName : Option String
  rpcMethod : Option String
  clientIp : Option String
  requestId : Option String
  detail : Option Json

variable (tenantId : Option Uuid)

def newestHash (table : Table) : Option String :=
  (listRows tenantId 1 table).head?.bind (·.entryHash)

/-- Events without a tenant are not linked. -/
def prevHashFor (event : AuditEvent) (table : Table) : Option String :=
  match event.tenantId with
  | none => none
  | some tenantId => newestHash (some tenantId) table

/-- The row `create` inserts once it has read `prevHash`. -/
def newRow (event : AuditEvent) (id : Uuid) (now : Instant) (prevHash : Option String) :
    AuditLog where
  id := id
  tenantId := event.tenantId
  subjectId := event.subjectId
  subjectType := event.subjectType
  eventType := event.eventType
  serverSlug := event.serverSlug
  toolName := event.toolName
  rpcMethod := event.rpcMethod
  outcome := event.outcome
  clientIp := event.clientIp
  requestId := event.requestId
  prevHash := prevHash
  entryHash := some (hash (entryPayload prevHash event.tenantId event.subjectId
    event.eventType event.outcome event.serverSlug event.toolName event.detail now))
  detail := event.detail.getD (.obj [])
  createdAt := now

structure Write where
  event : AuditEvent
  id : Uuid
  now : Instant

def create (table : Table) (write : Write) : Table :=
  table ++ [newRow hash write.event write.id write.now (prevHashFor write.event table)]

/-! ## Verification -/

def hashText (value : Option String) : String := value.getD "None"

def brokenText (log : AuditLog) (prev : Option String) : String :=
  "chain broken at " ++ log.id.str ++ ": expected prev_hash " ++ hashText prev ++
    ", got " ++ hashText log.prevHash

def mismatchText (log : AuditLog) : String :=
  "hash mismatch at " ++ log.id.str ++ ": entry was tampered"

/-- The loop of `verify_chain`, oldest row first.  `created_at` is not nullable, so the
answer for a missing one never occurs. -/
def verifyRows : Option String → List AuditLog → Bool × Option String
  | _, [] => (true, none)
  | prev, log :: rest =>
    if log.prevHash ≠ prev then (false, some (brokenText log prev))
    else if log.entryHash.any (fun stored => decide (hash (rowPayload log) ≠ stored)) then
      (false, some (mismatchText log))
    else verifyRows log.entryHash rest

def pageLimit : Nat := 10000

def page (table : Table) : List AuditLog :=
  (listRows tenantId pageLimit table).reverse

def verifyChain (table : Table) : Bool × Option String :=
  verifyRows hash none (page tenantId table)

def scheme : Scheme AuditLog HashPayload where
  prevHash := AuditLog.prevHash
  entryHash := AuditLog.entryHash
  payload := rowPayload
  hash := hash

theorem verifyRows_cases (rows : List AuditLog) : ∀ prev : Option String,
    (scheme hash).Linked prev rows ∧ verifyRows hash prev rows = (true, none) ∨
      ¬ (scheme hash).Linked prev rows ∧ (verifyRows hash prev rows).1 = false := by
  induction rows with
  | nil =>
    intro prev
    exact .inl ⟨trivial, rfl⟩
  | cons log rest ih =>
    intro prev
    unfold verifyRows Scheme.Linked
    by_cases link : log.prevHash = prev
    · rw [if_neg (not_not.mpr link)]
      by_cases mismatch : log.entryHash.any
          (fun stored => decide (hash (rowPayload log) ≠ stored)) = true
      · rw [if_pos mismatch]
        refine .inr ⟨?_, rfl⟩
        rintro ⟨_, sealed, _⟩
        obtain ⟨stored, storedEq, differs⟩ := (Option.any_eq_true _ _).mp mismatch
        rw [decide_eq_true_eq] at differs
        exact differs (sealed stored storedEq)
      · rw [if_neg mismatch]
        have sealed : (scheme hash).Sealed log := by
          intro stored storedEq
          by_contra differs
          exact mismatch ((Option.any_eq_true _ _).mpr ⟨stored, storedEq, decide_eq_true differs⟩)
        rcases ih log.entryHash with ⟨linked, acc⟩ | ⟨broken, refused⟩
        · exact .inl ⟨⟨link, sealed, linked⟩, acc⟩
        · exact .inr ⟨fun whole => broken whole.2.2, refused⟩
    · rw [if_pos link]
      exact .inr ⟨fun whole => link whole.1, rfl⟩

theorem verifyChain_ok_iff (table : Table) : verifyChain hash tenantId table = (true, none) ↔
      (scheme hash).Linked none (page tenantId table) := by
  rcases verifyRows_cases hash (page tenantId table) none with
    ⟨linked, acc⟩ | ⟨broken, refused⟩
  · exact ⟨fun _ => linked, fun _ => acc⟩
  · constructor
    · intro acc
      rw [verifyChain] at acc
      rw [acc] at refused
      cases refused
    · intro linked
      exact absurd linked broken

theorem verifyChain_refused_iff (table : Table) : (verifyChain hash tenantId table).1 = false ↔
      ¬ (scheme hash).Linked none (page tenantId table) := by
  rcases verifyRows_cases hash (page tenantId table) none with
    ⟨linked, acc⟩ | ⟨broken, refused⟩
  · simp [verifyChain, acc, linked]
  · simp [verifyChain, refused, broken]

end Hash

end Portcullis.Repositories.Audit
