import Portcullis.Audit.Evidence

/-!
# Retention of audit rows

`scripts/audit_retention.py` and `AuditRetentionPolicy` of `app/audit/tamper.py` delete or
mark old rows.  Deletion leaves the end of each tenant's chain, whose oldest row keeps its
link, while verification always starts without one; the archive mark goes into the hashed
detail.
-/

namespace Portcullis.Audit.Retention

open Audit.Evidence Audit.Serial Lib Lib.HashChain Lib.Ranked Models Repositories.Audit List

/-- `timedelta(days=..)` in microseconds. -/
def daysLong (days : Int) : Int := days * (86400 * 1000000)

/-- `DELETE .. WHERE created_at < cutoff`. -/
def deleteBefore (cutoff : Instant) (table : Table) : Table :=
  table.filter fun log => decide (cutoff ≤ log.createdAt)

def prune (retentionDays : Int) (now : Instant) (table : Table) : Table :=
  if retentionDays ≤ 0 then table else deleteBefore (now - daysLong retentionDays) table

def purgeExpiredEntries (maxAgeDays : Int) (now : Instant) (table : Table) : Table :=
  deleteBefore (now - daysLong maxAgeDays) table

/-- `{**(detail or {}), "archived": True, "archived_at": ..}`, which raises unless the
detail is a mapping. -/
def archivedDetail (archivedAt : String) (detail : Json) : Option Json :=
  match detailOrEmpty (some detail) with
  | .obj members =>
    some (.obj (Json.assign false "archived_at" (.str archivedAt)
      (Json.assign false "archived" (.bool true) members)))
  | _ => none

def entriesToArchive (cutoff : Instant) (table : Table) : List AuditLog :=
  (table.filter fun log => decide (log.createdAt < cutoff)).take 10000

def archiveRow (entries : List AuditLog) (archivedAt : AuditLog → String) (log : AuditLog) :
    AuditLog :=
  if entries.any fun entry => decide (entry.id = log.id) then
    { log with detail := (archivedDetail (archivedAt log) log.detail).getD log.detail }
  else log

/-- All loaded rows are marked in one transaction; an error on one of them leaves the
table as it was. -/
def archiveOldEntries (retentionDays : Int) (archivedAt : AuditLog → String) (now : Instant)
    (table : Table) : Table :=
  let entries := entriesToArchive (now - daysLong retentionDays) table
  if entries.all fun entry => (archivedDetail (archivedAt entry) entry.detail).isSome then
    table.map (archiveRow entries archivedAt)
  else table

inductive Maintenance where
  | prune (retentionDays : Int)
  | purge (maxAgeDays : Int)
  | archive (retentionDays : Int) (archivedAt : AuditLog → String)

def maintain (operation : Maintenance) (now : Instant) (table : Table) : Table :=
  match operation with
  | .prune retentionDays => prune retentionDays now table
  | .purge maxAgeDays => purgeExpiredEntries maxAgeDays now table
  | .archive retentionDays archivedAt =>
    archiveOldEntries retentionDays archivedAt now table

/-! ## Deletion -/

section Deletion

variable (hash : HashPayload → String) (tenantId : Option Uuid) (table : Table) (cutoff : Instant)

/-- The oldest row of the page that survives has no link. -/
def SurvivorUnlinked : Prop :=
  ∀ log ∈ ((page tenantId table).filter fun log => decide (cutoff ≤ log.createdAt)).head?,
    log.prevHash = none

theorem closed_newest_first :
    (sortOn (fun log : AuditLog => -log.createdAt) (rowsOf tenantId table)).Pairwise
      fun left right => decide (cutoff ≤ right.createdAt) = true →
        decide (cutoff ≤ left.createdAt) = true := by
  refine (sortOn_pairwise _ _).imp ?_
  intro left right newer kept
  rw [decide_eq_true_eq] at kept ⊢
  exact le_trans kept (neg_le_neg_iff.mp newer)

theorem page_deleteBefore : page tenantId (deleteBefore cutoff table) =
      (page tenantId table).filter fun log => decide (cutoff ≤ log.createdAt) := by
  have swapped : (deleteBefore cutoff table).filter (fun log => decide (log.tenantId = tenantId)) =
      (rowsOf tenantId table).filter fun log => decide (cutoff ≤ log.createdAt) := by
    rw [deleteBefore, rowsOf, filter_filter, filter_filter]
    simp only [Bool.and_comm]
  rw [page, listRows, swapped, sortOn_filter,
    ← filter_take_of_closed _ _ (closed_newest_first tenantId table cutoff),
    ← filter_reverse]
  rfl

theorem survivors_suffix :
    (page tenantId table).filter (fun log => decide (cutoff ≤ log.createdAt)) <:+
      page tenantId table := by
  rw [page, filter_reverse, reverse_suffix]
  exact filter_isPrefix _ _
    ((closed_newest_first tenantId table cutoff).sublist (take_sublist _ _))

theorem deleteBefore_linked_iff (acc : (scheme hash).Linked none (page tenantId table)) :
    (scheme hash).Linked none (page tenantId (deleteBefore cutoff table)) ↔
      SurvivorUnlinked tenantId table cutoff := by
  rw [page_deleteBefore]
  obtain ⟨deleted, split⟩ := survivors_suffix tenantId table cutoff
  rw [← split, Scheme.linked_append] at acc
  exact (scheme hash).linked_none_iff_of_linked _ _ acc.2

end Deletion

/-! ## Archiving -/

section Archiving

variable (hash : HashPayload → String) (tenantId : Option Uuid) (table : Table)
  (mark : AuditLog → AuditLog)

/-- A rewriting of rows that touches the detail only. -/
structure DetailOnly : Prop where
  sameId : ∀ log, (mark log).id = log.id
  sameTenant : ∀ log, (mark log).tenantId = log.tenantId
  samePrev : ∀ log, (mark log).prevHash = log.prevHash
  sameEntry : ∀ log, (mark log).entryHash = log.entryHash
  sameCreated : ∀ log, (mark log).createdAt = log.createdAt

theorem archiveRow_detailOnly (entries : List AuditLog) (archivedAt : AuditLog → String) :
    DetailOnly (archiveRow entries archivedAt) := by
  constructor
  all_goals
    intro log
    unfold archiveRow
    split <;> rfl

def markedEdit (detailOnly : DetailOnly mark) (log : AuditLog) : Edit where
  before := log
  after := mark log
  sameId := detailOnly.sameId log
  sameTenant := detailOnly.sameTenant log
  samePrev := detailOnly.samePrev log
  sameEntry := detailOnly.sameEntry log

/-- Every hashed row of the page keeps its hash under the rewriting. -/
def HashesKept : Prop :=
  ∀ log ∈ page tenantId table, log.entryHash.isSome = true →
    hash (rowPayload (mark log)) = hash (rowPayload log)

theorem marked_linked_iff (detailOnly : DetailOnly mark)
    (acc : (scheme hash).Linked none (page tenantId table)) :
    (scheme hash).Linked none (page tenantId (table.map mark)) ↔
      HashesKept hash tenantId table mark := by
  let edits := table.map (markedEdit mark detailOnly)
  have before : edits.map Edit.before = table := by
    rw [map_map]
    exact map_id table
  have after : edits.map Edit.after = table.map mark := by
    rw [map_map]
    rfl
  have kept : OrderKept edits := by
    intro first firstMember second secondMember
    obtain ⟨left, _, rfl⟩ := mem_map.mp firstMember
    obtain ⟨right, _, rfl⟩ := mem_map.mp secondMember
    simp only [markedEdit, detailOnly.sameCreated]
  have marked : ∀ edit ∈ pageEdits tenantId edits, edit.after = mark edit.before := by
    intro edit mem
    obtain ⟨log, _, rfl⟩ := mem_map.mp (mem_of_mem_pageEdits tenantId edits edit mem)
    rfl
  have pageRows : page tenantId table = (pageEdits tenantId edits).map Edit.before := by
    rw [← page_map_before, before]
  rw [← before] at acc
  rw [← after, edited_linked_iff tenantId edits hash kept acc]
  unfold HashesKept
  rw [pageRows, forall_mem_map]
  apply forall₂_congr
  intro edit mem
  rw [marked edit mem]

end Archiving

/-! ## All three operations -/

/-- What each operation must leave alone on the verified page. -/
def Harmless (hash : HashPayload → String) (operation : Maintenance) (now : Instant)
    (tenantId : Option Uuid) (table : Table) : Prop :=
  match operation with
  | .prune retentionDays =>
    retentionDays ≤ 0 ∨ SurvivorUnlinked tenantId table (now - daysLong retentionDays)
  | .purge maxAgeDays => SurvivorUnlinked tenantId table (now - daysLong maxAgeDays)
  | .archive retentionDays archivedAt =>
    let entries := entriesToArchive (now - daysLong retentionDays) table
    (∃ entry ∈ entries, archivedDetail (archivedAt entry) entry.detail = none) ∨
      HashesKept hash tenantId table (archiveRow entries archivedAt)

def nextDay : Instant := 2 + daysLong 1

/-- A stand-in for the digest that shows the link and the members of the detail. -/
def memberHash (payload : HashPayload) : String :=
  match payload.detail with
  | .obj members => payload.prevHash ++ "/" ++ members.foldl (fun text member =>
    text ++ member.1) ""
  | _ => ""

end Portcullis.Audit.Retention
