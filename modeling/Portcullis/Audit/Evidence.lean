import Portcullis.Audit.Serial

/-!
# What an accepted log is evidence of

The newest hash of an accepted log fixes the sequence of its hash payloads.  An edit of
stored columns is detected exactly if it changes the payload of a row of the verified page
that stores a hash: the caller's address, the request id, the RPC method and the subject
type are in no payload, and a null text is hashed as the empty one.
-/

namespace Portcullis.Audit.Evidence

open Audit.Serial Lib Lib.HashChain Lib.Ranked Models Repositories.Audit List

def NoCollision (hash : HashPayload → String) (payloads : List HashPayload) : Prop :=
  ∀ first ∈ payloads, ∀ second ∈ payloads, hash first = hash second → first = second

instance (hash : HashPayload → String) (payloads : List HashPayload) :
    Decidable (NoCollision hash payloads) :=
  inferInstanceAs (Decidable (∀ first ∈ payloads, ∀ second ∈ payloads,
    hash first = hash second → first = second))

/-! ## The newest hash -/

/-- All rows of the tenant by `created_at`, oldest first. -/
def chronological (tenantId : Option Uuid) (table : Table) : List AuditLog :=
  (sortOn (fun log : AuditLog => -log.createdAt) (rowsOf tenantId table)).reverse

def payloadsOf (tenantId : Option Uuid) (table : Table) : List HashPayload :=
  (chronological tenantId table).map rowPayload

section Newest

variable (hash : HashPayload → String) (tenantId : Option Uuid) (table : Table)

theorem page_eq_chronological (short : (rowsOf tenantId table).length ≤ pageLimit) :
    page tenantId table = chronological tenantId table := by
  have length : (sortOn (fun log : AuditLog => -log.createdAt)
      (rowsOf tenantId table)).length ≤ pageLimit := by
    rw [sortOn, length_insertionSort]
    exact short
  exact congrArg List.reverse (take_of_length_le length)

theorem newestHash_eq_newest : newestHash tenantId table =
      (scheme hash).newest none (chronological tenantId table) := by
  unfold newestHash listRows chronological rowsOf
  cases sortOn (fun log : AuditLog => -log.createdAt)
      (table.filter fun log => decide (log.tenantId = tenantId)) with
  | nil => rfl
  | cons newest older =>
    rw [reverse_cons, Scheme.newest_concat]
    rfl

theorem mem_chronological (log : AuditLog) :
    log ∈ chronological tenantId table ↔ log ∈ rowsOf tenantId table := by
  rw [chronological, mem_reverse, mem_sortOn]

/-- Two accepted logs of one tenant with the same newest hash have the same hashed
payloads, row by row. -/
theorem newest_hash_binds_log (left right : Table) (nonempty : ∀ payload, hash payload ≠ "")
    (leftShort : (rowsOf tenantId left).length ≤ 10000)
    (rightShort : (rowsOf tenantId right).length ≤ 10000)
    (leftHashed : ∀ row ∈ rowsOf tenantId left, row.entryHash.isSome = true)
    (rightHashed : ∀ row ∈ rowsOf tenantId right, row.entryHash.isSome = true)
    (collisionFree : NoCollision hash (payloadsOf tenantId left ++ payloadsOf tenantId right))
    (leftAccepted : verifyChain hash tenantId left = (true, none))
    (rightAccepted : verifyChain hash tenantId right = (true, none))
    (sameNewest : newestHash tenantId left = newestHash tenantId right) :
    (chronological tenantId left).length = (chronological tenantId right).length ∧
      payloadsOf tenantId left = payloadsOf tenantId right := by
  rw [verifyChain_ok_iff, page_eq_chronological tenantId left leftShort] at leftAccepted
  rw [verifyChain_ok_iff, page_eq_chronological tenantId right rightShort] at rightAccepted
  rw [newestHash_eq_newest hash, newestHash_eq_newest hash] at sameNewest
  have payloads : payloadsOf tenantId left = payloadsOf tenantId right :=
    (scheme hash).payloads_eq_of_newest_eq (·.prevHash) (fun _ => rfl) nonempty
      (chronological tenantId left) (chronological tenantId right) leftAccepted rightAccepted
      (fun row mem => leftHashed row ((mem_chronological tenantId left row).mp mem))
      (fun row mem => rightHashed row ((mem_chronological tenantId right row).mp mem))
      (fun first firstMember second secondMember =>
        collisionFree _ (mem_append_left _ (mem_map_of_mem firstMember)) _
          (mem_append_right _ (mem_map_of_mem secondMember)))
      sameNewest
  have lengths := congrArg List.length payloads
  unfold payloadsOf at lengths
  rw [length_map, length_map] at lengths
  exact ⟨lengths, payloads⟩

end Newest

def sampleTenant : Option Uuid := some ⟨7#128⟩

def sampleTable : Table := createAll sampleHash (sampleWrites sampleTenant)

def readdressedTable : Table :=
  sampleTable.map fun log => { log with clientIp := some "203.0.113.9" }

theorem newest_hash_binds_log_sample : (chronological sampleTenant sampleTable).length =
        (chronological sampleTenant readdressedTable).length ∧
      payloadsOf sampleTenant sampleTable = payloadsOf sampleTenant readdressedTable :=
  newest_hash_binds_log sampleHash sampleTenant sampleTable readdressedTable
    (by
      intro payload
      unfold sampleHash
      simp)
    (by decide +kernel) (by decide +kernel) (by decide +kernel) (by decide +kernel)
    (by decide +kernel) (by decide +kernel) (by decide +kernel) (by decide +kernel)

/-! ## Edits of stored columns -/

/-- A row before and after its columns were changed; id, tenant and both hashes stay. -/
structure Edit where
  before : AuditLog
  after : AuditLog
  sameId : after.id = before.id
  sameTenant : after.tenantId = before.tenantId
  samePrev : after.prevHash = before.prevHash
  sameEntry : after.entryHash = before.entryHash

def OrderKept (edits : List Edit) : Prop :=
  ∀ first ∈ edits, ∀ second ∈ edits, (first.before.createdAt ≤ second.before.createdAt ↔
      first.after.createdAt ≤ second.after.createdAt)

def pageEdits (tenantId : Option Uuid) (edits : List Edit) : List Edit :=
  ((sortOn (fun edit : Edit => -edit.before.createdAt)
    (edits.filter fun edit => decide (edit.before.tenantId = tenantId))).take pageLimit).reverse

/-- The edit changes what is hashed: null and empty texts are the same there, and so are
the empty detail and every detail that counts as false. -/
def ChangesHashed (edit : Edit) : Prop :=
  edit.after.createdAt ≠ edit.before.createdAt ∨ (detailOrEmpty (some edit.after.detail)).sortKeys ≠
      (detailOrEmpty (some edit.before.detail)).sortKeys ∨
    edit.after.eventType ≠ edit.before.eventType ∨
    edit.after.outcome ≠ edit.before.outcome ∨
    edit.after.serverSlug.getD "" ≠ edit.before.serverSlug.getD "" ∨
    edit.after.subjectId.getD "" ≠ edit.before.subjectId.getD "" ∨
    edit.after.toolName.getD "" ≠ edit.before.toolName.getD ""

theorem eventType_value_injective (left right : AuditEventType)
    (same : left.value = right.value) : left = right := by
  cases left <;> cases right <;> first | rfl | exact absurd same (by decide)

theorem changesHashed_iff (edit : Edit) :
    ChangesHashed edit ↔ rowPayload edit.after ≠ rowPayload edit.before := by
  have events : edit.after.eventType.value = edit.before.eventType.value ↔
      edit.after.eventType = edit.before.eventType :=
    ⟨eventType_value_injective _ _, congrArg _⟩
  simp only [ChangesHashed, rowPayload, entryPayload, edit.samePrev, edit.sameTenant, ne_eq,
    HashPayload.mk.injEq]
  tauto

section Edits

variable (tenantId : Option Uuid) (edits : List Edit)

theorem page_map_before :
    page tenantId (edits.map Edit.before) = (pageEdits tenantId edits).map Edit.before := by
  rw [page, listRows, pageEdits, map_reverse, map_take, filter_map]
  unfold sortOn
  rw [map_insertionSort
    (fun left right : Edit => -left.before.createdAt ≤ -right.before.createdAt)
    (fun left right : AuditLog => -left.createdAt ≤ -right.createdAt)]
  · rfl
  · intro first _ second _
    exact Iff.rfl

theorem page_map_after (kept : OrderKept edits) :
    page tenantId (edits.map Edit.after) = (pageEdits tenantId edits).map Edit.after := by
  have sameFilter : edits.filter ((fun log : AuditLog => decide (log.tenantId = tenantId)) ∘
      Edit.after) = edits.filter fun edit => decide (edit.before.tenantId = tenantId) := by
    apply filter_congr
    intro edit _
    simp [edit.sameTenant]
  rw [page, listRows, pageEdits, map_reverse, map_take, filter_map, sameFilter]
  unfold sortOn
  rw [map_insertionSort
    (fun left right : Edit => -left.before.createdAt ≤ -right.before.createdAt)
    (fun left right : AuditLog => -left.createdAt ≤ -right.createdAt)]
  intro first firstMember second secondMember
  rw [neg_le_neg_iff, neg_le_neg_iff]
  exact kept second (mem_of_mem_filter secondMember) first (mem_of_mem_filter firstMember)

theorem mem_of_mem_pageEdits (edit : Edit) (mem : edit ∈ pageEdits tenantId edits) :
    edit ∈ edits := by
  rw [pageEdits, mem_reverse] at mem
  exact mem_of_mem_filter ((mem_sortOn _ _ _).mp (mem_of_mem_take mem))

variable (hash : HashPayload → String)

def EditsSeparated : Prop :=
  NoCollision hash (edits.map (rowPayload ·.before) ++ edits.map (rowPayload ·.after))

theorem sealed_after_iff (edit : Edit) (sealed : (scheme hash).Sealed edit.before) :
    (scheme hash).Sealed edit.after ↔ (edit.before.entryHash.isSome = true →
      hash (rowPayload edit.after) = hash (rowPayload edit.before)) := by
  constructor
  · intro sealedAfter hashed
    obtain ⟨stored, storedEq⟩ := Option.isSome_iff_exists.mp hashed
    exact (sealedAfter stored (edit.sameEntry.trans storedEq)).trans (sealed stored storedEq).symm
  · intro unchanged stored storedAfter
    have storedEq : edit.before.entryHash = some stored := edit.sameEntry.symm.trans storedAfter
    have sameHash := unchanged (by rw [storedEq]; rfl)
    exact sameHash.trans (sealed stored storedEq)

/-- An edited log is accepted exactly if no row of the page that stores a hash would now
get another one. -/
theorem edited_linked_iff (kept : OrderKept edits)
    (acc : (scheme hash).Linked none (page tenantId (edits.map Edit.before))) :
    (scheme hash).Linked none (page tenantId (edits.map Edit.after)) ↔
      ∀ edit ∈ pageEdits tenantId edits, edit.before.entryHash.isSome = true →
        hash (rowPayload edit.after) = hash (rowPayload edit.before) := by
  rw [page_map_before] at acc
  rw [page_map_after tenantId edits kept]
  rw [(scheme hash).linked_map_iff Edit.before Edit.after (fun edit => edit.samePrev)
    (fun edit => edit.sameEntry) (pageEdits tenantId edits) none acc]
  have sealedBefore := (scheme hash).sealed_of_linked none _ acc
  apply forall₂_congr
  intro edit mem
  exact sealed_after_iff hash edit (sealedBefore edit.before (mem_map_of_mem mem))

theorem hash_ne_iff (separated : EditsSeparated edits hash) (edit : Edit) (mem : edit ∈ edits) :
    hash (rowPayload edit.after) ≠ hash (rowPayload edit.before) ↔ ChangesHashed edit := by
  rw [changesHashed_iff]
  constructor
  · intro ne samePayload
    exact ne (congrArg hash samePayload)
  intro ne sameHash
  exact ne (separated _ (mem_append_right _ (mem_map.mpr ⟨edit, mem, rfl⟩)) _
    (mem_append_left _ (mem_map.mpr ⟨edit, mem, rfl⟩)) sameHash)

/-- Changes of an accepted log are detected exactly if a row of the page that stores a
hash changes in what is hashed. -/
theorem tampering_detected_iff (kept : OrderKept edits) (separated : EditsSeparated edits hash)
    (accepted : verifyChain hash tenantId (edits.map Edit.before) = (true, none)) :
    (verifyChain hash tenantId (edits.map Edit.after)).1 = false ↔
      ∃ edit ∈ pageEdits tenantId edits,
        edit.before.entryHash.isSome = true ∧ ChangesHashed edit := by
  rw [verifyChain_ok_iff] at accepted
  rw [verifyChain_refused_iff, edited_linked_iff tenantId edits hash kept accepted]
  simp only [not_forall, exists_prop]
  apply exists_congr
  intro edit
  apply and_congr_right
  intro mem
  rw [← ne_eq, hash_ne_iff edits hash separated edit
    (mem_of_mem_pageEdits tenantId edits edit mem)]

end Edits

def edited (clientIp : String) (outcome : String) (log : AuditLog) : Edit where
  before := log
  after := { log with clientIp := some clientIp, outcome := outcome }
  sameId := rfl
  sameTenant := rfl
  samePrev := rfl
  sameEntry := rfl

/-- The denied call is rewritten as an allowed one. -/
theorem tampering_detected_iff_sample : (verifyChain sampleHash sampleTenant
        ((sampleTable.map (edited "10.0.0.1" "allowed")).map Edit.after)).1 = false ↔
      ∃ edit ∈ pageEdits sampleTenant (sampleTable.map (edited "10.0.0.1" "allowed")),
        edit.before.entryHash.isSome = true ∧ ChangesHashed edit :=
  tampering_detected_iff sampleTenant (sampleTable.map (edited "10.0.0.1" "allowed")) sampleHash
    (by
      unfold OrderKept
      decide +kernel)
    (by
      unfold EditsSeparated
      decide +kernel)
    (by decide +kernel)

/-- The caller's address is rewritten in a log of one event, and the log still verifies. -/
theorem address_rewritten_unnoticed :
    let edits := (sampleTable.take 1).map (edited "203.0.113.9" "allowed")
    (∀ edit ∈ edits, edit.after ≠ edit.before) ∧ OrderKept edits ∧ EditsSeparated edits sampleHash ∧
      verifyChain sampleHash sampleTenant (edits.map Edit.before) = (true, none) ∧
      verifyChain sampleHash sampleTenant (edits.map Edit.after) = (true, none) := by
  unfold OrderKept EditsSeparated
  decide +kernel

end Portcullis.Audit.Evidence
