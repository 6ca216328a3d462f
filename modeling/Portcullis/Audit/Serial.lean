import Portcullis.Repositories.Audit

/-!
# Logs written by serial calls

With increasing timestamps the rows of a tenant are read back in the order in which they
were written, so each new row continues the chain.  Verification restarts at the oldest
row of its page and refuses a link there; rows without a tenant are hashed but never
linked.
-/

namespace Portcullis.Audit.Serial

open Lib Lib.HashChain Lib.Ranked Models Repositories.Audit List

def rowsOf (tenantId : Option Uuid) (table : Table) : List AuditLog :=
  table.filter fun log => decide (log.tenantId = tenantId)

def Increasing (rows : List AuditLog) : Prop :=
  rows.Pairwise fun earlier later => earlier.createdAt < later.createdAt

section Reading

variable (tenantId : Option Uuid) (table : Table)

theorem listRows_of_increasing (limit : Nat) (increasing : Increasing (rowsOf tenantId table)) :
    listRows tenantId limit table = (rowsOf tenantId table).reverse.take limit := by
  have sorted : sortOn (fun log : AuditLog => -log.createdAt) (rowsOf tenantId table) =
      (rowsOf tenantId table).reverse := by
    apply sortOn_eq_of_perm
    · exact reverse_perm _
    · rw [pairwise_reverse]
      exact increasing.imp fun less => neg_lt_neg less
  exact congrArg (List.take limit) sorted

theorem page_of_increasing (increasing : Increasing (rowsOf tenantId table)) : page tenantId table =
      (rowsOf tenantId table).drop ((rowsOf tenantId table).length - pageLimit) := by
  rw [page, listRows_of_increasing tenantId table pageLimit increasing, take_reverse,
    reverse_reverse]

theorem newestHash_of_increasing (hash : HashPayload → String)
    (increasing : Increasing (rowsOf tenantId table)) :
    newestHash tenantId table = (scheme hash).newest none (rowsOf tenantId table) := by
  rw [newestHash, listRows_of_increasing tenantId table 1 increasing]
  cases rowsOf tenantId table using List.reverseRecOn with
  | nil => rfl
  | append_singleton rows row =>
    rw [Scheme.newest_concat, reverse_append]
    rfl

end Reading

section Writing

variable (hash : HashPayload → String) (tenantId : Option Uuid) (table : Table)

/-- The rows of the tenant form one chain from a first row without a link. -/
structure Chained : Prop where
  increasing : Increasing (rowsOf tenantId table)
  linked : (scheme hash).Linked none (rowsOf tenantId table)
  hashed : ∀ row ∈ rowsOf tenantId table, row.entryHash.isSome = true

theorem newRow_entryHash (event : AuditEvent) (id : Uuid) (now : Instant)
    (prevHash : Option String) :
    (newRow hash event id now prevHash).entryHash =
      some (hash (rowPayload (newRow hash event id now prevHash))) := by
  have sameDetail : detailOrEmpty (some (event.detail.getD (.obj []))) =
      detailOrEmpty event.detail := by
    cases event.detail with
    | none => rfl
    | some detail => rfl
  unfold rowPayload newRow
  unfold entryPayload
  rw [sameDetail]

theorem newRow_sealed (event : AuditEvent) (id : Uuid) (now : Instant) (prevHash : Option String) :
    (scheme hash).Sealed (newRow hash event id now prevHash) := by
  intro stored storedEq
  exact Option.some.inj ((newRow_entryHash hash event id now prevHash).symm.trans storedEq)

theorem increasing_concat (rows : List AuditLog) (row : AuditLog)
    (increasing : Increasing rows) (later : ∀ log ∈ rows, log.createdAt < row.createdAt) :
    Increasing (rows ++ [row]) := by
  refine pairwise_append.mpr ⟨increasing, pairwise_singleton _ _, ?_⟩
  intro log mem last lastMember
  rw [mem_singleton.mp lastMember]
  exact later log mem

theorem rowsOf_concat_same (row : AuditLog) (same : row.tenantId = tenantId) :
    rowsOf tenantId (table ++ [row]) = rowsOf tenantId table ++ [row] := by
  simp [rowsOf, same]

variable {hash tenantId table}

theorem Chained.concat (chained : Chained hash tenantId table) (event : AuditEvent)
    (id : Uuid) (now : Instant) (same : event.tenantId = tenantId)
    (later : ∀ log ∈ rowsOf tenantId table, log.createdAt < now) :
    Chained hash tenantId (table ++ [newRow hash event id now (newestHash tenantId table)]) := by
  have rows := rowsOf_concat_same tenantId table
    (newRow hash event id now (newestHash tenantId table)) same
  constructor
  · rw [rows]
    exact increasing_concat _ _ chained.increasing later
  · rw [rows, Scheme.linked_concat]
    exact ⟨chained.linked, newestHash_of_increasing tenantId table hash chained.increasing,
      newRow_sealed hash event id now _⟩
  · intro row mem
    rw [rows] at mem
    rcases mem_append.mp mem with prev | last
    · exact chained.hashed row prev
    · rw [mem_singleton.mp last]
      rfl

theorem Chained.verified (chained : Chained hash tenantId table)
    (short : (rowsOf tenantId table).length ≤ pageLimit) :
    verifyChain hash tenantId table = (true, none) := by
  rw [verifyChain_ok_iff, page_of_increasing tenantId table chained.increasing,
    Nat.sub_eq_zero_of_le short, drop_zero]
  exact chained.linked

/-- Past the page limit the oldest row of the page has a link. -/
theorem Chained.not_linked_page (chained : Chained hash tenantId table)
    (long : pageLimit < (rowsOf tenantId table).length) :
    ¬ (scheme hash).Linked none (page tenantId table) := by
  rw [page_of_increasing tenantId table chained.increasing]
  generalize cut : (rowsOf tenantId table).length - pageLimit = skipped
  have linked := chained.linked
  rw [← take_append_drop skipped (rowsOf tenantId table), Scheme.linked_append] at linked
  obtain ⟨_, continued⟩ := linked
  rw [Scheme.linked_none_iff_of_linked _ _ _ continued]
  intro unlinked
  cases rest : (rowsOf tenantId table).drop skipped with
  | nil =>
    have length := congrArg List.length rest
    rw [length_drop, length_nil] at length
    unfold pageLimit at cut long
    omega
  | cons oldest newer =>
    rw [rest] at unlinked continued
    have noLink := unlinked oldest rfl
    rw [continued.1] at noLink
    cases before : (rowsOf tenantId table).take skipped using List.reverseRecOn with
    | nil =>
      have length := congrArg List.length before
      rw [length_take, length_nil] at length
      omega
    | append_singleton rows row =>
      rw [before, Scheme.newest_concat] at noLink
      have mem : row ∈ rowsOf tenantId table := by
        apply mem_of_mem_take
        rw [before]
        simp
      have hashed := chained.hashed row mem
      rw [show row.entryHash = none from noLink] at hashed
      cases hashed

end Writing

/-! ## Whole runs -/

section Runs

variable (hash : HashPayload → String) (tenantId : Option Uuid)

def createAll (writes : List Write) : Table :=
  writes.foldl (create hash) []

variable (writes : List Write)

theorem createAll_concat (write : Write) :
    createAll hash (writes ++ [write]) = create hash (createAll hash writes) write := by
  rw [createAll, foldl_append]
  rfl

def writesOf (writes : List Write) : List Write :=
  writes.filter fun write => decide (write.event.tenantId = tenantId)

theorem writesOf_concat (write : Write) : writesOf tenantId (writes ++ [write]) =
      if write.event.tenantId = tenantId then writesOf tenantId writes ++ [write]
      else writesOf tenantId writes := by
  unfold writesOf
  split
  · rename_i same
    simp [same]
  · rename_i other
    simp [other]

theorem rowsOf_create (table : Table) (write : Write) : rowsOf tenantId (create hash table write) =
      if write.event.tenantId = tenantId then
        rowsOf tenantId table ++
          [newRow hash write.event write.id write.now (prevHashFor write.event table)]
      else rowsOf tenantId table := by
  rw [create]
  split
  · rename_i same
    exact rowsOf_concat_same tenantId table _ same
  · rename_i other
    simp only [rowsOf, filter_append]
    rw [filter_cons_of_neg (by simp [newRow, other]), filter_nil, append_nil]

theorem createdAt_rowsOf_createAll : (rowsOf tenantId (createAll hash writes)).map (·.createdAt) =
      (writesOf tenantId writes).map (·.now) := by
  induction writes using List.reverseRecOn with
  | nil => rfl
  | append_singleton writes write ih =>
    rw [createAll_concat, rowsOf_create, writesOf_concat]
    split
    · rw [map_append, map_append, ih]
      rfl
    · exact ih

theorem length_rowsOf_createAll :
    (rowsOf tenantId (createAll hash writes)).length = (writesOf tenantId writes).length := by
  have lengths := congrArg List.length (createdAt_rowsOf_createAll hash tenantId writes)
  rwa [length_map, length_map] at lengths

theorem increasing_rowsOf_createAll
    (ordered : writes.Pairwise fun prev later => prev.now < later.now) :
    Increasing (rowsOf tenantId (createAll hash writes)) := by
  have stamps : ((writesOf tenantId writes).map (·.now)).Pairwise (· < ·) :=
    pairwise_map.mpr (ordered.sublist filter_sublist)
  rw [← createdAt_rowsOf_createAll hash tenantId writes] at stamps
  exact pairwise_map.mp stamps

theorem rows_before (write : Write)
    (ordered : (writes ++ [write]).Pairwise fun prev later => prev.now < later.now) :
    ∀ log ∈ rowsOf tenantId (createAll hash writes), log.createdAt < write.now := by
  intro log mem
  have stamp : log.createdAt ∈ (writesOf tenantId writes).map (·.now) := by
    rw [← createdAt_rowsOf_createAll hash tenantId writes]
    exact mem_map_of_mem mem
  obtain ⟨prev, earlierMember, stampEq⟩ := mem_map.mp stamp
  rw [← stampEq]
  exact (pairwise_append.mp ordered).2.2 prev (mem_of_mem_filter earlierMember)
    write (mem_singleton.mpr rfl)

theorem chained_createAll (tenant : Uuid) (writes : List Write)
    (ordered : writes.Pairwise fun prev later => prev.now < later.now) :
    Chained hash (some tenant) (createAll hash writes) := by
  induction writes using List.reverseRecOn with
  | nil => exact ⟨List.Pairwise.nil, trivial, fun _ mem => absurd mem not_mem_nil⟩
  | append_singleton writes write ih =>
    have chained := ih (pairwise_append.mp ordered).1
    rw [createAll_concat]
    by_cases same : write.event.tenantId = some tenant
    · have continued := chained.concat write.event write.id write.now same
        (rows_before hash (some tenant) writes write ordered)
      rw [create, prevHashFor, same]
      exact continued
    · have rows := rowsOf_create hash (some tenant) (createAll hash writes) write
      rw [if_neg same] at rows
      refine ⟨?_, ?_, ?_⟩
      · rw [rows]
        exact chained.increasing
      · rw [rows]
        exact chained.linked
      · rw [rows]
        exact chained.hashed

/-- Rows without a tenant carry a hash and no link. -/
theorem unlinked_createAll : ∀ row ∈ rowsOf none (createAll hash writes),
      row.prevHash = none ∧ row.entryHash = some (hash (rowPayload row)) := by
  induction writes using List.reverseRecOn with
  | nil =>
    intro row mem
    exact absurd mem not_mem_nil
  | append_singleton writes write ih =>
    intro row mem
    rw [createAll_concat, rowsOf_create] at mem
    split at mem
    · rename_i same
      rcases mem_append.mp mem with prev | last
      · exact ih row prev
      · rw [mem_singleton.mp last]
        refine ⟨?_, newRow_entryHash hash _ _ _ _⟩
        simp [newRow, prevHashFor, same]
    · exact ih row mem

theorem linked_of_unlinked_iff (rows : List AuditLog) (unlinked : ∀ row ∈ rows,
      row.prevHash = none ∧ row.entryHash = some (hash (rowPayload row))) :
    (scheme hash).Linked none rows ↔ rows.length ≤ 1 := by
  match rows with
  | [] => simp [Scheme.Linked]
  | [row] =>
    obtain ⟨noLink, entry⟩ := unlinked row mem_cons_self
    simp [Scheme.Linked, Scheme.Sealed, scheme, noLink, entry]
  | first :: second :: rest =>
    obtain ⟨_, entry⟩ := unlinked first mem_cons_self
    obtain ⟨noLink, _⟩ := unlinked second (mem_cons_of_mem _ mem_cons_self)
    simp [Scheme.Linked, scheme, noLink, entry]

end Runs

/-! ## Two events -/

def sampleHash (payload : HashPayload) : String :=
  "sha256(" ++ payload.prevHash ++ ";" ++ payload.outcome ++ ")"

def sampleEvent (tenantId : Option Uuid) (outcome : String) : AuditEvent where
  eventType := .toolCall
  outcome := outcome
  tenantId := tenantId
  subjectId := some "agent-1"
  subjectType := some .apiKey
  serverSlug := some "github"
  toolName := some "read_file"
  rpcMethod := some "tools/call"
  clientIp := some "10.0.0.1"
  requestId := none
  detail := none

def sampleWrites (tenantId : Option Uuid) : List Write :=
  [⟨sampleEvent tenantId "allowed", ⟨1#128⟩, 1⟩, ⟨sampleEvent tenantId "denied", ⟨2#128⟩, 2⟩]

end Portcullis.Audit.Serial
