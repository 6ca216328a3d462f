import Portcullis.Lib.Session
import Portcullis.Metering.UsageQueue

/-!
# Upserts that the database rejects

`_flush` of `app/usage_queue.py` sends one upsert for each tenant and day in one transaction, by
`UsageRepository.increment`.  `increment` swallows a rejected upsert and falls back to a query,
which an aborted transaction rejects too, and `_flush` ends with a COMMIT that Postgres turns
into a rollback without an error.
-/

namespace Portcullis.Metering.FlushFailure

open Lib Lib.Ledger List
open Lib.Session (Rejection)
open Metering.UsageQueue (Bucket Delta Key)

/-! ## The session -/

inductive Op where
  | upsert (key : Key) (bucket : Bucket)
  | select (key : Key)
  /-- `session.add` with the flush after it. -/
  | insert (key : Key) (bucket : Bucket)
  /-- The counters of a loaded row are changed; the next flush writes them. -/
  | change (key : Key) (bucket : Bucket)
  | rollback
  | commit

abbrev Ans : Op → Type
  | .upsert _ _ => Except Rejection Unit
  | .select _ => Except Rejection (Option Bucket)
  | .insert _ _ => Except Rejection Unit
  | .change _ _ => Unit
  | .rollback => Unit
  | .commit => Except Rejection Unit

abbrev Sql := Prog Op Ans Rejection

/-- The increments that are committed, those of the open transaction, and those that wait for a
flush. -/
structure Connection where
  committed : List Delta
  pending : List Delta
  changed : List Delta
  aborted : Bool

def connect (committed : List Delta) : Connection := ⟨committed, [], [], false⟩

def row (increments : List Delta) (key : Key) : Option Bucket :=
  increments.foldl (fun rows delta => credit rows delta.1 delta.2) (fun _ => none) key

def Connection.abort (connection : Connection) : Connection := { connection with aborted := true }

def Connection.discard (connection : Connection) : Connection := connect connection.committed

/-- Postgres: after an error every statement fails, and COMMIT rolls back. -/
def serve (rejects : Key → Option Rejection) (connection : Connection) :
    (op : Op) → Ans op × Connection
  | .upsert key bucket =>
      if connection.aborted then (.error .fault, connection)
      else match rejects key with
        | some rejection => (.error rejection, connection.abort)
        | none => (.ok (), { connection with pending := connection.pending ++ [(key, bucket)] })
  | .select key =>
      if connection.aborted then (.error .fault, connection)
      else (.ok (row (connection.committed ++ connection.pending) key), connection)
  | .insert key bucket =>
      if connection.aborted then (.error .fault, connection)
      else if (row (connection.committed ++ connection.pending) key).isSome then
        (.error .violation, connection.abort)
      else match rejects key with
        | some rejection => (.error rejection, connection.abort)
        | none => (.ok (), { connection with pending := connection.pending ++ [(key, bucket)] })
  | .change key bucket =>
      ((), { connection with changed := connection.changed ++ [(key, bucket)] })
  | .rollback => ((), connection.discard)
  | .commit =>
      if connection.aborted then
        -- the flush of changed rows fails, a bare COMMIT does not
        if connection.changed = [] then (.ok (), connection.discard)
        else (.error .fault, connection)
      else (.ok (), connect (connection.committed ++ connection.pending ++ connection.changed))

/-! ## The code -/

def ask (op : Op) : Sql (Ans op) := Prog.request op

/-- `UsageRepository.increment`. -/
def increment (key : Key) (bucket : Bucket) : Sql Unit := do
  match ← ask (.upsert key bucket) with
  | .ok () => pure ()
  | .error _ =>
      match ← ask (.select key) with
      | .error _ => pure ()
      | .ok (some _) => ask (.change key bucket)
      | .ok none =>
          match ← ask (.insert key bucket) with
          | .ok () => pure ()
          | .error .fault => .fail .fault
          | .error .violation => do
              -- a concurrent first insert has won
              ask .rollback
              match ← ask (.select key) with
              | .error rejection => .fail rejection
              | .ok (some _) => ask (.change key bucket)
              | .ok none => pure ()

def incrementAll : List Delta → Sql Unit
  | [] => pure ()
  | (key, bucket) :: rest => do
      increment key bucket
      incrementAll rest

/-- The statements of `_flush` inside its `try`. -/
def write (batch : List Delta) : Sql Unit := do
  incrementAll (aggregate batch)
  match ← ask .commit with
  | .ok () => pure ()
  | .error rejection => .fail rejection

/-- `_flush`; the answer is whether it has logged `usage.queue_flush_failed`. -/
def flush (batch : List Delta) : Sql Bool :=
  if batch = [] then pure false
  else (write batch >>= fun _ => pure false).recover fun _ => pure true

/-! ## What becomes of the transaction -/

def Connection.after (rejects : Key → Option Rejection) (connection : Connection)
    (delta : Delta) : Connection :=
  if connection.aborted then connection
  else if (rejects delta.1).isSome then connection.abort
  else { connection with pending := connection.pending ++ [delta] }

section Transaction

variable (rejects : Key → Option Rejection)

theorem drive_increment (connection : Connection) (key : Key) (bucket : Bucket) :
    ∃ log, Prog.drive (serve rejects) connection (increment key bucket) =
      ⟨.ok (), log, connection.after rejects (key, bucket)⟩ := by
  obtain ⟨committed, pending, changed, aborted⟩ := connection
  cases aborted with
  | true => exact ⟨_, rfl⟩
  | false =>
    cases rejected : rejects key <;>
      simp [increment, ask, Prog.request, bind, Prog.bind, pure, Prog.drive, serve, rejected,
        Connection.after, Connection.abort]

theorem drive_incrementAll (deltas : List Delta) (connection : Connection) :
    ∃ log, Prog.drive (serve rejects) connection (incrementAll deltas) =
      ⟨.ok (), log, deltas.foldl (Connection.after rejects) connection⟩ := by
  induction deltas generalizing connection with
  | nil => exact ⟨_, rfl⟩
  | cons delta rest ih =>
    obtain ⟨first, driven⟩ := drive_increment rejects connection delta.1 delta.2
    obtain ⟨later, rested⟩ := ih (connection.after rejects delta)
    refine ⟨first ++ later, ?_⟩
    rw [incrementAll, Prog.drive_bind_ok _ _ _ _ () (by rw [driven]), driven, rested]
    rfl

theorem foldl_after_aborted (deltas : List Delta) {connection : Connection}
    (aborted : connection.aborted = true) :
    deltas.foldl (Connection.after rejects) connection = connection := by
  induction deltas with
  | nil => rfl
  | cons delta rest ih => rw [foldl_cons, Connection.after, if_pos aborted, ih]

theorem foldl_after (committed pending deltas : List Delta) :
    deltas.foldl (Connection.after rejects) ⟨committed, pending, [], false⟩ =
      if ∀ delta ∈ deltas, rejects delta.1 = none then ⟨committed, pending ++ deltas, [], false⟩
      else ⟨committed, pending ++ deltas.takeWhile (rejects ·.1 |>.isNone), [], true⟩ := by
  induction deltas generalizing pending with
  | nil => simp
  | cons delta rest ih =>
    rw [foldl_cons, Connection.after, if_neg Bool.false_ne_true]
    cases rejected : rejects delta.1 with
    | none =>
      rw [Option.isSome_none, if_neg Bool.false_ne_true, ih]
      simp only [forall_mem_cons, rejected, true_and, append_assoc, singleton_append,
        takeWhile_cons, Option.isNone_none, if_true]
    | some rej =>
      rw [Option.isSome_some, if_pos rfl, foldl_after_aborted rejects rest rfl]
      simp [rejected, Connection.abort]

theorem drive_write (before batch : List Delta) :
    (Prog.drive (serve rejects) (connect before) (write batch)).outcome = .ok () ∧
      (Prog.drive (serve rejects) (connect before) (write batch)).final.committed =
        before ++ if ∀ delta ∈ aggregate batch, rejects delta.1 = none then aggregate batch
          else [] := by
  obtain ⟨log, driven⟩ := drive_incrementAll rejects (aggregate batch) (connect before)
  rw [write, Prog.drive_bind_ok _ _ _ _ () (by rw [driven]), driven, connect, foldl_after]
  split <;> simp [Prog.Driven.andThen, ask, Prog.request, bind, Prog.bind, pure, Prog.drive, serve,
      connect, Connection.discard]

theorem drive_flush (before batch : List Delta) :
    (Prog.drive (serve rejects) (connect before) (flush batch)).outcome = .ok false ∧
      (Prog.drive (serve rejects) (connect before) (flush batch)).final.committed =
        before ++ if ∀ delta ∈ aggregate batch, rejects delta.1 = none then aggregate batch
          else [] := by
  unfold flush
  split
  · rename_i empty
    subst empty
    simp [Prog.drive, pure, connect, aggregate]
  · obtain ⟨ret, committed⟩ := drive_write rejects before batch
    have driven : Prog.drive (serve rejects) (connect before)
        (write batch >>= fun _ => pure false) = _ :=
      Prog.drive_bind_ok _ _ _ _ () ret
    rw [Prog.drive_recover_ok _ _ _ _ false (by rw [driven]; rfl), driven]
    exact ⟨rfl, committed⟩

end Transaction

/-- The increments of the other keys are committed once, or the failure is logged. -/
def Kept (rejects : Key → Option Rejection) (before batch : List Delta) : Prop :=
  (Prog.drive (serve rejects) (connect before) (flush batch)).final.committed =
      before ++ (aggregate batch).filter (fun delta => (rejects delta.1).isNone) ∨
    (Prog.drive (serve rejects) (connect before) (flush batch)).outcome = .ok true

/-- A flush keeps the increments of the other keys just if no key of its batch is rejected, or
all are. -/
theorem others_kept_iff (rejects : Key → Option Rejection) (before batch : List Delta) :
    Kept rejects before batch ↔
      (∀ delta ∈ batch, rejects delta.1 = none) ∨ ∀ delta ∈ batch, rejects delta.1 ≠ none := by
  have keys : ∀ holds : Key → Prop,
      (∀ delta ∈ batch, holds delta.1) ↔ ∀ delta ∈ aggregate batch, holds delta.1 := by
    intro holds
    have same := fun key => mem_keys_aggregate key batch
    simp only [mem_map] at same
    constructor
    · rintro all delta mem
      obtain ⟨entry, inBatch, key⟩ := (same delta.1).mp ⟨delta, mem, rfl⟩
      exact key ▸ all entry inBatch
    · rintro all delta mem
      obtain ⟨entry, collected, key⟩ := (same delta.1).mpr ⟨delta, mem, rfl⟩
      exact key ▸ all entry collected
  obtain ⟨outcome, committed⟩ := drive_flush rejects before batch
  rw [Kept, outcome, committed, append_cancel_left_eq, keys (rejects · = none),
    keys (rejects · ≠ none)]
  split
  · rename_i accepted
    have all : (aggregate batch).filter (fun delta => (rejects delta.1).isNone) = aggregate batch :=
      filter_eq_self.mpr fun delta mem => by rw [accepted delta mem]; rfl
    exact iff_of_true (.inl all.symm) (.inl accepted)
  · rename_i rejected
    simp only [rejected, false_or, Except.ok.injEq, Bool.false_eq_true, or_false]
    rw [eq_comm, filter_eq_nil_iff]
    simp only [Option.isNone_iff_eq_none, ne_eq]

/-- Of two tenants the one that is rejected erases the other's usage. -/
theorem rejected_tenant_erases_other :
    ¬ Kept (fun key => if key.1 = ⟨1⟩ then some .violation else none) []
      [((⟨1⟩, 0), ⟨1, 1, 0, 0⟩), ((⟨2⟩, 0), ⟨1, 1, 0, 0⟩)] := by
  rw [Kept]
  decide +kernel

end Portcullis.Metering.FlushFailure
