import Portcullis.Audit.Serial

/-!
# Concurrent appends to one log

Each writer reads the clock, takes the tenant's advisory lock, reads the newest hash,
inserts its row and commits, which releases the lock.  The lock orders the links, the
timestamps order the verification; the two agree as long as every writer gets the lock
with a timestamp later than all committed rows.
-/

namespace Portcullis.Audit.Concurrent

open Audit.Serial Lib Lib.HashChain Models Repositories.Audit

/-- How far one call of `create` and its commit have come. -/
inductive Phase where
  | idle
  | timed (now : Instant)
  | locked (now : Instant)
  | linked (now : Instant) (prevHash : Option String)
  | inserted (row : AuditLog)
  | committed
  deriving DecidableEq

/-- Committed rows, the holder of the advisory lock, the last clock value that was read
and the phases of the writers. -/
structure World where
  table : Table
  lock : Option Nat
  clock : Instant
  phases : Nat → Phase

def World.start (table : Table) (clock : Instant) : World :=
  ⟨table, none, clock, fun _ => .idle⟩

def World.enter (world : World) (writer : Nat) (phase : Phase) : World :=
  { world with phases := Function.update world.phases writer phase }

inductive Action where
  | readClock (writer : Nat) (now : Instant)
  | acquire (writer : Nat)
  | readNewest (writer : Nat)
  | insert (writer : Nat)
  | commit (writer : Nat)

section Steps

variable (hash : HashPayload → String) (tenant : Uuid) (event : Nat → AuditEvent) (id : Nat → Uuid)

/-- One step of one writer; `none` when it cannot be taken.  The clock strictly
increases, and a writer that wants the lock waits until it is free. -/
def step (world : World) : Action → Option World
  | .readClock writer now =>
    match world.phases writer with
    | .idle =>
      if world.clock < now then
        some ({ world with clock := now }.enter writer (.timed now))
      else none
    | _ => none
  | .acquire writer =>
    match world.phases writer, world.lock with
    | .timed now, none => some ({ world with lock := some writer }.enter writer (.locked now))
    | _, _ => none
  | .readNewest writer =>
    match world.phases writer with
    | .locked now =>
      some (world.enter writer (.linked now (newestHash (some tenant) world.table)))
    | _ => none
  | .insert writer =>
    match world.phases writer with
    | .linked now prevHash =>
      some (world.enter writer (.inserted (newRow hash (event writer) (id writer) now prevHash)))
    | _ => none
  | .commit writer =>
    match world.phases writer with
    | .inserted row =>
      some ({ world with table := world.table ++ [row], lock := none }.enter writer .committed)
    | _ => none

def run : World → List Action → Option World
  | world, [] => some world
  | world, action :: rest =>
    match step hash tenant event id world action with
    | none => none
    | some next => run next rest

/-- A writer that gets the lock has a timestamp later than every committed row. -/
def inOrder (world : World) : Action → Bool
  | .acquire writer =>
    match world.phases writer with
    | .timed now =>
      (rowsOf (some tenant) world.table).all fun log => decide (log.createdAt < now)
    | _ => true
  | _ => true

def runInOrder : World → List Action → Bool
  | _, [] => true
  | world, action :: rest =>
    inOrder tenant world action &&
      match step hash tenant event id world action with
      | none => true
      | some next => runInOrder next rest

/-! ## What holds between the steps -/

def Later (table : Table) (now : Instant) : Prop :=
  ∀ log ∈ rowsOf (some tenant) table, log.createdAt < now

/-- The writer with the lock has a later timestamp and, once it has read it, the newest
hash. -/
def PhaseSound (world : World) (writer : Nat) : Prop :=
  match world.phases writer with
  | .locked now => world.lock = some writer ∧ Later tenant world.table now
  | .linked now prevHash =>
    world.lock = some writer ∧ prevHash = newestHash (some tenant) world.table ∧
      Later tenant world.table now
  | .inserted row =>
    world.lock = some writer ∧ ∃ now, Later tenant world.table now ∧
      row = newRow hash (event writer) (id writer) now (newestHash (some tenant) world.table)
  | _ => True

structure Sound (world : World) : Prop where
  chained : Chained hash (some tenant) world.table
  phases : ∀ writer, PhaseSound hash tenant event id world writer

theorem Sound.start (table : Table) (clock : Instant) (chained : Chained hash (some tenant) table) :
    Sound hash tenant event id (World.start table clock) :=
  ⟨chained, fun _ => trivial⟩

theorem phaseSound_enter_other (world : World) (writer other : Nat) (phase : Phase)
    (ne : other ≠ writer) (sound : PhaseSound hash tenant event id world other) :
    PhaseSound hash tenant event id (world.enter writer phase) other := by
  have same : (world.enter writer phase).phases other = world.phases other :=
    Function.update_of_ne ne _ _
  unfold PhaseSound at sound ⊢
  rw [same]
  exact sound

theorem phaseSound_of_no_lock (world after : World) (writer : Nat)
    (samePhase : after.phases writer = world.phases writer)
    (sound : PhaseSound hash tenant event id world writer)
    (noLock : world.lock ≠ some writer) :
    PhaseSound hash tenant event id after writer := by
  unfold PhaseSound at sound ⊢
  rw [samePhase]
  cases phase : world.phases writer with
  | locked now =>
    rw [phase] at sound
    exact absurd sound.1 noLock
  | linked now prevHash =>
    rw [phase] at sound
    exact absurd sound.1 noLock
  | inserted row =>
    rw [phase] at sound
    exact absurd sound.1 noLock
  | idle => trivial
  | timed now => trivial
  | committed => trivial

theorem sound_enter (world : World) (writer : Nat) (phase : Phase)
    (sound : Sound hash tenant event id world)
    (own : PhaseSound hash tenant event id (world.enter writer phase) writer) :
    Sound hash tenant event id (world.enter writer phase) := by
  refine ⟨sound.chained, ?_⟩
  intro other
  by_cases same : other = writer
  · rw [same]
    exact own
  · exact phaseSound_enter_other hash tenant event id world writer other phase same
      (sound.phases other)

theorem phases_enter_self (world : World) (writer : Nat) (phase : Phase) :
    (world.enter writer phase).phases writer = phase :=
  Function.update_self _ _ _

variable {hash tenant event id}

variable {world : World}

theorem Sound.readClock (sound : Sound hash tenant event id world) (writer : Nat) (now : Instant) :
    Sound hash tenant event id ({ world with clock := now }.enter writer (.timed now)) := by
  have moved : Sound hash tenant event id { world with clock := now } :=
    ⟨sound.chained, sound.phases⟩
  refine sound_enter hash tenant event id _ writer _ moved ?_
  unfold PhaseSound
  rw [phases_enter_self]
  trivial

theorem Sound.acquire (sound : Sound hash tenant event id world) (writer : Nat) (now : Instant)
    (free : world.lock = none) (later : Later tenant world.table now) :
    Sound hash tenant event id ({ world with lock := some writer }.enter writer (.locked now)) := by
  have taken : Sound hash tenant event id { world with lock := some writer } := by
    refine ⟨sound.chained, ?_⟩
    intro other
    exact phaseSound_of_no_lock hash tenant event id world _ other rfl (sound.phases other)
      (by rw [free]; exact (Option.some_ne_none other).symm)
  refine sound_enter hash tenant event id _ writer _ taken ?_
  unfold PhaseSound
  rw [phases_enter_self]
  exact ⟨rfl, later⟩

theorem Sound.readNewest (sound : Sound hash tenant event id world) (writer : Nat) (now : Instant)
    (phase : world.phases writer = .locked now) :
    Sound hash tenant event id
      (world.enter writer (.linked now (newestHash (some tenant) world.table))) := by
  have own := sound.phases writer
  unfold PhaseSound at own
  rw [phase] at own
  refine sound_enter hash tenant event id _ writer _ sound ?_
  unfold PhaseSound
  rw [phases_enter_self]
  exact ⟨own.1, rfl, own.2⟩

theorem Sound.insert (sound : Sound hash tenant event id world) (writer : Nat) (now : Instant)
    (prevHash : Option String) (phase : world.phases writer = .linked now prevHash) :
    Sound hash tenant event id (world.enter writer
      (.inserted (newRow hash (event writer) (id writer) now prevHash))) := by
  have own := sound.phases writer
  unfold PhaseSound at own
  rw [phase] at own
  obtain ⟨holds, rfl, later⟩ := own
  refine sound_enter hash tenant event id _ writer _ sound ?_
  unfold PhaseSound
  rw [phases_enter_self]
  exact ⟨holds, now, later, rfl⟩

theorem Sound.commit (sound : Sound hash tenant event id world)
    (sameTenant : ∀ writer, (event writer).tenantId = some tenant) (writer : Nat) (row : AuditLog)
    (phase : world.phases writer = .inserted row) :
    Sound hash tenant event id
      ({ world with table := world.table ++ [row], lock := none }.enter writer .committed) := by
  have own := sound.phases writer
  unfold PhaseSound at own
  rw [phase] at own
  obtain ⟨holds, now, later, rfl⟩ := own
  refine ⟨?_, ?_⟩
  · exact sound.chained.concat (event writer) (id writer) now (sameTenant writer) later
  intro other
  by_cases same : other = writer
  · rw [same]
    unfold PhaseSound
    rw [phases_enter_self]
    trivial
  · apply phaseSound_enter_other hash tenant event id _ writer other _ same
    refine phaseSound_of_no_lock hash tenant event id world _ other rfl (sound.phases other) ?_
    rw [holds]
    exact fun held => same (Option.some.inj held).symm

theorem Sound.step {world next : World} (sound : Sound hash tenant event id world)
    (sameTenant : ∀ writer, (event writer).tenantId = some tenant) (action : Action)
    (ordered : inOrder tenant world action = true)
    (stepped : Concurrent.step hash tenant event id world action = some next) :
    Sound hash tenant event id next := by
  cases action with
  | readClock writer now =>
    unfold Concurrent.step at stepped
    dsimp only at stepped
    split at stepped
    · split at stepped
      · cases stepped
        exact sound.readClock writer now
      · cases stepped
    · cases stepped
  | acquire writer =>
    unfold Concurrent.step at stepped
    dsimp only at stepped
    split at stepped
    · rename_i now phase free
      cases stepped
      rw [inOrder, phase] at ordered
      refine sound.acquire writer now free ?_
      intro log mem
      exact of_decide_eq_true (List.all_eq_true.mp ordered log mem)
    · cases stepped
  | readNewest writer =>
    unfold Concurrent.step at stepped
    dsimp only at stepped
    split at stepped
    · rename_i now phase
      cases stepped
      exact sound.readNewest writer now phase
    · cases stepped
  | insert writer =>
    unfold Concurrent.step at stepped
    dsimp only at stepped
    split at stepped
    · rename_i now prevHash phase
      cases stepped
      exact sound.insert writer now prevHash phase
    · cases stepped
  | commit writer =>
    unfold Concurrent.step at stepped
    dsimp only at stepped
    split at stepped
    · rename_i row phase
      cases stepped
      exact sound.commit sameTenant writer row phase
    · cases stepped

theorem Sound.run (sameTenant : ∀ writer, (event writer).tenantId = some tenant)
    (actions : List Action) : ∀ world final : World, Sound hash tenant event id world →
      runInOrder hash tenant event id world actions = true →
        Concurrent.run hash tenant event id world actions = some final →
          Sound hash tenant event id final := by
  induction actions with
  | nil =>
    intro world final sound _ ran
    cases ran
    exact sound
  | cons action rest ih =>
    intro world final sound ordered ran
    rw [runInOrder, Bool.and_eq_true] at ordered
    rw [Concurrent.run] at ran
    cases stepped : Concurrent.step hash tenant event id world action with
    | none =>
      rw [stepped] at ran
      cases ran
    | some next =>
      rw [stepped] at ran
      rw [stepped] at ordered
      exact ih next final (sound.step sameTenant action ordered.1 stepped) ordered.2 ran

end Steps

def twoEvents (writer : Nat) : AuditEvent :=
  sampleEvent (some ⟨7#128⟩) (if writer = 0 then "allowed" else "denied")

def twoIds (writer : Nat) : Uuid := ⟨BitVec.ofNat 128 (writer + 1)⟩

def criticalSection (writer : Nat) : List Action :=
  [.acquire writer, .readNewest writer, .insert writer, .commit writer]

def twoWriters (first second : Nat) : List Action :=
  [.readClock 0 1, .readClock 1 2] ++ criticalSection first ++ criticalSection second

end Portcullis.Audit.Concurrent
