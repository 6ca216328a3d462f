import Portcullis.Gateway.Outbound

/-!
# Health monitor

`app/gateway/health_monitor.py` and `trigger_health_probe` of `app/api/servers.py`, in any
interleaving with the registry's commands.  The outcome of a probe is applied to a row that
was read before, and the commit writes the columns in which the two differ.
-/

namespace Portcullis.Gateway.HealthMonitor

open List

open Gateway.Registry (Library Operation ServerConflict ServerTable Tables getBySlug
  perform updatedRow)
open Lib
open Lib.Transactions (ok_of_map)
open Models

/-! ## Outcomes -/

/-- `_ProbeTarget`. -/
structure ProbeTarget where
  tenantId : Uuid
  slug : String
  upstreamUrl : String
  healthCheckPath : String
  deriving DecidableEq, Repr

/-- `_apply_result`. -/
def applyResult (threshold : Nat) (now : Instant) (server : RegisteredServer)
    (healthy : Bool) : RegisteredServer :=
  let server := { server with lastHealthCheckAt := some now }
  if healthy then
    let server := { server with consecutiveHealthFailures := 0 }
    if server.status = .unhealthy then { server with status := .active } else server
  else
    let server :=
      { server with consecutiveHealthFailures := server.consecutiveHealthFailures + 1 }
    if threshold ≤ server.consecutiveHealthFailures then { server with status := .unhealthy }
    else server

/-- The outcome leaves the status of the row as it is. -/
def Neutral (threshold : Nat) (loaded : RegisteredServer) (healthy : Bool) : Prop :=
  (healthy = true → loaded.status ≠ .unhealthy) ∧ (healthy = false →
      loaded.status = .unhealthy ∨ loaded.consecutiveHealthFailures + 1 < threshold)

theorem status_applyResult (threshold : Nat) (now : Instant) (loaded : RegisteredServer)
    (healthy : Bool) :
    Neutral threshold loaded healthy ∧
        (applyResult threshold now loaded healthy).status = loaded.status ∨
      ¬ Neutral threshold loaded healthy ∧
        (applyResult threshold now loaded healthy).status ≠ loaded.status ∧
        (applyResult threshold now loaded healthy).status ≠ .disabled := by
  cases healthy with
  | true =>
    by_cases failing : loaded.status = .unhealthy
    · exact .inr (by simp [Neutral, applyResult, failing])
    · exact .inl (by simp [Neutral, applyResult, failing])
  | false =>
    by_cases reached : threshold ≤ loaded.consecutiveHealthFailures + 1
    · by_cases failing : loaded.status = .unhealthy
      · exact .inl (by simp [Neutral, applyResult, reached, failing])
      · exact .inr (by simp [Neutral, applyResult, reached, failing, Ne.symm failing])
    · exact .inl (by simp [Neutral, applyResult, reached, not_le.mp reached])

/-! ## Commits -/

/-- A column is written where the object differs from what was loaded. -/
def written {Column : Type} [DecidableEq Column] (loaded changed stored : Column) : Column :=
  if changed = loaded then stored else changed

variable (loaded changed : RegisteredServer)

/-- The `UPDATE` of a session whose object was loaded and then changed by an outcome. -/
def flush (stored : RegisteredServer) : RegisteredServer :=
  { stored with
    status := written loaded.status changed.status stored.status
    consecutiveHealthFailures := written loaded.consecutiveHealthFailures
      changed.consecutiveHealthFailures stored.consecutiveHealthFailures
    lastHealthCheckAt := written loaded.lastHealthCheckAt changed.lastHealthCheckAt
      stored.lastHealthCheckAt }

def flushRow (stored : RegisteredServer) : RegisteredServer :=
  if stored.id = loaded.id then flush loaded changed stored else stored

theorem identity_flushRow (stored : RegisteredServer) :
    (flushRow loaded changed stored).id = stored.id ∧
      (flushRow loaded changed stored).tenantId = stored.tenantId ∧
      (flushRow loaded changed stored).slug = stored.slug := by
  unfold flushRow
  split <;> exact ⟨rfl, rfl, rfl⟩

theorem conflict_of_flushRow (left right : RegisteredServer)
    (conflict : ServerConflict (flushRow loaded changed left) (flushRow loaded changed right)) :
    ServerConflict left right := by
  obtain ⟨leftId, leftTenant, leftSlug⟩ := identity_flushRow loaded changed left
  obtain ⟨rightId, rightTenant, rightSlug⟩ := identity_flushRow loaded changed right
  unfold ServerConflict at conflict ⊢
  rwa [leftId, leftTenant, leftSlug, rightId, rightTenant, rightSlug] at conflict

def flushTable (servers : ServerTable) : ServerTable :=
  servers.update (flushRow loaded changed) (conflict_of_flushRow loaded changed)

/-! ## Programs -/

inductive Op where
  | selectTargets
  | get (url : List Char)
  | getBySlug (tenantId : Uuid) (slug : String)
  | now
  /-- `_apply_result` at an instant and the commit that follows it. -/
  | persist (loaded : RegisteredServer) (healthy : Bool) (now : Instant)
  deriving DecidableEq

/-- The status of a response, if there was one, and whether a commit matched its row. -/
def Ans : Op → Type
  | .selectTargets => List ProbeTarget
  | .get _ => Option Nat
  | .getBySlug _ _ => Option RegisteredServer
  | .now => Instant
  | .persist _ _ _ => Bool

inductive Failure where
  | notFound (detail : String)
  | staleData
  deriving DecidableEq, Repr

abbrev Monitor := Prog Op Ans Failure

def request (op : Op) : Monitor (Ans op) := Prog.request op

variable (threshold : Nat)

def checkUrl (upstreamUrl healthCheckPath : String) : Monitor Bool := do
  let response : Option Nat ← request (.get (Outbound.checkUrl upstreamUrl healthCheckPath))
  pure (response.any fun status => status < 400)

def persist (server : RegisteredServer) (healthy : Bool) : Monitor ServerStatus := do
  let now : Instant ← request .now
  let matched : Bool ← request (.persist server healthy now)
  if matched then pure (applyResult threshold now server healthy).status
  else .fail .staleData

/-- The endpoint has the monitor probe the row that it loaded, and commits. -/
def triggerHealthProbe (tenantId : Uuid) (slug : String) : Monitor ServerStatus := do
  let found : Option RegisteredServer ← request (.getBySlug tenantId slug)
  match found with
  | none => .fail (.notFound ("Server '" ++ slug ++ "' not found"))
  | some server => do
    let healthy ← checkUrl server.upstreamUrl server.healthCheckPath
    persist threshold server healthy

/-- `_probe_one` of each target; the probes touch no shared state. -/
def probeAll : List ProbeTarget → Monitor (List (ProbeTarget × Bool))
  | [] => pure []
  | target :: rest => do
    let healthy ← checkUrl target.upstreamUrl target.healthCheckPath
    let results ← probeAll rest
    pure ((target, healthy) :: results)

/-- One bad row must not fail the pass. -/
def persistOne (target : ProbeTarget) (healthy : Bool) : Monitor Unit :=
  Prog.recover
    (do
      let found : Option RegisteredServer ← request (.getBySlug target.tenantId target.slug)
      match found with
      | none => pure ()
      | some server => do
        let _ ← persist threshold server healthy
        pure ())
    fun _ => pure ()

def persistAll : List (ProbeTarget × Bool) → Monitor Unit
  | [] => pure ()
  | (target, healthy) :: rest => do
    persistOne threshold target healthy
    persistAll rest

def runOnce : Monitor Unit := do
  let targets : List ProbeTarget ← request .selectTargets
  let results ← probeAll targets
  persistAll threshold results

/-! ## Interleavings -/

/-- A scheduled pass of some replica, or a manual probe. -/
inductive Job where
  | pass
  | trigger (tenantId : Uuid) (slug : String)

def Job.program : Job → Monitor (Option ServerStatus)
  | .pass => do
    runOnce threshold
    pure none
  | .trigger tenantId slug => do
    let status ← triggerHealthProbe threshold tenantId slug
    pure (some status)

/-- The status of a response, if one came, and the time. -/
structure Choice where
  response : Option Nat
  now : Instant

def targets (servers : ServerTable) : List ProbeTarget :=
  (servers.rows.filter fun server => server.status = .active || server.status = .unhealthy).map
    fun server => ⟨server.tenantId, server.slug, server.upstreamUrl, server.healthCheckPath⟩

def serve (choice : Choice) (registry : Tables) : (op : Op) → Ans op × Tables
  | .selectTargets => (targets registry.servers, registry)
  | .get _ => (choice.response, registry)
  | .getBySlug tenantId slug => (getBySlug registry.servers tenantId slug, registry)
  | .now => (choice.now, registry)
  | .persist loaded healthy now =>
    let changed := applyResult threshold now loaded healthy
    -- no statement is sent for an object without a change
    (changed = loaded || registry.servers.rows.any fun server => server.id = loaded.id,
      { registry with servers := flushTable loaded changed registry.servers })

abbrev World := Pool Tables Op Ans Failure (Option ServerStatus)

abbrev Move := Turn Choice Operation

/-- Administrators' commands are transactions of their own between the steps of the jobs. -/
def rules (library : Library) : PoolRules Tables Op Ans Choice Operation where
  serve := serve threshold
  drift operation registry := Transactions.commit (perform library) registry operation

def start (registry : Tables) (jobs : Nat → Job) : World where
  shared := registry
  programs thread := (jobs thread).program threshold
  histories _ := []

/-! ## Disabled servers -/

def Disabled (registry : Tables) (id : Uuid) : Prop :=
  ∃ server ∈ registry.servers.rows, server.id = id ∧ server.status = .disabled

instance (registry : Tables) (id : Uuid) : Decidable (Disabled registry id) :=
  inferInstanceAs (Decidable (∃ server ∈ registry.servers.rows, _))

/-- An administrator sets the status of the server, or deletes it. -/
def Administers (registry : Tables) (id : Uuid) : Move → Prop
  | .drift (.update _ tenantId slug command) =>
    command.status.isSome = true ∧
      ∃ server, getBySlug registry.servers tenantId slug = some server ∧ server.id = id
  | .drift (.delete tenantId slug) =>
    ∃ server, getBySlug registry.servers tenantId slug = some server ∧ server.id = id
  | _ => False

def KeepsDisabled (library : Library) (world : World) (turn : Move) : Prop :=
  ∀ id, Disabled world.shared id → Disabled (world.step (rules threshold library) turn).shared id ∨
      Administers world.shared id turn

/-- An outcome that is persisted on a disabled server leaves the status that it met when
the row was loaded. -/
def Spares (world : World) : Move → Prop
  | .drift _ => True
  | .move thread _ => ∀ loaded healthy now,
      world.asking thread = some (.persist loaded healthy now) →
      Disabled world.shared loaded.id → Neutral threshold loaded healthy

/-! ## Circuit breaker -/

/-- The outcomes for a server, persisted by one pass after the other. -/
def applied (target : ProbeTarget) (registry : Tables) (outcomes : List (Bool × Instant)) :
    Tables :=
  outcomes.foldl (fun registry outcome => (Prog.drive (serve threshold ⟨none, outcome.2⟩) registry
    (persistOne threshold target outcome.1)).final) registry

def trailingFailures (outcomes : List (Bool × Instant)) : Nat :=
  (outcomes.reverse.takeWhile fun outcome => !outcome.1).length

theorem trailingFailures_concat (outcomes : List (Bool × Instant)) (healthy : Bool)
    (now : Instant) :
    trailingFailures (outcomes ++ [(healthy, now)]) =
      if healthy then 0 else trailingFailures outcomes + 1 := by
  cases healthy <;> simp [trailingFailures]

theorem getBySlug_flushTable (servers : ServerTable) (tenantId : Uuid) (slug : String) :
    getBySlug (flushTable loaded changed servers) tenantId slug =
      (getBySlug servers tenantId slug).map (flushRow loaded changed) := by
  unfold getBySlug flushTable Table.update
  rw [List.find?_map]
  congr 2
  funext stored
  simp [(identity_flushRow loaded changed stored).2]

theorem flushRow_applyResult (now : Instant) (healthy : Bool) :
    flushRow loaded (applyResult threshold now loaded healthy) loaded =
      applyResult threshold now loaded healthy := by
  have differs : ∀ {Column : Type} [DecidableEq Column] (loaded changed : Column),
      written loaded changed loaded = changed := by
    intro Column _ loaded changed
    unfold written
    split
    · exact Eq.symm ‹_›
    · rfl
  rw [flushRow, if_pos rfl, flush, differs, differs, differs]
  unfold applyResult
  dsimp only
  split_ifs <;> rfl

theorem getBySlug_persistOne {target : ProbeTarget} {registry : Tables} (healthy : Bool)
    (now : Instant) (found : getBySlug registry.servers target.tenantId target.slug = some loaded) :
    getBySlug (Prog.drive (serve threshold ⟨none, now⟩) registry
        (persistOne threshold target healthy)).final.servers target.tenantId target.slug =
      some (applyResult threshold now loaded healthy) := by
  have final : (Prog.drive (serve threshold ⟨none, now⟩) registry
      (persistOne threshold target healthy)).final.servers =
        flushTable loaded (applyResult threshold now loaded healthy) registry.servers := by
    have present : (registry.servers.rows.any fun server => server.id = loaded.id) = true :=
      any_eq_true.mpr ⟨loaded, mem_of_find?_eq_some found, decide_eq_true rfl⟩
    simp only [persistOne, request, Prog.request, bind, Prog.bind, Prog.recover, Prog.drive, serve,
      found, persist, pure, present, Bool.or_true, if_true]
  rw [final, getBySlug_flushTable, found, Option.map_some, flushRow_applyResult]

/-- The failure count is the length of the trailing run of failed probes, and the server is
unhealthy just while that run has reached the threshold. -/
theorem breaker_follows_trailing_failures (threshold : Nat) (positive : 1 ≤ threshold)
    (registry : Tables) (target : ProbeTarget) (server : RegisteredServer)
    (found : getBySlug registry.servers target.tenantId target.slug = some server)
    (active : server.status = .active) (fresh : server.consecutiveHealthFailures = 0)
    (outcomes : List (Bool × Instant)) :
    ∃ after, getBySlug (applied threshold target registry outcomes).servers target.tenantId
        target.slug = some after ∧
      after.consecutiveHealthFailures = trailingFailures outcomes ∧
      after.status = if threshold ≤ trailingFailures outcomes then .unhealthy else .active := by
  induction outcomes using List.reverseRecOn with
  | nil => exact ⟨server, found, fresh, by simp [trailingFailures, active, Nat.ne_of_gt positive]⟩
  | append_singleton outcomes outcome ih =>
    obtain ⟨before, stored, counted, status⟩ := ih
    obtain ⟨healthy, now⟩ := outcome
    refine ⟨applyResult threshold now before healthy, ?_, ?_⟩
    · rw [applied, foldl_concat]
      exact getBySlug_persistOne before threshold healthy now stored
    rw [trailingFailures_concat, ← counted] at *
    cases healthy with
    | true =>
      -- only an unhealthy server recovers, and the server is active otherwise
      by_cases failing : before.status = .unhealthy
      · simp [applyResult, failing, Nat.ne_of_gt positive]
      · have kept : before.status = .active := by
          rw [status, if_neg fun reached => failing (status.trans (if_pos reached))]
        simp [applyResult, kept, Nat.ne_of_gt positive]
    | false =>
      by_cases reached : threshold ≤ before.consecutiveHealthFailures + 1
      · simp [applyResult, reached]
      · have kept : before.status = .active := by
          rw [status, if_neg (by omega)]
        simp [applyResult, reached, kept]

def activeTables : Tables :=
  ⟨⟨[Outbound.sampleRow Outbound.healthPath], pairwise_singleton _ _⟩, [], []⟩

theorem breaker_follows_trailing_failures_sample :
    ∃ after, getBySlug (applied 2 ⟨sampleSubject.tenantId, "github-mcp", "", ""⟩ activeTables
        [(true, 0), (false, 1), (false, 2)]).servers sampleSubject.tenantId "github-mcp" =
          some after ∧
      after.consecutiveHealthFailures = 2 ∧ after.status = .unhealthy :=
  breaker_follows_trailing_failures 2 (by decide) activeTables
    ⟨sampleSubject.tenantId, "github-mcp", "", ""⟩ _ rfl rfl rfl _

variable {threshold} {registry : Tables}

theorem disabled_flushTable_iff {loaded changed : RegisteredServer} {id : Uuid}
    (disabled : Disabled registry id) :
    Disabled { registry with servers := flushTable loaded changed registry.servers } id ↔
      (id = loaded.id → changed.status = loaded.status ∨ changed.status = .disabled) := by
  obtain ⟨server, mem, rfl, off⟩ := disabled
  have status : (flushRow loaded changed server).status = .disabled ↔
      (server.id = loaded.id → changed.status = loaded.status ∨ changed.status = .disabled) := by
    by_cases same : server.id = loaded.id
    · by_cases kept : changed.status = loaded.status
      · simp [flushRow, flush, written, same, kept, off]
      · simp [flushRow, flush, written, same, kept]
    · simp [flushRow, same, off]
  rw [← status]
  constructor
  · rintro ⟨flushed, flushedIn, sameId, flushedOff⟩
    obtain ⟨other, otherIn, rfl⟩ := mem_map.mp flushedIn
    rw [(identity_flushRow loaded changed other).1] at sameId
    rw [← registry.servers.eq_of_conflicts otherIn mem (.inl sameId)]
    exact flushedOff
  · intro flushedOff
    exact ⟨_, mem_map_of_mem mem, (identity_flushRow loaded changed server).1, flushedOff⟩

theorem keepsDisabled_persist_iff (choice : Choice) (loaded : RegisteredServer)
    (healthy : Bool) (now : Instant) :
    (∀ id, Disabled registry id →
        Disabled (serve threshold choice registry (.persist loaded healthy now)).2 id) ↔
      (Disabled registry loaded.id → Neutral threshold loaded healthy) := by
  constructor
  · intro kept disabled
    rcases status_applyResult threshold now loaded healthy with
      ⟨neutral, _⟩ | ⟨_, moved, enabled⟩
    · exact neutral
    · exact absurd ((disabled_flushTable_iff disabled).mp (kept _ disabled) rfl)
        (not_or.mpr ⟨moved, enabled⟩)
  · intro spares id disabled
    refine (disabled_flushTable_iff disabled).mpr fun same => .inl ?_
    subst same
    rcases status_applyResult threshold now loaded healthy with ⟨_, kept⟩ | ⟨harmful, _⟩
    · exact kept
    · exact absurd (spares disabled) harmful

theorem disabled_serve {choice : Choice} {op : Op}
    (reads : ∀ loaded healthy now, op ≠ .persist loaded healthy now) {id : Uuid}
    (disabled : Disabled registry id) : Disabled (serve threshold choice registry op).2 id := by
  cases op with
  | persist loaded healthy now => exact absurd rfl (reads loaded healthy now)
  | _ => exact disabled

/-! ## Administrators -/

theorem disabled_perform {library : Library} {operation : Operation} {after : Tables}
    (did : perform library registry operation = .ok after) {id : Uuid}
    (disabled : Disabled registry id) :
    Disabled after id ∨ Administers registry id (.drift operation) := by
  obtain ⟨server, mem, rfl, off⟩ := disabled
  cases operation with
  | create settings license now newId tenantId command =>
    obtain ⟨⟨_, created⟩, hok, rfl⟩ := ok_of_map did
    refine .inl ⟨server, ?_, rfl, off⟩
    rw [(Registry.create_inv hok).rows]
    exact mem_append_left _ mem
  | update settings tenantId slug command =>
    obtain ⟨⟨_, updated⟩, hok, rfl⟩ := ok_of_map did
    obtain ⟨old, updates, rfl, replaces⟩ := Registry.update_inv hok
    by_cases same : server.id = old.id
    · cases given : command.status with
      | some status => exact .inr ⟨by rw [given]; rfl, old, updates.found, same.symm⟩
      | none =>
        obtain rfl := registry.servers.eq_of_conflicts mem
          (mem_of_find?_eq_some updates.found) (.inl same)
        refine .inl ⟨updatedRow server command, replaces.mem_iff.mpr (.inr rfl), rfl, ?_⟩
        simp only [updatedRow, given, Option.getD_none, off]
    · exact .inl ⟨server, replaces.mem_iff.mpr (.inl ⟨mem, same⟩), rfl, off⟩
  | delete tenantId slug =>
    obtain ⟨old, deletes⟩ := Registry.delete_inv did
    by_cases same : server.id = old.id
    · exact .inr ⟨old, deletes.found, same.symm⟩
    · refine .inl ⟨server, ?_, rfl, off⟩
      rw [deletes.rows, mem_filter]
      exact ⟨mem, by simpa using same⟩

theorem keepsDisabled_iff (library : Library) (world : World) (turn : Move) :
    KeepsDisabled threshold library world turn ↔ Spares threshold world turn := by
  cases turn with
  | drift operation =>
    refine ⟨fun _ => trivial, fun _ id disabled => ?_⟩
    exact Transactions.commit_cases
      (fun after => Disabled after id ∨ Administers world.shared id (.drift operation))
      (fun _ _ => .inl disabled) (fun _ did => disabled_perform did disabled)
  | move thread choice =>
    have unadministered : KeepsDisabled threshold library world (.move thread choice) ↔
        ∀ id, Disabled world.shared id → Disabled
          (world.step (rules threshold library) (.move thread choice)).shared id :=
      forall₂_congr fun _ _ => or_iff_left not_false
    rw [unadministered, Pool.shared_step_move]
    unfold Spares
    dsimp only
    cases asked : world.asking thread with
    | none => exact ⟨fun _ _ _ _ asks => (nomatch asks), fun _ _ disabled => disabled⟩
    | some op =>
      by_cases reads : ∀ loaded healthy now, op ≠ .persist loaded healthy now
      · exact ⟨fun _ loaded healthy now asks => absurd (Option.some.inj asks) (reads _ _ _),
          fun _ id disabled => disabled_serve reads disabled⟩
      push Not at reads
      obtain ⟨loaded, healthy, now, rfl⟩ := reads
      refine (keepsDisabled_persist_iff choice loaded healthy now).trans ?_
      constructor
      · intro spares loaded' healthy' now' asks
        obtain ⟨rfl, rfl, rfl⟩ := Op.persist.inj (Option.some.inj asks)
        exact spares
      · exact fun spares => spares loaded healthy now rfl

/-- In every interleaving, a disabled server stays disabled up to an administrator's turn
just if no outcome that moves a status is persisted on it. -/
theorem disabled_until_administered_iff (library : Library) (threshold : Nat)
    (registry : Tables) (jobs : Nat → Job) (turns : List Move) :
    (∀ first turn rest, turns = first ++ turn :: rest →
        ∀ id, Disabled ((start threshold registry jobs).run (rules threshold library)
            first).shared id →
          Disabled ((start threshold registry jobs).run (rules threshold library)
              (first ++ [turn])).shared id ∨
            Administers ((start threshold registry jobs).run (rules threshold library)
              first).shared id turn) ↔
      Pool.Along (rules threshold library) (Spares threshold) (start threshold registry jobs)
        turns := by
  rw [← Pool.along_congr (rules threshold library) (keepsDisabled_iff library),
    ← Pool.forall_turns_iff_along]
  simp only [Pool.run_append]
  rfl

def disabledSample : RegisteredServer :=
  { Outbound.sampleRow Outbound.healthPath with
    status := .disabled
    consecutiveHealthFailures := 2 }

def disabledTables : Tables := ⟨⟨[disabledSample], pairwise_singleton _ _⟩, [], []⟩

def probedWorld : World :=
  start 3 disabledTables fun _ => .trigger disabledSample.tenantId disabledSample.slug

def refused : Move := .move 0 ⟨none, 0⟩

/-- A manual probe that fails makes a disabled server unhealthy, under the default
threshold. -/
theorem failed_probe_enables :
    ¬ ∀ first turn rest, [refused, refused, refused, refused] = first ++ turn :: rest →
      ∀ id, Disabled (probedWorld.run (rules 3 Outbound.sampleLibrary) first).shared id →
        Disabled (probedWorld.run (rules 3 Outbound.sampleLibrary) (first ++ [turn])).shared id ∨
          Administers (probedWorld.run (rules 3 Outbound.sampleLibrary) first).shared id turn := by
  intro always
  have kept := always [refused, refused, refused] refused [] rfl disabledSample.id
    (by decide +kernel)
  rcases kept with disabled | administered
  · exact absurd disabled (by decide +kernel)
  · exact administered

end Portcullis.Gateway.HealthMonitor
