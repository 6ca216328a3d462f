import Portcullis.Gateway.HealthMonitor
import Portcullis.Gateway.RegistrySafety

/-!
# Probed endpoints

A pass of the health monitor applies an outcome by slug, some time after it read the URL that
it probed.  In the meantime administrators may edit, rename or replace the server.
-/

namespace Portcullis.Gateway.HealthMonitor

open List

open Gateway.Registry (Adds Library Operation Tables getBySlug mem_of_commit perform
  updatedRow)
open Lib Models
open Lib.Transactions (commit)

abbrev Events := Prog.Trace Op Ans

def ProbeTarget.url (target : ProbeTarget) : List Char :=
  Outbound.checkUrl target.upstreamUrl target.healthCheckPath

def endpoint (server : RegisteredServer) : List Char :=
  Outbound.checkUrl server.upstreamUrl server.healthCheckPath

def Selected (history : Events) (target : ProbeTarget) : Prop :=
  ∃ targets : List ProbeTarget, ⟨.selectTargets, targets⟩ ∈ history ∧ target ∈ targets

def Loaded (history : Events) (tenantId : Uuid) (slug : String) (server : RegisteredServer) :
    Prop :=
  (⟨.getBySlug tenantId slug, some server⟩ : Event Op Ans) ∈ history

/-- The outcome for a row is that of a request to the URL of a target, under whose slug the
row was found. -/
structure Probed (history : Events) (loaded : RegisteredServer) (healthy : Bool)
    (target : ProbeTarget) : Prop where
  selected : Selected history target
  asked : ∃ response : Option Nat, ⟨.get target.url, response⟩ ∈ history ∧
    healthy = response.any fun status => status < 400
  found : Loaded history target.tenantId target.slug loaded

/-- A change of status or failure count comes from a probe of the endpoint that the row has. -/
def HitsProbed (library : Library) (threshold : Nat) (world : World) : Move → Prop
  | .drift _ => True
  | .move thread choice => ∀ old ∈ world.shared.servers.rows,
      ∀ new ∈ (world.step (rules threshold library) (.move thread choice)).shared.servers.rows,
      new.id = old.id →
      new.status ≠ old.status ∨ new.consecutiveHealthFailures ≠ old.consecutiveHealthFailures →
      ∃ loaded healthy now target, world.asking thread = some (.persist loaded healthy now) ∧
        Probed (world.histories thread) loaded healthy target ∧ target.url = endpoint new

/-! ## What a pass applies -/

def permitted (_ : Nat) (history : Events) : Op → Prop
  | .persist loaded healthy _ => ∃ target, Probed history loaded healthy target
  | _ => True

/-- Outcomes of selected targets. -/
def Settled (history : Events) (results : List (ProbeTarget × Bool)) : Prop :=
  ∀ result ∈ results, Selected history result.1 ∧
    ∃ response : Option Nat, ⟨.get result.1.url, response⟩ ∈ history ∧
      result.2 = response.any fun status => status < 400

variable {history later : Events}

theorem Selected.mono {target : ProbeTarget} (sel : Selected history target)
    (grown : history <+: later) : Selected later target := by
  obtain ⟨targets, seen, listed⟩ := sel
  exact ⟨targets, grown.subset seen, listed⟩

theorem Settled.mono {results : List (ProbeTarget × Bool)} (settled : Settled history results)
    (grown : history <+: later) : Settled later results := by
  intro result mem
  obtain ⟨sel, resp, asked, outcome⟩ := settled result mem
  exact ⟨sel.mono grown, resp, grown.subset asked, outcome⟩

theorem probeAll_safe {thread : Nat} (targets : List ProbeTarget)
    (sel : ∀ target ∈ targets, Selected history target) :
    Prog.Safe (permitted thread) Settled (fun _ _ => True) history (probeAll targets) := by
  induction targets generalizing history with
  | nil => exact fun _ mem => (not_mem_nil mem).elim
  | cons target rest ih =>
    refine ⟨trivial, fun resp => ?_⟩
    have listed : ∀ other ∈ target :: rest,
        Selected (history ++ [⟨.get target.url, resp⟩]) other :=
      fun other mem => (sel other mem).mono (prefix_append _ _)
    apply Prog.Safe.bind (ih fun other mem => listed other (mem_cons_of_mem _ mem))
    intro later results grown settled result mem
    rcases mem_cons.mp mem with rfl | inside
    · exact ⟨(listed target mem_cons_self).mono grown, resp, grown.subset (by simp), rfl⟩
    · exact settled result inside

theorem persistAll_safe {thread : Nat} (threshold : Nat) (results : List (ProbeTarget × Bool))
    (settled : Settled history results) :
    Prog.Safe (permitted thread) (fun _ _ => True) (fun _ _ => True) history
      (persistAll threshold results) := by
  induction results generalizing history with
  | nil => trivial
  | cons result rest ih =>
    refine Prog.Safe.bind (?_ : Prog.Safe _ (fun _ _ => True) _ _ _) fun later _ grown _ =>
      ih fun other mem => settled.mono grown other (mem_cons_of_mem _ mem)
    refine ⟨trivial, fun found => ?_⟩
    cases found with
    | none => trivial
    | some server =>
      obtain ⟨sel, resp, asked, outcome⟩ := settled result mem_cons_self
      refine ⟨trivial, fun now => ⟨⟨result.1, ?_⟩, fun matched => ?_⟩⟩
      · exact ⟨sel.mono (append_assoc history _ _ ▸ prefix_append _ _),
          ⟨resp, by simp [asked], outcome⟩, by simp [Loaded]⟩
      · cases matched <;> trivial

theorem pass_safe (thread threshold : Nat) :
    Prog.Safe (permitted thread) (fun _ _ => True) (fun _ _ => True) []
      (Job.pass.program threshold) := by
  refine Prog.Safe.bind (?_ : Prog.Safe _ (fun _ _ => True) _ _ (runOnce threshold))
    fun _ _ _ _ => trivial
  change True ∧ ∀ targets : List ProbeTarget, Prog.Safe _ _ _ ([] ++ [⟨.selectTargets, targets⟩])
    (probeAll targets >>= persistAll threshold)
  refine ⟨trivial, fun targets => ?_⟩
  exact Prog.Safe.bind (probeAll_safe targets fun target mem => ⟨targets, by simp, mem⟩)
    fun _ results _ settled => persistAll_safe threshold results settled

/-! ## Registries that keep still -/

def Unselected (history : Events) (tenantId : Uuid) (slug : String) : Prop :=
  ∀ target, Selected history target → ¬ (target.tenantId = tenantId ∧ target.slug = slug)

def Unloaded (history : Events) (id : Uuid) : Prop :=
  ∀ tenantId slug server, Loaded history tenantId slug server → server.id ≠ id

/-- The command registers no slug that the pass has selected, and gives no server that the
pass has selected or loaded another slug, URL or health path. -/
def LeavesAlone (registry : Tables) (history : Events) : Operation → Prop
  | .create _ _ _ newId tenantId command =>
    Unselected history tenantId command.slug ∧ Unloaded history newId
  | .update _ tenantId slug command =>
    (command.slug = none ∧ command.upstreamUrl = none ∧ command.healthCheckPath = none) ∨
      (Unselected history tenantId ((command.slug.map Subtype.val).getD slug) ∧
        ∀ server, getBySlug registry.servers tenantId slug = some server →
          Unloaded history server.id)
  | .delete _ _ => True

/-- Commands leave every pass alone that has not ended. -/
def Steady (world : World) : Move → Prop
  | .drift operation => ∀ thread, world.asking thread ≠ none →
      LeavesAlone world.shared (world.histories thread) operation
  | .move _ _ => True

/-- What a pass has seen is still so of the server: it has the endpoint of a target with its
slug, and the slug under which it was loaded. -/
structure Matches (history : Events) (server : RegisteredServer) : Prop where
  selected : ∀ target, Selected history target → target.tenantId = server.tenantId →
    target.slug = server.slug → target.url = endpoint server
  loaded : ∀ tenantId slug found, Loaded history tenantId slug found → found.id = server.id →
    tenantId = server.tenantId ∧ slug = server.slug

def Aligned (registry : Tables) (history : Events) : Prop :=
  ∀ server ∈ registry.servers.rows, Matches history server

variable {registry : Tables} {server old : RegisteredServer}

theorem Matches.of_same (known : Matches history old) (id : old.id = server.id)
    (tenant : old.tenantId = server.tenantId) (slug : old.slug = server.slug)
    (url : endpoint old = endpoint server) : Matches history server := by
  obtain ⟨sel, loaded⟩ := known
  rw [tenant, slug, url] at sel
  rw [id, tenant, slug] at loaded
  exact ⟨sel, loaded⟩

theorem Matches.of_unknown (unselected : Unselected history server.tenantId server.slug)
    (unloaded : Unloaded history server.id) : Matches history server where
  selected target selected tenant slug := absurd ⟨tenant, slug⟩ (unselected target selected)
  loaded tenantId slug found loaded id := absurd id (unloaded tenantId slug found loaded)

theorem key_of_getBySlug {servers : Registry.ServerTable} {tenantId : Uuid} {slug : String}
    (found : getBySlug servers tenantId slug = some server) :
    server.tenantId = tenantId ∧ server.slug = slug := by
  simpa using List.find?_some found

theorem Aligned.commit {library : Library} {operation : Operation}
    (aligned : Aligned registry history) (alone : LeavesAlone registry history operation) :
    Aligned (commit (perform library) registry operation) history := by
  intro server mem
  rcases mem_of_commit mem with prev | adds
  · exact aligned server prev
  cases adds with
  | create creates =>
    rw [creates.row]
    exact .of_unknown alone.1 alone.2
  | @update settings tenantId slug command old updates =>
    obtain ⟨tenant, rfl⟩ := key_of_getBySlug updates.found
    rcases alone with ⟨slug, url, path⟩ | ⟨unselected, unloaded⟩
    · refine (aligned old (mem_of_find?_eq_some updates.found)).of_same rfl rfl ?_ ?_ <;>
        simp [updatedRow, endpoint, slug, url, path]
    · exact .of_unknown (tenant ▸ unselected) (unloaded old updates.found)

/-! ## Turns of the passes -/

variable {threshold : Nat} {choice : Choice}

theorem Aligned.flush (aligned : Aligned registry history) (loaded changed : RegisteredServer) :
    Aligned { registry with servers := flushTable loaded changed registry.servers } history := by
  intro server mem
  obtain ⟨stored, prev, rfl⟩ := mem_map.mp mem
  obtain ⟨id, tenant, slug⟩ := identity_flushRow loaded changed stored
  refine (aligned stored prev).of_same id.symm tenant.symm slug.symm ?_
  unfold flushRow
  split <;> rfl

theorem Aligned.others (aligned : Aligned registry history) (op : Op) :
    Aligned (serve threshold choice registry op).2 history := by
  cases op with
  | persist loaded healthy now => exact aligned.flush _ _
  | _ => exact aligned

theorem Aligned.mover (aligned : Aligned registry history) (op : Op) :
    Aligned (serve threshold choice registry op).2
      (history ++ [⟨op, (serve threshold choice registry op).1⟩]) := by
  intro server mem
  have stored := aligned.others op server mem
  constructor
  · rintro target ⟨targets, seen, listed⟩ tenant slug
    rcases mem_append.mp seen with before | last
    · exact stored.selected target ⟨targets, before, listed⟩ tenant slug
    cases mem_singleton.mp last
    obtain ⟨sel, probed, rfl⟩ := mem_map.mp listed
    rw [registry.servers.eq_of_conflicts (mem_filter.mp probed).1 mem (.inr ⟨tenant, slug⟩)]
    rfl
  · intro tenantId slug found loaded id
    rcases mem_append.mp loaded with before | last
    · exact stored.loaded tenantId slug found before id
    obtain ⟨rfl, answer⟩ := Event.mk.inj (mem_singleton.mp last)
    have ans : some found = getBySlug registry.servers tenantId slug := eq_of_heq answer
    rw [← registry.servers.eq_of_conflicts (mem_of_find?_eq_some ans.symm) mem
      (.inl id)]
    exact (key_of_getBySlug ans.symm).imp Eq.symm Eq.symm

/-- Every pass that has not ended is aligned with the registry. -/
def AllAligned (world : World) : Prop :=
  ∀ thread, world.asking thread ≠ none → Aligned world.shared (world.histories thread)

theorem AllAligned.step {library : Library} {world : World} {turn : Move}
    (aligned : AllAligned world) (steady : Steady world turn) :
    AllAligned (world.step (rules threshold library) turn) := by
  cases turn with
  | drift operation =>
    intro thread asks
    exact (aligned thread asks).commit (steady thread asks)
  | move mover choice =>
    unfold Pool.step
    dsimp only
    cases prog : world.programs mover with
    | ret value => exact aligned
    | fail failure => exact aligned
    | ask op next =>
      have asking : world.asking mover ≠ none := by simp [Pool.asking, prog]
      intro thread asks
      dsimp only at asks ⊢
      by_cases moved : thread = mover
      · subst moved
        rw [Function.update_self]
        exact (aligned thread asking).mover op
      · rw [Function.update_of_ne moved]
        have other : world.asking thread ≠ none := by
          simpa [Pool.asking, Function.update_of_ne moved] using asks
        exact (aligned thread other).others op

theorem AllAligned.hitsProbed {library : Library} {world : World} {turn : Move}
    (aligned : AllAligned world) (obeys : Pool.Obeys permitted world) :
    HitsProbed library threshold world turn := by
  cases turn with
  | drift operation => trivial
  | move thread choice =>
    intro old prev new stored same changed
    rw [Pool.shared_step_move] at stored
    -- only a persisted outcome changes a row, and only the row that was loaded
    have unchanged : new ∈ world.shared.servers.rows → False := by
      intro kept
      obtain rfl := world.shared.servers.eq_of_conflicts kept prev (.inl same)
      exact changed.elim (· rfl) (· rfl)
    cases asks : world.asking thread with
    | none =>
      rw [asks] at stored
      exact (unchanged stored).elim
    | some op =>
      rw [asks] at stored
      cases op with
      | persist loaded healthy now =>
        obtain ⟨target, probed⟩ := obeys.permits thread _ asks
        obtain ⟨row, rowIn, rfl⟩ := mem_map.mp stored
        refine ⟨loaded, healthy, now, target, rfl, probed, ?_⟩
        by_cases loadedRow : row.id = loaded.id
        · have known := aligned thread (by simp [asks]) row rowIn
          obtain ⟨tenant, slug⟩ := known.loaded _ _ _ probed.found loadedRow.symm
          rw [known.selected target probed.selected tenant slug]
          unfold flushRow
          split <;> rfl
        · rw [flushRow, if_neg loadedRow] at stored unchanged
          exact (unchanged rowIn).elim
      | _ => exact (unchanged stored).elim

/-- In every interleaving whose commands leave the passes alone, a change of status or
failure count comes from a probe of the endpoint that the row has. -/
theorem outcomes_hit_probed_endpoints (library : Library) (threshold : Nat) (registry : Tables)
    (turns : List Move)
    (steady : Pool.Along (rules threshold library) Steady
      (start threshold registry fun _ => .pass) turns) :
    ∀ first turn rest, turns = first ++ turn :: rest →
      HitsProbed library threshold ((start threshold registry fun _ => .pass).run
        (rules threshold library) first) turn := by
  rw [Pool.forall_turns_iff_along]
  refine Pool.Along.imp_of_invariant _
    (fun world : World => AllAligned world ∧ Pool.Obeys permitted world)
    (fun world turn holds alone => ⟨holds.1.step alone, holds.2.step _ turn⟩)
    (fun world turn holds _ => holds.1.hitsProbed holds.2)
    ⟨fun thread asks server mem => ?_, fun thread => pass_safe thread threshold⟩ steady
  exact ⟨fun _ ⟨_, seen, _⟩ => (not_mem_nil seen).elim,
    fun _ _ _ loaded => (not_mem_nil loaded).elim⟩

def passing : World := start 3 activeTables fun _ => .pass

def pathUpdate : Registry.ServerUpdate :=
  { RegistrySafety.bridgeUpdate with
    transport := none
    healthCheckPath := some ⟨"/ready", by decide⟩ }

def edit : Move :=
  .drift (.update RegistrySafety.sampleRegistry sampleSubject.tenantId "github-mcp" pathUpdate)

theorem outcomes_hit_probed_endpoints_sample :
    HitsProbed Outbound.sampleLibrary 3 (passing.run (rules 3 Outbound.sampleLibrary)
      [edit, refused, refused, refused, refused]) refused :=
  outcomes_hit_probed_endpoints Outbound.sampleLibrary 3 activeTables
    [edit, refused, refused, refused, refused, refused]
    ⟨fun _ _ => .inr ⟨fun _ ⟨_, seen, _⟩ => (not_mem_nil seen).elim,
      fun _ _ _ _ _ loaded => (not_mem_nil loaded).elim⟩, trivial, trivial, trivial, trivial,
      trivial, trivial⟩ _ refused [] rfl

def probedThenEdited : List Move := [refused, refused, edit, refused, refused]

/-- The failure of the old health path is counted against the new one. -/
theorem edited_server_charged :
    ¬ ∀ first turn rest, probedThenEdited ++ [refused] = first ++ turn :: rest →
      HitsProbed Outbound.sampleLibrary 3
        (passing.run (rules 3 Outbound.sampleLibrary) first) turn := by
  intro always
  obtain ⟨_, _, _, target, _, probed, url⟩ := always probedThenEdited refused [] rfl
    { Outbound.sampleRow Outbound.healthPath with healthCheckPath := "/ready" }
    (by decide +kernel)
    { Outbound.sampleRow Outbound.healthPath with
      healthCheckPath := "/ready"
      consecutiveHealthFailures := 1
      lastHealthCheckAt := some 0 }
    (by decide +kernel) rfl (.inr (by decide))
  obtain ⟨resp, asked, _⟩ := probed.asked
  have requested := mem_map_of_mem (f := Event.op) asked
  dsimp only at requested
  rw [url] at requested
  exact absurd requested (by decide +kernel)

end Portcullis.Gateway.HealthMonitor
