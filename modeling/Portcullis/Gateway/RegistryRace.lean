import Portcullis.Gateway.RegistrySafety
import Portcullis.Lib.ReadCommitted

/-!
# Racing registrations

`RegistryService.create` and `delete` of `app/gateway/registry.py` as programs whose
statements are steps of their own.  `create` counts the servers of the tenant and inserts
in a later statement; nothing is locked in between.  The current license of a tenant does
not change.
-/

namespace Portcullis.Gateway.RegistryRace

open Auth.Licenses
open Gateway.Registry (RegistryError RegistrySettings ServerConflict ServerCreate
  ServerTable Tables countServers createdRow getBySlug insertServer insertServer_ok_iff noServers
  notFound validateTokenEnvAllowlist validateTransport validateUrl)
open Lib Lib.ReadCommitted Lib.Session Models

/-! ## Statements -/

structure Store where
  tables : Tables
  license : Uuid → Option License

inductive Op where
  | count (tenantId : Uuid)
  | currentLicense (tenantId : Uuid)
  | insert (row : RegisteredServer)
  | getBySlug (tenantId : Uuid) (slug : String)
  | deleteExactSlugPermissions (tenantId : Uuid) (slug : String)
  | delete (id : Uuid)

/-- A deletion answers with the rows it has found. -/
abbrev Ans : Op → Type
  | .count _ => Nat
  | .currentLicense _ => Option License
  | .insert _ => Unit
  | .getBySlug _ _ => Option RegisteredServer
  | .deleteExactSlugPermissions _ _ => List ToolPermission
  | .delete _ => Option RegisteredServer

def stored (servers : ServerTable) (row : RegisteredServer) : Except Rejection ServerTable :=
  (insertServer servers row row.slug).mapError fun error =>
    if error = .data then .fault else .violation

def exactRules (tables : Tables) (tenantId : Uuid) (slug : String) : List ToolPermission :=
  tables.permissions.filter fun permission =>
    permission.serverPattern = slug && tables.roles.any fun role =>
      role.id = permission.roleId && role.tenantId = tenantId

def execute (store : Store) : (op : Op) → Except Rejection (Ans op)
  | .count tenantId => .ok (countServers store.tables.servers tenantId)
  | .currentLicense tenantId => .ok (store.license tenantId)
  | .insert row => (stored store.tables.servers row).map fun _ => ()
  | .getBySlug tenantId slug => .ok (getBySlug store.tables.servers tenantId slug)
  | .deleteExactSlugPermissions tenantId slug => .ok (exactRules store.tables tenantId slug)
  | .delete id => .ok (store.tables.servers.rows.find? fun row => row.id = id)

def Store.withServers (store : Store) (servers : ServerTable) : Store :=
  { store with tables := { store.tables with servers := servers } }

def change : Event Op Ans → Store → Store
  | ⟨.count _, _⟩, store => store
  | ⟨.currentLicense _, _⟩, store => store
  | ⟨.insert row, _⟩, store =>
    match stored store.tables.servers row with
    | .ok servers => store.withServers servers
    | .error _ => store
  | ⟨.getBySlug _ _, _⟩, store => store
  | ⟨.deleteExactSlugPermissions _ _, found⟩, store =>
    { store with tables := { store.tables with
        permissions := store.tables.permissions.filter fun permission =>
          permission ∉ (found : List ToolPermission) } }
  | ⟨.delete _, none⟩, store => store
  | ⟨.delete id, some _⟩, store =>
    store.withServers (store.tables.servers.delete fun row => row.id = id)

def engine : Engine Store Op Ans := ⟨execute, change⟩

inductive Lock where
  | id (id : Uuid)
  | slug (tenantId : Uuid) (slug : String)
  | permission (id : Uuid)
  deriving DecidableEq

def rowLocks (row : RegisteredServer) : List Lock := [.id row.id, .slug row.tenantId row.slug]

/-- An inserted row locks its unique keys, a deleted row is locked with them. -/
def locks : Event Op Ans → List Lock
  | ⟨.count _, _⟩ => []
  | ⟨.currentLicense _, _⟩ => []
  | ⟨.insert row, _⟩ => rowLocks row
  | ⟨.getBySlug _ _, _⟩ => []
  | ⟨.deleteExactSlugPermissions _ _, found⟩ =>
    (found : List ToolPermission).map fun permission => .permission permission.id
  | ⟨.delete _, none⟩ => []
  | ⟨.delete _, some row⟩ => rowLocks row

/-! ## Programs -/

abbrev Service := Sql Op Ans RegistryError

abbrev History := Prog.Trace (Lib.Session.Request Op) (Reply Ans)

def statement (op : Op) : Service (Ans op) := query op

variable (library : Registry.Library)

def slugConflict (slug : String) : RegistryError :=
  .slugConflict ("A server with slug '" ++ slug ++ "' already exists")

/-- `except IntegrityError` of the insertion and its commit. -/
def onIntegrityError (slug : String) :
    Raised RegistryError → Service (Option RegisteredServer)
  | .database .violation => do
    rollback
    refuse (slugConflict slug)
  | .database .fault => .fail (.database .fault)
  | .own failure => refuse failure

def register (slug : String) (server : RegisteredServer) : Service (Option RegisteredServer) :=
  Prog.recover
    (do
      statement (.insert server)
      commit
      pure (some server))
    (onIntegrityError slug)

def create (settings : RegistrySettings) (now : Instant) (newId tenantId : Uuid)
    (command : ServerCreate) : Service (Option RegisteredServer) := do
  check (validateUrl library settings command.upstreamUrl)
  check (validateTokenEnvAllowlist command.serviceTokenEnvVar)
  check (validateTransport library settings command)
  let servers : Nat ← statement (.count tenantId)
  let license : Option License ← statement (.currentLicense tenantId)
  check ((requireLicense license now 0 (servers + 1)).mapError fun error => .value error.message)
  register command.slug (createdRow newId tenantId command)

def delete (tenantId : Uuid) (slug : String) : Service (Option RegisteredServer) := do
  let found : Option RegisteredServer ← statement (.getBySlug tenantId slug)
  match found with
  | none => refuse (notFound slug)
  | some server => do
    let _ ← statement (.deleteExactSlugPermissions tenantId slug)
    let _ ← statement (.delete server.id)
    commit
    pure none

inductive Call where
  | create (settings : RegistrySettings) (now : Instant) (newId tenantId : Uuid)
      (command : ServerCreate)
  | delete (tenantId : Uuid) (slug : String)

def Call.program : Call → Service (Option RegisteredServer)
  | .create settings now newId tenantId command =>
    RegistryRace.create library settings now newId tenantId command
  | .delete tenantId slug => RegistryRace.delete tenantId slug

abbrev State := World Store Op Ans Lock RegistryError (Option RegisteredServer)

def begin (store : Store) (calls : Nat → Call) : State :=
  start store fun session => (calls session).program library

/-! ## What a statement does to the servers -/

section Statements

variable {store : Store} {servers inserted : ServerTable} {row : RegisteredServer}

def Fits (row : RegisteredServer) (servers : ServerTable) : Prop :=
  ∃ inserted, stored servers row = .ok inserted

theorem stored_ok_iff : stored servers row = .ok inserted ↔
    insertServer servers row row.slug = .ok inserted := by
  unfold stored
  cases insertServer servers row row.slug with
  | ok added =>
    exact ⟨fun same => congrArg _ (Except.ok.inj same), fun same => congrArg _ (Except.ok.inj same)⟩
  | error failure => exact ⟨nofun, nofun⟩

theorem fits_iff : Fits row servers ↔ row.slug.length ≤ Registry.slugLength ∧
    ¬ (row.authMode = .serviceToken ∧ row.serviceTokenEnvVar = none) ∧
    ∀ other ∈ servers.rows, ¬ ServerConflict other row := by
  constructor
  · rintro ⟨inserted, adding⟩
    obtain ⟨short, named, added⟩ := insertServer_ok_iff.mp (stored_ok_iff.mp adding)
    exact ⟨short, named, (Table.of_insert added).2⟩
  · rintro ⟨short, named, fresh⟩
    obtain ⟨inserted, added⟩ := servers.exists_insert fresh
    exact ⟨inserted, stored_ok_iff.mpr (insertServer_ok_iff.mpr ⟨short, named, added⟩)⟩

theorem rows_of_stored (adding : stored servers row = .ok inserted) :
    inserted.rows = servers.rows ++ [row] := by
  obtain ⟨_, _, added⟩ := insertServer_ok_iff.mp (stored_ok_iff.mp adding)
  exact (Table.of_insert added).1

theorem lock_of_conflict {left right : RegisteredServer} (conflict : ServerConflict left right) :
    ∃ lock ∈ rowLocks left, lock ∈ rowLocks right := by
  rcases conflict with same | ⟨tenant, slug⟩
  · exact ⟨.id left.id, by simp [rowLocks], by simp [rowLocks, same]⟩
  · exact ⟨.slug left.tenantId left.slug, by simp [rowLocks], by simp [rowLocks, tenant, slug]⟩

theorem mem_change {event : Event Op Ans} {other : RegisteredServer}
    (mem : other ∈ (change event store).tables.servers.rows) :
    other ∈ store.tables.servers.rows ∨ event = ⟨.insert other, ()⟩ := by
  obtain ⟨op, answer⟩ := event
  cases op with
  | count tenantId => exact .inl mem
  | currentLicense tenantId => exact .inl mem
  | getBySlug tenantId slug => exact .inl mem
  | deleteExactSlugPermissions tenantId slug => exact .inl mem
  | delete id =>
    cases answer with
    | none => exact .inl mem
    | some found => exact .inl (List.mem_filter.mp mem).1
  | insert row =>
    unfold change at mem
    dsimp only at mem
    split at mem
    · rename_i servers adding
      have grown : other ∈ servers.rows := mem
      rw [rows_of_stored adding, List.mem_append, List.mem_singleton] at grown
      exact grown.imp_right fun same => by rw [same]
    · exact .inl mem

theorem license_change (event : Event Op Ans) (store : Store) :
    (change event store).license = store.license := by
  unfold change
  split <;> first | rfl | (split <;> rfl)

theorem fits_change {written : Event Op Ans} (apart : ∀ lock ∈ locks written, lock ∉ rowLocks row)
    (fits : Fits row store.tables.servers) : Fits row (change written store).tables.servers := by
  obtain ⟨short, named, fresh⟩ := fits_iff.mp fits
  refine fits_iff.mpr ⟨short, named, fun other mem conflict => ?_⟩
  rcases mem_change mem with old | rfl
  · exact fresh other old conflict
  · obtain ⟨lock, held, also⟩ := lock_of_conflict conflict
    exact apart lock held also

theorem countServers_stored (adding : stored servers row = .ok inserted) (tenantId : Uuid) :
    countServers inserted tenantId =
      countServers servers tenantId + if row.tenantId = tenantId then 1 else 0 := by
  unfold countServers
  rw [rows_of_stored adding, List.countP_append, List.countP_singleton]
  simp only [decide_eq_true_eq]

end Statements

/-! ## What the calls keep to -/

/-- What a call has written when it commits. -/
def Wrote : Call → List (Event Op Ans) → Prop
  | .create _ now newId tenantId command, events => ∃ servers license,
      events = [⟨.count tenantId, servers⟩, ⟨.currentLicense tenantId, license⟩,
        ⟨.insert (createdRow newId tenantId command), ()⟩] ∧
      requireLicense license now 0 (servers + 1) = .ok ()
  | .delete tenantId slug, events => ∃ found rules id gone,
      events = [⟨.getBySlug tenantId slug, found⟩,
        ⟨.deleteExactSlugPermissions tenantId slug, rules⟩, ⟨.delete id, gone⟩]

/-- A call inserts after reads only, and commits when all of its statements are made. -/
def Permitted (call : Call) (history : History) : Lib.Session.Request Op → Prop
  | .statement op => ∀ row, op = .insert row → ∃ events, writesOf history = some events ∧
      ∀ event ∈ events, ∀ store, change event store = store
  | .commit => ∃ events, writesOf history = some events ∧ Wrote call events
  | .rollback => True

theorem register_safe {call : Call} {slug : String} {server : RegisteredServer}
    {history : History} (reads : ∃ events, writesOf history = some events ∧
      ∀ event ∈ events, ∀ store, change event store = store)
    (wrote : ∃ events, writesOf (history ++ [⟨.statement (.insert server), .ok ()⟩]) =
      some events ∧ Wrote call events) :
    Prog.Safe (Permitted call) (fun _ _ => True) (fun _ _ => True) history
      (register slug server) := by
  have body : Prog.Safe (Permitted call) (fun _ _ => True) (fun _ _ => True) history
      (do
        statement (.insert server)
        commit
        pure (some server)) :=
    safe_query (fun _ _ => reads) (fun _ => trivial) fun _ =>
      safe_commit wrote (fun _ => trivial) trivial
  refine body.recover fun later raised _ _ => ?_
  cases raised with
  | own failure => trivial
  | database rej =>
    cases rej with
    | fault => trivial
    | violation => exact ⟨trivial, fun _ => trivial⟩

theorem create_safe (settings : RegistrySettings) (now : Instant) (newId tenantId : Uuid)
    (command : ServerCreate) :
    Prog.Safe (Permitted (.create settings now newId tenantId command)) (fun _ _ => True)
      (fun _ _ => True) [] (create library settings now newId tenantId command) := by
  refine safe_check (fun _ _ => trivial) fun _ _ => ?_
  refine safe_check (fun _ _ => trivial) fun _ _ => ?_
  refine safe_check (fun _ _ => trivial) fun _ _ => ?_
  refine safe_query (fun _ same => nomatch same) (fun _ => trivial) fun servers => ?_
  refine safe_query (fun _ same => nomatch same) (fun _ => trivial) fun license => ?_
  refine safe_check (fun _ _ => trivial) fun _ licensed => ?_
  have entitled : requireLicense license now 0 (servers + 1) = .ok () := by
    cases passed : requireLicense license now 0 (servers + 1) with
    | ok _ => rfl
    | error failure =>
      rw [passed] at licensed
      cases licensed
  refine register_safe ⟨_, rfl, ?_⟩ ⟨_, rfl, servers, license, rfl, entitled⟩
  simp [change]

theorem delete_safe (tenantId : Uuid) (slug : String) :
    Prog.Safe (Permitted (.delete tenantId slug)) (fun _ _ => True) (fun _ _ => True) []
      (delete tenantId slug) := by
  refine safe_query (fun _ same => nomatch same) (fun _ => trivial) fun found => ?_
  cases found with
  | none => trivial
  | some server =>
    refine safe_query (fun _ same => nomatch same) (fun _ => trivial) fun rules => ?_
    refine safe_query (fun _ same => nomatch same) (fun _ => trivial) fun gone => ?_
    exact safe_commit ⟨_, rfl, some server, rules, server.id, gone, rfl⟩ (fun _ => trivial) trivial

theorem call_safe (call : Call) :
    Prog.Safe (Permitted call) (fun _ _ => True) (fun _ _ => True) [] (call.program library) := by
  cases call with
  | create settings now newId tenantId command =>
    exact create_safe library settings now newId tenantId command
  | delete tenantId slug => exact delete_safe tenantId slug

/-! ## Runs -/

/-- What an open transaction relies on. -/
def Fact : Event Op Ans → Store → Prop
  | ⟨.count _, _⟩, _ => True
  | ⟨.currentLicense tenantId, license⟩, store => license = store.license tenantId
  | ⟨.insert row, _⟩, store => Fits row store.tables.servers
  | ⟨.getBySlug _ _, _⟩, _ => True
  | ⟨.deleteExactSlugPermissions _ _, _⟩, _ => True
  | ⟨.delete _, _⟩, _ => True

section Runs

variable {library} {store : Store} {calls : Nat → Call} {world after : State} {turn : Turn}
  {tenantId : Uuid} {limit : Int}

variable (store calls) in
structure Invariant (world : State) : Prop where
  locked : Locked locks world
  obeys : Obeys (fun session => Permitted (calls session)) (fun _ _ _ => True)
    (fun _ _ _ => True) world
  relied : Relied Fact world
  license : world.committed.license = store.license

variable (library store calls) in
theorem invariant_begin : Invariant store calls (begin library store calls) where
  locked := locked_start _ _
  obeys session := call_safe library (calls session)
  relied := relied_start _ _ _
  license := rfl

theorem Invariant.relied_perform (inv : Invariant store calls world)
    (did : perform engine locks world turn = .ok after) : Relied Fact after := by
  refine inv.relied.perform inv.locked did ?_ ?_
  · intro op next events answer prog opened executed
    cases op with
    | count tenantId => trivial
    | getBySlug tenantId slug => trivial
    | deleteExactSlugPermissions tenantId slug => trivial
    | delete id => trivial
    | currentLicense tenantId =>
      have fixed : (view engine world.committed events).license = world.committed.license :=
        view_induction engine (fun data => data.license = world.committed.license)
          (fun event _ data same => (license_change event data).trans same) rfl
      exact (Except.ok.inj executed).symm.trans (congrFun fixed tenantId)
    | insert row =>
      obtain ⟨before, alike, reads⟩ := inv.obeys.permits prog row rfl
      cases opened.symm.trans alike
      rw [view_eq_of_reads engine reads] at executed
      obtain ⟨inserted, adding, -⟩ := Transactions.ok_of_map executed
      exact ⟨inserted, adding⟩
  · intro event written data apart fact
    obtain ⟨op, answer⟩ := event
    cases op with
    | count tenantId => trivial
    | getBySlug tenantId slug => trivial
    | deleteExactSlugPermissions tenantId slug => trivial
    | delete id => trivial
    | currentLicense tenantId =>
      exact fact.trans (congrFun (license_change written data) tenantId).symm
    | insert row => exact fits_change apart fact

theorem Invariant.perform (inv : Invariant store calls world)
    (did : perform engine locks world turn = .ok after) : Invariant store calls after where
  locked := inv.locked.perform did
  obeys := inv.obeys.perform did
  relied := inv.relied_perform did
  license := committed_induction did (fun data => data.license = store.license)
    (fun event _ data same => (license_change event data).trans same) inv.license

/-- The turn commits the registration of the row. -/
def Committing (world : State) (turn : Turn) (row : RegisteredServer) : Prop :=
  Commits world turn ∧ Pending world turn.session ⟨.insert row, ()⟩

theorem Committing.perform {row : RegisteredServer} (committing : Committing world turn row) :
    ∃ after, perform engine locks world turn = .ok after := by
  obtain ⟨⟨-, ⟨next, prog⟩, -⟩, -⟩ := committing
  unfold ReadCommitted.perform
  rw [prog]
  exact ⟨_, rfl⟩

theorem Invariant.count_perform (inv : Invariant store calls world)
    (did : ReadCommitted.perform engine locks world turn = .ok after) (tenantId : Uuid) :
    (∃ row, (∀ other, Committing world turn other ↔ other = row) ∧
        countServers after.committed.tables.servers tenantId =
          countServers world.committed.tables.servers tenantId +
            if row.tenantId = tenantId then 1 else 0) ∨
      (∀ row, ¬ Committing world turn row) ∧ countServers after.committed.tables.servers tenantId ≤
          countServers world.committed.tables.servers tenantId := by
  rcases committed_cases did with
    ⟨calm, same⟩ | ⟨next, events, unhurt, prog, opened, -, changed⟩
  · exact .inr ⟨fun row committing => calm committing.1, by rw [same]⟩
  have pending_iff : ∀ event, Pending world turn.session event ↔ event ∈ events := fun event =>
    ⟨fun ⟨_, others, alike, mem⟩ => Option.some.inj (alike.symm.trans opened) ▸ mem,
      fun mem => ⟨⟨_, _, prog⟩, events, opened, mem⟩⟩
  obtain ⟨others, alike, wrote⟩ := inv.obeys.permits prog
  cases opened.symm.trans alike
  rw [changed]
  cases made : calls turn.session with
  | create settings now newId ownId command =>
    rw [made] at wrote
    obtain ⟨servers, license, rfl, -⟩ := wrote
    obtain ⟨inserted, adding⟩ : Fits (createdRow newId ownId command)
        world.committed.tables.servers :=
      inv.relied turn.session _ ((pending_iff ⟨.insert _, ()⟩).mpr (by simp))
    refine .inl ⟨createdRow newId ownId command, fun other => ⟨fun committing => ?_, ?_⟩, ?_⟩
    · simpa using (pending_iff _).mp committing.2
    · rintro rfl
      exact ⟨⟨unhurt, ⟨next, prog⟩, _, opened⟩, (pending_iff _).mpr (by simp)⟩
    · rw [← countServers_stored adding]
      simp only [view, List.foldl, engine, change, adding]
      rfl
  | delete ownId slug =>
    rw [made] at wrote
    obtain ⟨found, rules, id, gone, rfl⟩ := wrote
    refine .inr ⟨fun row committing => ?_, ?_⟩
    · have written := (pending_iff _).mp committing.2
      simp at written
    · cases gone with
      | none => exact le_refl _
      | some row => exact List.filter_sublist.countP_le

variable (tenantId limit) in
/-- A registration of the tenant commits while fewer servers than the limit are committed. -/
def Roomy (world : State) (turn : Turn) : Prop :=
  ∀ row, Committing world turn row → row.tenantId = tenantId →
    (countServers world.committed.tables.servers tenantId : Int) < limit

variable (tenantId) in
/-- No more servers of the tenant are committed than the registration has counted. -/
def Steady (world : State) (turn : Turn) : Prop :=
  ∀ row servers, Committing world turn row → row.tenantId = tenantId →
    Pending world turn.session ⟨.count tenantId, servers⟩ →
    countServers world.committed.tables.servers tenantId ≤ servers

theorem Invariant.within_iff (inv : Invariant store calls world)
    (within : (countServers world.committed.tables.servers tenantId : Int) ≤ limit) :
    (countServers (Transactions.commit (ReadCommitted.perform engine locks) world
        turn).committed.tables.servers tenantId : Int) ≤ limit ↔
      Roomy tenantId limit world turn := by
  refine Transactions.commit_iff
    (fun state : State => (countServers state.committed.tables.servers tenantId : Int) ≤ limit)
    within (fun lock waits row committing => ?_) fun after did => ?_
  · obtain ⟨after, did⟩ := committing.perform
    cases waits.symm.trans did
  rcases inv.count_perform did tenantId with ⟨row, only, counted⟩ | ⟨none, fewer⟩
  · by_cases own : row.tenantId = tenantId
    · rw [if_pos own] at counted
      constructor
      · intro kept other _ _
        omega
      · intro roomy
        have room := roomy row ((only row).mpr rfl) own
        omega
    · rw [if_neg own] at counted
      refine iff_of_true (by omega) fun other committing theirs => ?_
      rw [(only other).mp committing] at theirs
      exact absurd theirs own
  · exact iff_of_true (by omega) fun row committing => absurd committing (none row)

theorem le_of_requireLicense {license : License} {now : Instant} {users servers : Nat}
    (limited : license.serverLimit = some limit)
    (entitled : requireLicense (some license) now users servers = .ok ()) :
    (servers : Int) ≤ limit := by
  unfold requireLicense at entitled
  simp only [limited] at entitled
  split at entitled
  · cases entitled
  split at entitled
  · cases entitled
  split at entitled
  · cases entitled
  split at entitled
  · cases entitled
  · rename_i enough
    exact not_lt.mp enough

theorem Invariant.counted_lt (inv : Invariant store calls world) {license : License}
    (current : store.license tenantId = some license) (limited : license.serverLimit = some limit)
    {row : RegisteredServer} (committing : Committing world turn row)
    (own : row.tenantId = tenantId) :
    ∃ servers, Pending world turn.session ⟨.count tenantId, servers⟩ ∧ (servers : Int) < limit := by
  obtain ⟨⟨-, ⟨next, prog⟩, -⟩, -, events, opened, mem⟩ := committing
  obtain ⟨others, alike, wrote⟩ := inv.obeys.permits prog
  cases opened.symm.trans alike
  have pending : ∀ event ∈ events, Pending world turn.session event := fun event written =>
    ⟨⟨_, _, prog⟩, events, opened, written⟩
  cases made : calls turn.session with
  | create settings now newId ownId command =>
    rw [made] at wrote
    obtain ⟨servers, ans, rfl, entitled⟩ := wrote
    have created : row = createdRow newId ownId command := by simpa using mem
    have theirs : ownId = tenantId := by
      rw [← own, created]
      rfl
    subst theirs
    have known : ans = world.committed.license ownId :=
      inv.relied turn.session ⟨.currentLicense ownId, ans⟩ (pending _ (by simp))
    rw [known, inv.license, current] at entitled
    have enough := le_of_requireLicense limited entitled
    exact ⟨servers, pending _ (by simp), by omega⟩
  | delete ownId slug =>
    rw [made] at wrote
    obtain ⟨found, rules, id, gone, rfl⟩ := wrote
    simp at mem

variable (library) in
/-- The limit of the license holds throughout a run exactly if no registration of the tenant
commits when the limit is reached; in particular it holds if the servers that a registration
has counted have not become more when it commits. -/
theorem server_limit_iff (store : Store) (calls : Nat → Call) (tenantId : Uuid)
    (license : License) (current : store.license tenantId = some license) (limit : Int)
    (limited : license.serverLimit = some limit)
    (within : (countServers store.tables.servers tenantId : Int) ≤ limit) (turns : List Turn) :
    ((∀ first rest, turns = first ++ rest →
        (countServers (run engine locks (begin library store calls)
          first).committed.tables.servers tenantId : Int) ≤ limit) ↔
      Transactions.Along (perform engine locks) (Roomy tenantId limit) (begin library store calls)
        turns) ∧
    (Transactions.Along (perform engine locks) (Steady tenantId) (begin library store calls) turns →
      Transactions.Along (perform engine locks) (Roomy tenantId limit) (begin library store calls)
        turns) := by
  have keeps : ∀ (state : State) (turn : Turn), Invariant store calls state →
      Invariant store calls (Transactions.commit (perform engine locks) state turn) :=
    fun state turn inv => Transactions.commit_cases (Invariant store calls)
      (fun _ _ => inv) fun after did => inv.perform did
  constructor
  · exact Transactions.throughout_iff_along (Invariant store calls)
      (fun state : State => (countServers state.committed.tables.servers tenantId : Int) ≤ limit)
      keeps (fun state turn inv => inv.within_iff) (invariant_begin library store calls)
      within turns
  · refine Transactions.along_of_invariant (Invariant store calls) keeps
      (fun state turn inv steady row committing own => ?_)
      (invariant_begin library store calls)
    obtain ⟨servers, counted, below⟩ := inv.counted_lt current limited committing own
    have kept := steady row servers committing own counted
    omega

end Runs

/-! ## Two registrations at once -/

def oneServer : License := ⟨sampleSubject.tenantId, .active, 5, some 1, 100⟩

def licensedStore : Store := ⟨noServers, fun _ => some oneServer⟩

def registrations (session : Nat) : Call :=
  .create RegistrySafety.sampleRegistry 0 ⟨BitVec.ofNat 128 session⟩ sampleSubject.tenantId
    { Outbound.sampleCommand Outbound.healthPath with
      slug := if session = 0 then (Outbound.sampleCommand Outbound.healthPath).slug
        else ⟨"gitlab-mcp", by decide⟩ }

def overlapping : List Turn := [0, 1, 0, 1, 0, 1, 0, 1].map fun session => ⟨session, false⟩

theorem server_limit_iff_overlapping : (∀ first rest, overlapping = first ++ rest →
        (countServers (run engine locks (begin Outbound.sampleLibrary licensedStore registrations)
          first).committed.tables.servers sampleSubject.tenantId : Int) ≤ 1) ↔
      Transactions.Along (perform engine locks) (Roomy sampleSubject.tenantId 1)
        (begin Outbound.sampleLibrary licensedStore registrations) overlapping :=
  (server_limit_iff Outbound.sampleLibrary licensedStore registrations sampleSubject.tenantId
    oneServer rfl 1 rfl (by decide) overlapping).1

/-- Two servers are committed under a license for one. -/
theorem overlapping_registrations_exceed : oneServer.serverLimit = some 1 ∧
      countServers licensedStore.tables.servers sampleSubject.tenantId = 0 ∧
      countServers (run engine locks (begin Outbound.sampleLibrary licensedStore registrations)
        overlapping).committed.tables.servers sampleSubject.tenantId = 2 := by
  refine ⟨rfl, rfl, ?_⟩
  decide +kernel

end Portcullis.Gateway.RegistryRace
