import Portcullis.Gateway.AuditTrail
import Portcullis.Gateway.SessionRace
import Portcullis.Repositories.Audit

/-!
# Storing the audit events of the proxy

`record_event` of `app/observability/audit.py` writes an event into the bounded columns
of `audit_logs` and swallows what the database rejects.  Some of the columns hold what a
client sent, so an event is stored exactly if those values fit.
-/

namespace Portcullis.Gateway.AuditStorage

open Auth.Rbac Gateway.AuditTrail Gateway.JsonRpc Gateway.Mediation Gateway.Router List
  Gateway.SessionRace Gateway.Stages Lib Lib.Encoding Lib.Ranked Models Repositories.Audit

/-! ## Columns -/

/-- Postgres takes the text into a `VARCHAR(width)` column. -/
def columnFits (width : Nat) (text : String) : Bool :=
  decide (text.toList.length ≤ width) && !text.toList.contains '\x00'

def nullableFits (width : Nat) : Option String → Bool
  | none => true
  | some text => columnFits width text

/-- The `VARCHAR` columns of `audit_logs`. -/
def rowFits (log : AuditLog) : Bool :=
  nullableFits 500 log.subjectId && nullableFits 200 log.serverSlug &&
    nullableFits 500 log.toolName && nullableFits 200 log.rpcMethod &&
    columnFits 50 log.outcome && nullableFits 100 log.clientIp &&
    nullableFits 100 log.requestId && nullableFits 64 log.prevHash &&
    nullableFits 64 log.entryHash

theorem columnFits_str (width : Nat) (uuid : Uuid) (wide : 36 ≤ width) :
    columnFits width uuid.str = true := by
  simp [columnFits, Uuid.length_str, Uuid.nul_notMem_str, wide]

/-! ## Recording -/

/-- A resource name as a column value; the driver takes strings only. -/
def toolNameColumn : Option Json → Except Exn (Option String)
  | none => .ok none
  | some .null => .ok none
  | some (.str name) => .ok (some name)
  | some _ => .error .databaseError

def toolFits : Option Json → Bool
  | none => true
  | some .null => true
  | some (.str name) => columnFits 500 name
  | some _ => false

section Record

variable (hash : HashPayload → String) (redactDetail : Option Json → Json)

def eventOf (record : AuditRecord) (toolName : Option String) : AuditEvent where
  eventType := record.eventType
  outcome := record.outcome
  tenantId := record.tenantId
  subjectId := record.subjectId
  subjectType := record.subjectType
  serverSlug := some record.serverSlug
  toolName := toolName
  rpcMethod := record.rpcMethod.map Method.text
  clientIp := some record.clientIp
  requestId := record.requestId
  detail := some (redactDetail record.detail)

/-- `record_event` on an available database: a row that the database rejects is not
stored. -/
def recordEvent (table : Table) (record : AuditRecord) (id : Uuid) (now : Instant) : Table :=
  match toolNameColumn record.toolName with
  | .error _ => table
  | .ok toolName =>
    let event := eventOf redactDetail record toolName
    if rowFits (newRow hash event id now (prevHashFor event table)) then
      create hash table ⟨event, id, now⟩
    else table

def Stores (table : Table) (record : AuditRecord) (id : Uuid) (now : Instant) : Prop :=
  ∃ row, recordEvent hash redactDetail table record id now = table ++ [row]

/-- The values of the event fit their columns. -/
structure RecordFits (record : AuditRecord) : Prop where
  subject : nullableFits 500 record.subjectId = true
  server : columnFits 200 record.serverSlug = true
  tool : toolFits record.toolName = true
  method : nullableFits 200 (record.rpcMethod.map Method.text) = true
  outcome : columnFits 50 record.outcome = true
  client : columnFits 100 record.clientIp = true
  request : nullableFits 100 record.requestId = true

variable {hash} {table : Table} (digest : ∀ payload, columnFits 64 (hash payload) = true)
  (held : ∀ log ∈ table, rowFits log = true)

include held in
theorem prevHash_fits (event : AuditEvent) : nullableFits 64 (prevHashFor event table) = true := by
  unfold prevHashFor
  split
  · rfl
  rename_i tenantId _
  unfold newestHash
  cases newest : (listRows (some tenantId) 1 table).head? with
  | none => rfl
  | some log =>
    have listed : log ∈ listRows (some tenantId) 1 table := mem_of_head? newest
    have sorted := mem_of_mem_take listed
    rw [mem_sortOn] at sorted
    have fits := held log (mem_of_mem_filter sorted)
    unfold rowFits at fits
    exact (Bool.and_eq_true_iff.mp fits).2

include digest held in
theorem stores_iff (record : AuditRecord) (id : Uuid) (now : Instant) :
    Stores hash redactDetail table record id now ↔ RecordFits record := by
  have unstored : ∀ row, table ≠ table ++ [row] := fun row same => by
    simpa using congrArg List.length same
  unfold Stores recordEvent
  cases column : toolNameColumn record.toolName with
  | error exn =>
    refine iff_of_false (fun ⟨row, same⟩ => unstored row same) fun fits => ?_
    have tool := fits.tool
    revert column tool
    unfold toolNameColumn toolFits
    split <;> simp
  | ok toolName =>
    have tool : nullableFits 500 toolName = toolFits record.toolName := by
      revert column
      unfold toolNameColumn toolFits
      split <;> intro column <;> cases column <;> rfl
    have fits : rowFits (newRow hash (eventOf redactDetail record toolName) id now
        (prevHashFor (eventOf redactDetail record toolName) table)) = true ↔
          RecordFits record := by
      unfold rowFits newRow
      rw [prevHash_fits held]
      simp only [eventOf, nullableFits, digest, Bool.and_true, Bool.and_eq_true]
      constructor
      · rintro ⟨⟨⟨⟨⟨⟨subject, server⟩, named⟩, method⟩, outcome⟩, client⟩, request⟩
        exact ⟨subject, server, tool.symm.trans named, method, outcome, client, request⟩
      · rintro ⟨subject, server, named, method, outcome, client, request⟩
        exact ⟨⟨⟨⟨⟨⟨subject, server⟩, tool.trans named⟩, method⟩, outcome⟩, client⟩, request⟩
    dsimp only
    split
    · rename_i stored
      exact iff_of_true ⟨_, rfl⟩ (fits.mp stored)
    · rename_i rejected
      exact iff_of_false (fun ⟨row, same⟩ => unstored row same)
        fun whole => rejected (fits.mpr whole)

end Record

/-! ## Events of the proxy -/

/-- The id that `RequestIdMiddleware` gives a request. -/
def requestIdOf (header : Option String) (fresh : Uuid) : String :=
  match header with
  | none => fresh.str
  | some text => if text = "" then fresh.str else text

/-- The parts of a request that every event names. -/
structure RequestFits (request : Request) : Prop where
  server : columnFits 200 request.serverSlug = true
  client : columnFits 100 request.clientIp = true
  header : nullableFits 100 (request.header "x-request-id") = true

theorem requestId_fits_iff (header : Option String) (fresh : Uuid) :
    columnFits 100 (requestIdOf header fresh) = nullableFits 100 header := by
  have generated : columnFits 100 fresh.str = true := columnFits_str 100 fresh (by norm_num)
  unfold requestIdOf
  split
  · exact generated
  split
  · rename_i empty
    rw [generated, empty]
    rfl
  · rfl

section Events

variable {ctx : Context} {fresh : Uuid} (arrived : ctx.request.requestId =
    some (requestIdOf (ctx.request.header "x-request-id") fresh))
include arrived

theorem authFailureRecord_fits_iff :
    RecordFits (authFailureRecord ctx) ↔ RequestFits ctx.request := by
  constructor
  · rintro ⟨_, server, _, _, _, client, request⟩
    refine ⟨server, client, ?_⟩
    rw [← requestId_fits_iff _ fresh]
    unfold authFailureRecord at request
    rwa [arrived] at request
  · rintro ⟨server, client, header⟩
    refine ⟨rfl, server, rfl, rfl, (by decide : columnFits 50 "denied" = true), client, ?_⟩
    unfold authFailureRecord
    rw [arrived]
    exact (requestId_fits_iff _ fresh).trans header

theorem callerRecord_fits_iff (subject : Subject) (rpc : JsonRpcRequest)
    (eventType : AuditEventType) (outcome : String) (toolName : Option Json) (detail : Json)
    (short : columnFits 50 outcome = true) :
    RecordFits (callerRecord ctx subject rpc eventType outcome toolName detail) ↔
      RequestFits ctx.request ∧ columnFits 500 subject.subjectId = true ∧
        toolFits toolName = true := by
  constructor
  · rintro ⟨named, server, tool, _, _, client, request⟩
    refine ⟨⟨server, client, ?_⟩, named, tool⟩
    rw [← requestId_fits_iff _ fresh]
    unfold callerRecord at request
    rwa [arrived] at request
  · rintro ⟨⟨server, client, header⟩, named, tool⟩
    refine ⟨named, server, tool,
      (by cases rpc.method <;> decide : columnFits 200 rpc.method.text = true), short, client, ?_⟩
    unfold callerRecord
    rw [arrived]
    exact (requestId_fits_iff _ fresh).trans header

end Events

/-- An event of a run: a failed login, or an event that names the one caller and the
resource of the request. -/
inductive EventOf (ctx : Context) (rpc : JsonRpcRequest) (run : History) : AuditRecord → Prop where
  | failure (unknown : ∀ subject, ¬ Authenticated run subject) :
      EventOf ctx rpc run (authFailureRecord ctx)
  | caller {subject : Subject} {eventType : AuditEventType} {outcome : String}
      {toolName : Option Json} {detail : Json}
      (only : ∀ other, Authenticated run other ↔ other = subject)
      (short : columnFits 50 outcome = true)
      (tool : toolFits toolName = toolFits (resourceName rpc)) :
      EventOf ctx rpc run (callerRecord ctx subject rpc eventType outcome toolName detail)

section Shapes

variable {ctx : Context} {subject : Subject} {server : McpServer} {rpc : JsonRpcRequest}
  {run : History} {outcome : Except Exit Response} {record : AuditRecord}

theorem authenticateCaller_records {rpcId : Option RpcId} {named : Except Exit Subject}
    (runs : Prog.Runs (authenticateCaller ctx rpcId) run named) (made : record ∈ auditRecords run) :
    record = authFailureRecord ctx := by
  unfold authenticateCaller at runs
  dsimp only at runs
  split at runs
  · obtain ⟨rfl, _⟩ := respond_run runs
    cases made
  obtain ⟨answer, rest, rfl, ans⟩ := request_bind_run runs
  rcases answer with exn | found
  · cases exn with
    | valueError =>
      obtain ⟨_, rest, rfl, refused⟩ := request_bind_run ans
      obtain ⟨rfl, _⟩ := respond_run refused
      exact mem_singleton.mp made
    | _ =>
      obtain ⟨rfl, _⟩ := raise_run ans
      cases made
  · obtain ⟨rfl, _⟩ := pure_run ans
    cases made

theorem runPreAuthChecks_records {rpcId : Option RpcId} {named : Except Exit Subject}
    (runs : Prog.Runs (runPreAuthChecks ctx rpcId) run named) (made : record ∈ auditRecords run) :
    record = authFailureRecord ctx := by
  rcases runs.bind_cases with ⟨exit, checked, _⟩ | ⟨first, _, rest, rfl, checked, caller⟩
  · rw [Of.unrecorded ((checkPreAuth_ensures ctx [] rpcId).of checked)] at made
    cases made
  · rw [auditRecords_append,
      Of.unrecorded ((checkPreAuth_ensures ctx [] rpcId).of checked)] at made
    exact authenticateCaller_records caller made

theorem answerRun_record {rlHeaders : Headers} {stream : Bool} {upstream : UpstreamResponse}
    (runs : AnswerRun ctx subject rpc rlHeaders stream upstream run outcome)
    (made : record ∈ auditRecords run) : record = allowedRecord ctx subject rpc upstream := by
  cases runs with
  | notified _ => cases made
  | oversized _ _ _ => cases made
  | unpersisted _ _ persist =>
    exact absurd made (Of.record_notMem persist.uses _)
  | streamed _ _ persist _ =>
    exact absurd made (Of.record_notMem persist.uses _)
  | filtered _ _ persist _ _ filter =>
    rw [auditRecords_append, Of.unrecorded persist.uses,
      Of.unrecorded ((filteredResponse_ensures ctx [] subject _ _ upstream _).of filter)] at made
    cases made
  | buffered _ _ persist _ _ =>
    rw [auditRecords_append, Of.unrecorded persist.uses, auditRecords_auditing,
      nil_append] at made
    split at made
    · exact mem_singleton.mp made
    · cases made

theorem proxyRun_records (runs : ProxyRun ctx subject server rpc run outcome)
    (made : record ∈ auditRecords run) :
    ∃ detail, record = callerRecord ctx subject rpc .toolCall "allowed" (resourceName rpc)
      detail := by
  cases runs with
  | limited uses _ => exact absurd made (Of.record_notMem uses _)
  | explained allowance _ _ =>
    rw [auditRecords_append, Of.unrecorded allowance.uses] at made
    exact ⟨_, mem_singleton.mp made⟩
  | capped allowance _ uses _ =>
    rw [auditRecords_append, Of.unrecorded allowance.uses] at made
    exact absurd made (Of.record_notMem uses _)
  | failed allowance _ uses _ =>
    rw [auditRecords_append, auditRecords_append, Of.unrecorded allowance.uses,
      Of.unrecorded uses] at made
    cases made
  | answered allowance _ uses _ answer =>
    rw [auditRecords_append, auditRecords_append, Of.unrecorded allowance.uses,
      Of.unrecorded uses, auditRecords_cons_of_none _ _ rfl] at made
    exact ⟨_, answerRun_record answer made⟩

theorem resourceName_of_terminate (method : rpc.method = .sessionTerminate) :
    resourceName rpc = none := by
  unfold resourceName
  rw [method]
  split <;> rfl

theorem terminateRun_records (runs : TerminateRun ctx subject rpc run outcome)
    (made : record ∈ auditRecords run) : record = terminateRecord ctx subject rpc := by
  cases runs with
  | refused uses _ =>
    exact absurd made (Of.record_notMem uses _)
  | failed uses _ _ built =>
    rw [auditRecords_append, Of.unrecorded uses, auditRecords_cons_of_none _ _ rfl,
      auditRecords_append, Of.unrecorded built] at made
    cases made
  | answered uses _ _ _ built _ _ =>
    rw [auditRecords_append, Of.unrecorded uses, auditRecords_cons_of_none _ _ rfl,
      auditRecords_append, Of.unrecorded built] at made
    exact mem_singleton.mp made

theorem postRun_records (runs : PostRun ctx rpc run outcome) (made : record ∈ auditRecords run) :
    EventOf ctx rpc run record := by
  cases runs with
  | unidentified refused =>
    rw [runPreAuthChecks_records refused made]
    exact .failure (runPreAuthChecks_failed refused)
  | unresolved identified uses =>
    rw [auditRecords_append, Of.unrecorded identified.uses,
      Of.unrecorded uses] at made
    cases made
  | @unpermitted checks deciding caller _ cleared silent decided =>
    rw [auditRecords_append, Of.unrecorded silent, nil_append] at made
    rcases checkPermission_run decided with ⟨uses, _⟩ |
      ⟨_, resource, perms, decision, metered, recorded, _, named, evaluated, refused, rfl⟩
    · exact absurd made (Of.record_notMem uses _)
    · have same : record = denialRecord ctx caller rpc resource decision :=
        mem_singleton.mp made
      rw [same]
      refine .caller (fun other => (authenticated_append
        ((checkPermission_ensures ctx [] caller rpc).of decided) other).trans
          (cleared.only other)) (by decide) ?_
      rw [named]
  | @terminating checks terminating caller _ cleared method terminate =>
    rw [auditRecords_append, Of.unrecorded cleared.uses, nil_append] at made
    rw [terminateRun_records terminate made]
    refine .caller (fun other => (authenticated_append terminate.uses other).trans
      (cleared.only other)) (by decide) ?_
    rw [resourceName_of_terminate method]
    decide
  | @proxying checks proxying caller server _ cleared _ _ proxied =>
    rw [auditRecords_append, Of.unrecorded cleared.uses, nil_append] at made
    obtain ⟨detail, rfl⟩ := proxyRun_records proxied made
    exact .caller (fun other => (authenticated_append proxied.uses other).trans
      (cleared.only other)) (by decide) rfl

end Shapes

/-! ## Storage -/

/-- What the columns of every event of the run take from the request: its parts, and for
an authenticated caller their id and the resource they name. -/
structure InputsFit (ctx : Context) (run : History) : Prop where
  request : RequestFits ctx.request
  subject : ∀ subject, Authenticated run subject → columnFits 500 subject.subjectId = true
  resource : ∀ subject rpc, Authenticated run subject →
    parseRequest ctx.platform.jsonLimits ctx.request.body = .ok rpc →
      toolFits (resourceName rpc) = true

theorem eventOf_fits_iff {ctx : Context} {rpc : JsonRpcRequest} {run : History}
    {record : AuditRecord} {fresh : Uuid}
    (arrived : ctx.request.requestId = some (requestIdOf (ctx.request.header "x-request-id") fresh))
    (parsed : parseRequest ctx.platform.jsonLimits ctx.request.body = .ok rpc)
    (event : EventOf ctx rpc run record) : RecordFits record ↔ InputsFit ctx run := by
  cases event with
  | failure unknown =>
    rw [authFailureRecord_fits_iff arrived]
    constructor
    · intro request
      exact ⟨request, fun subject auth => absurd auth (unknown subject),
        fun subject _ auth => absurd auth (unknown subject)⟩
    · exact InputsFit.request
  | caller only short tool =>
    rw [callerRecord_fits_iff arrived _ _ _ _ _ _ short, tool]
    constructor
    · rintro ⟨request, named, resource⟩
      refine ⟨request, fun other auth => ?_, fun other found _ sameParse => ?_⟩
      · rw [(only other).mp auth]
        exact named
      · rw [parsed] at sameParse
        cases sameParse
        exact resource
    · intro fits
      exact ⟨fits.request, fits.subject _ ((only _).mpr rfl),
        fits.resource _ rpc ((only _).mpr rfl) parsed⟩

theorem getRun_records {ctx : Context} {run : History} {outcome : Except Exit Response}
    {record : AuditRecord} (runs : GetRun ctx run outcome) (made : record ∈ auditRecords run) :
    record = authFailureRecord ctx ∧ ∀ subject, ¬ Authenticated run subject := by
  cases runs with
  | unidentified refused =>
    exact ⟨runPreAuthChecks_records refused made, runPreAuthChecks_failed refused⟩
  | stopped uses => exact absurd made (Of.record_notMem uses _)
  | failed cleared uses =>
    rw [auditRecords_append, auditRecords_append, Of.unrecorded cleared.uses,
      Of.unrecorded uses] at made
    cases made
  | unpersisted cleared uses persist =>
    rw [auditRecords_append, auditRecords_append, Of.unrecorded cleared.uses,
      Of.unrecorded uses, auditRecords_cons_of_none _ _ rfl,
      Of.unrecorded persist.uses] at made
    cases made
  | answered cleared uses _ persist =>
    rw [auditRecords_append, auditRecords_append, Of.unrecorded cleared.uses,
      Of.unrecorded uses, auditRecords_cons_of_none _ _ rfl,
      Of.unrecorded persist.uses] at made
    cases made

def labelledContext (requestId : String) : Context :=
  let sample := sampleContext "application/json" twoNamesBody
  { sample with request :=
    { sample.request with
      headers := sample.request.headers ++ [("x-request-id", requestId)]
      requestId := some requestId } }

def labelledTrace (requestId : String) : History :=
  Prog.trace (sampleSnapshot [] emptyUpstream).answer (mcpProxy (labelledContext requestId))

end Portcullis.Gateway.AuditStorage
