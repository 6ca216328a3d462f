import Portcullis.Gateway.Mediation
import Portcullis.Gateway.SessionText
import Portcullis.Lib.Pool

/-!
# Session ownership under concurrent requests

Proxy requests interleaved at single Redis commands.  A handler reads a session record,
compares its owner with the caller, and writes the record in separate commands, so what
it compared may be gone when it writes; ownership is stable in the runs where it is not.
-/

namespace Portcullis.Gateway.SessionRace

open Auth.Rbac Gateway.Mediation Gateway.Router Gateway.Session Gateway.SessionText Lib Models

/-! ## Requests -/

inductive Call where
  | post (ctx : Context)
  | get (ctx : Context)

def Call.context : Call → Context
  | .post ctx => ctx
  | .get ctx => ctx

def Call.program : Call → Gate Response
  | .post ctx => mcpProxy ctx
  | .get ctx => mcpSseStream ctx

section Stream

variable {permitted : History → Op → Prop} {ctx : Context}
  (free : ∀ later op, isForward op = false → SessionWrite ctx later op → permitted later op)
  (serves : ∀ {later : History} {subject : Subject} {server : McpServer} (headers : Headers),
    Resolved ctx later subject server →
      permitted later (.forward (forwardCall server "GET" headers [] true)))

include free serves

theorem handleGet_ensures (history : History) :
    Ensures permitted history (handleGet ctx) (fun _ _ => True) := by
  have plain := permits_plain free
  apply Ensures.bind ((runPreAuthChecks_ensures ctx history none).calm plain)
  rintro called subject _ ⟨⟨_, auth⟩, _⟩
  apply Ensures.bind ((resolveServer_ensures ctx called subject none).calm plain)
  rintro located server locatedGrown ⟨resolved, _⟩
  apply Ensures.bind (validateSession_ensures (permits_reads free) located subject none)
  rintro owned _ ownedGrown ⟨_, read⟩
  apply Ensures.bind ((checkRateLimit_ensures ctx owned subject _ none).calm plain)
  rintro limited rlHeaders limitedGrown ⟨⟨_, unnamed⟩, limitedSame⟩
  apply Ensures.bind (ensures_request (plain _ _ rfl))
  rintro _ metered meteredGrown rfl
  apply Ensures.bind ((buildUpstreamHeaders_ensures ctx _ server).calm plain)
  rintro built headers builtGrown ⟨_, builtSame⟩
  have located := resolved.mono ((ownedGrown.trans limitedGrown).trans
    (meteredGrown.trans builtGrown))
  apply Ensures.bind (forward_ensures ctx built _ none unnamed (serves headers located))
  intro answered upstream answeredGrown answeredSame
  have grown : called <+: answered := (locatedGrown.trans ownedGrown).trans
    (limitedGrown.trans (meteredGrown.trans (builtGrown.trans answeredGrown)))
  have same := limitedSame.trans ((sameReads_concat _ _ metered rfl).trans
    (builtSame.trans answeredSame))
  apply Ensures.bind (persistSession_ensures answered free subject none upstream
    (auth.mono grown) (read.after same))
  intro _ _ _ _
  exact ensures_pure trivial

theorem mcpSseStream_permits :
    Prog.Safe permitted (fun _ _ => True) (fun _ _ => True) [] (mcpSseStream ctx) := by
  have handled : Ensures permitted []
      (exceptAll (handleGet ctx) fun _ => respond (internalError ctx none)) (fun _ _ => True) :=
    (handleGet_ensures free serves []).exceptAll fun _ _ => ensures_error
  unfold Ensures at handled
  refine handled.recover ?_
  intro later exit _ _
  cases exit <;> trivial

end Stream

theorem Call.writes (call : Call) :
    Prog.Safe (SessionWrite call.context) (fun _ _ => True) (fun _ _ => True) [] call.program := by
  cases call with
  | post ctx => exact (mcpProxy_disciplined ctx).permit fun _ _ disciplined => disciplined.2
  | get ctx => exact mcpSseStream_permits (fun _ _ _ write => write) fun _ _ => trivial

/-! ## Interleavings -/

/-- How Redis answers a command: it runs it, it fails without running it, or the answer
to a command it ran is lost. -/
inductive Reply where
  | served
  | refused (exn : Exn)
  | lost (exn : Exn)

def Reply.answer {Value : Type} (reply : Reply) (value : Value) : Except Exn Value :=
  match reply with
  | .served => .ok value
  | .refused exn => .error exn
  | .lost exn => .error exn

def Reply.executed : Reply → Bool
  | .refused _ => false
  | _ => true

/-- The reply of Redis, and what everything else answers. -/
structure Choice where
  reply : Reply
  env : (op : Op) → Ans op

/-- Live session records.  Lifetimes are not tracked: a record may expire at any time. -/
abbrev Store := String → Option String

def serve (choice : Choice) (store : Store) : (op : Op) → Ans op × Store
  | .redisGet key => (choice.reply.answer (store key), store)
  | .redisExpire _ _ => (choice.reply.answer (), store)
  | .redisSet key value _ =>
    (choice.reply.answer (),
      if choice.reply.executed then Function.update store key (some value) else store)
  | .redisDelete key =>
    (choice.reply.answer (),
      if choice.reply.executed then Function.update store key none else store)
  | op => (choice.env op, store)

def expire (key : String) (store : Store) : Store := Function.update store key none

def rules : PoolRules Store Op Ans Choice String where
  serve := serve
  drift := expire

abbrev World := Pool Store Op Ans Exit Response

def start (store : Store) (calls : Nat → Call) : World where
  shared := store
  programs thread := (calls thread).program
  histories _ := []

/-! ## Owners -/

structure Owner where
  tenantId : Uuid
  subjectId : String
  serverSlug : String
  deriving DecidableEq

def Owner.text (owner : Owner) : String :=
  payloadText owner.tenantId owner.subjectId owner.serverSlug

def Owner.record (owner : Owner) : SessionRecord :=
  ⟨owner.tenantId.str, owner.subjectId, owner.serverSlug⟩

/-- The owner a request of the subject acts for. -/
def callerOf (call : Call) (subject : Subject) : Owner :=
  ⟨subject.tenantId, subject.subjectId, call.context.request.serverSlug⟩

theorem Owner.record_injective (left right : Owner) (same : left.record = right.record) :
    left = right := by
  obtain ⟨tenant, subject, slug⟩ := left
  obtain ⟨otherTenant, otherSubject, otherSlug⟩ := right
  obtain ⟨sameTenant, rfl, rfl⟩ := SessionRecord.mk.inj same
  rw [Uuid.str_injective tenant otherTenant sameTenant]

/-- A stored owner is read back, if the JSON reader can open an object at all. -/
theorem readRecord_text (platform : Platform) (owner : Owner) (found : Option SessionRecord)
    (read : readRecord platform owner.text = .ok found) : found = some owner.record := by
  rw [readRecord, Owner.text, parse_payloadText] at read
  by_cases flat : platform.jsonLimits.depth = 0
  · rw [if_pos flat] at read
    cases read
  · rw [if_neg flat] at read
    exact (Except.ok.inj read).symm

theorem Owner.text_injective (left right : Owner) (same : left.text = right.text) :
    left = right := by
  have parsed := congrArg (fun text => Json.parseText ⟨1, 0⟩ text.toList) same
  simp only [Owner.text, parse_payloadText, one_ne_zero, if_false, Except.ok.injEq,
    Json.obj.injEq, List.cons.injEq, Prod.mk.injEq, Json.str.injEq, true_and, and_true] at parsed
  apply Owner.record_injective
  rw [Owner.record, Owner.record, parsed.1, parsed.2.1, parsed.2.2]

def Recorded (world : World) (sessionId : String) (owner : Owner) : Prop :=
  world.shared (sessionKey sessionId) = some owner.text

instance (world : World) (sessionId : String) (owner : Owner) :
    Decidable (Recorded world sessionId owner) :=
  inferInstanceAs (Decidable (_ = _))

/-- A turn in which a request of the owner deletes the session. -/
def DeletedByOwner (calls : Nat → Call) (sessionId : String) (owner : Owner) (world : World)
    (turn : Turn Choice String) : Prop :=
  ∃ thread choice subject, turn = .move thread choice ∧
    world.asking thread = some (.redisDelete (sessionKey sessionId)) ∧
    Authenticated (world.histories thread) subject ∧ callerOf (calls thread) subject = owner

/-- The session expires or its owner deletes it. -/
def Released (calls : Nat → Call) (sessionId : String) (owner : Owner) (world : World)
    (turn : Turn Choice String) : Prop :=
  turn = .drift (sessionKey sessionId) ∨ DeletedByOwner calls sessionId owner world turn

/-! ## Writes on a current view -/

def writtenKey : Op → Option String
  | .redisSet key _ _ => some key
  | .redisDelete key => some key
  | _ => none

/-- A request that writes a session key finds there what its last `GET` of the key
answered, or nothing. -/
def current (world : World) : Turn Choice String → Bool
  | .drift _ => true
  | .move thread _ =>
    match (world.asking thread).bind writtenKey with
    | none => true
    | some key =>
      decide (world.shared key = none ∨
        lastGet key (world.histories thread) = some (.ok (world.shared key)))

theorem serve_unwritten (choice : Choice) (store : Store) (op : Op) (key : String)
    (unwritten : writtenKey op ≠ some key) : (serve choice store op).2 key = store key := by
  cases op with
  | redisSet written value seconds =>
    have other : key ≠ written := fun same => unwritten (congrArg some same.symm)
    cases executed : choice.reply.executed <;> simp [serve, executed, Function.update_of_ne other]
  | redisDelete written =>
    have other : key ≠ written := fun same => unwritten (congrArg some same.symm)
    cases executed : choice.reply.executed <;> simp [serve, executed, Function.update_of_ne other]
  | _ => rfl

theorem serve_set (choice : Choice) (store : Store) (key value : String) (seconds : Nat) :
    (serve choice store (.redisSet key value seconds)).2 key =
      if choice.reply.executed then some value else store key := by
  cases executed : choice.reply.executed <;> simp [serve, executed]

theorem view_of_current (world : World) (thread : Nat) (choice : Choice) (op : Op)
    (key : String) (view : current world (.move thread choice) = true)
    (asks : world.asking thread = some op) (writes : writtenKey op = some key) :
    world.shared key = none ∨
      lastGet key (world.histories thread) = some (.ok (world.shared key)) := by
  simpa [current, asks, writes] using view

theorem found_owner {platform : Platform} {store : Store} {key : String} {history : History}
    {owner : Owner} {found : Option SessionRecord} (recorded : store key = some owner.text)
    (view : store key = none ∨ lastGet key history = some (.ok (store key)))
    (looked : LookedUp platform key history found) : found = some owner.record := by
  obtain ⟨answer, last, reads⟩ := looked
  have seen : lastGet key history = some (.ok (some owner.text)) := by
    rcases view with absent | same
    · rw [recorded] at absent
      cases absent
    · rw [same, recorded]
  rw [seen] at last
  rw [← Option.some.inj last] at reads
  exact readRecord_text platform owner found reads

section Steps

variable {calls : Nat → Call} {sessionId : String} {owner : Owner} {world : World}
  (obeys : Pool.Obeys (fun thread => SessionWrite (calls thread).context) world)
  (recorded : Recorded world sessionId owner)
include obeys recorded

theorem recorded_set (thread : Nat) (choice : Choice) (value : String) (seconds : Nat)
    (asks : world.asking thread = some (.redisSet (sessionKey sessionId) value seconds))
    (view : current world (.move thread choice) = true) : value = owner.text := by
  obtain ⟨subject, found, _, isText, looked, allowed⟩ := obeys.permits thread _ asks
  have isOwner := found_owner recorded
    (view_of_current world thread choice _ _ view asks rfl) looked
  have own : callerOf (calls thread) subject = owner := by
    apply Owner.record_injective
    rcases allowed with absent | same
    · rw [absent] at isOwner
      cases isOwner
    · exact Option.some.inj (same.symm.trans isOwner)
  rw [← own, isText]
  rfl

theorem deleted_by_owner (thread : Nat) (choice : Choice)
    (asks : world.asking thread = some (.redisDelete (sessionKey sessionId)))
    (view : current world (.move thread choice) = true) :
    DeletedByOwner calls sessionId owner world (.move thread choice) := by
  obtain ⟨subject, auth, looked⟩ := obeys.permits thread _ asks
  have isOwner := found_owner recorded
    (view_of_current world thread choice _ _ view asks rfl) looked
  exact ⟨thread, choice, subject, rfl, asks, auth,
    Owner.record_injective _ _ (Option.some.inj isOwner)⟩

theorem recorded_step (turn : Turn Choice String) (view : current world turn = true) :
    Recorded (world.step rules turn) sessionId owner ∨
      Released calls sessionId owner world turn := by
  cases turn with
  | drift key =>
    by_cases same : key = sessionKey sessionId
    · exact .inr (.inl (by rw [same]))
    · left
      exact (Function.update_of_ne (Ne.symm same) none world.shared).trans recorded
  | move thread choice =>
    rw [Recorded, Pool.shared_step_move]
    cases asks : world.asking thread with
    | none => exact .inl recorded
    | some op =>
      by_cases written : writtenKey op = some (sessionKey sessionId)
      · cases op with
        | redisSet key value seconds =>
          obtain rfl : key = sessionKey sessionId := Option.some.inj written
          left
          have isOwner := recorded_set obeys recorded thread choice value seconds asks view
          refine (serve_set choice world.shared _ value seconds).trans ?_
          rw [isOwner, recorded, ite_self]
        | redisDelete key =>
          obtain rfl : key = sessionKey sessionId := Option.some.inj written
          exact .inr (.inr (deleted_by_owner obeys recorded thread choice asks view))
        | _ => cases written
      · exact .inl ((serve_unwritten choice world.shared op _ written).trans recorded)

end Steps

/-- Once a session is recorded for an owner it stays so until it expires or that owner
deletes it, in every interleaving whose session writes meet a current view. -/
theorem session_owner_stable (store : Store) (calls : Nat → Call)
    (before between : List (Turn Choice String)) (sessionId : String) (owner other : Owner)
    (views : Pool.Along rules (fun world turn => current world turn = true)
      ((start store calls).run rules before) between)
    (recorded : Recorded ((start store calls).run rules before) sessionId owner)
    (later : Recorded ((start store calls).run rules (before ++ between)) sessionId other)
    (different : other ≠ owner) :
    ∃ first turn rest, between = first ++ turn :: rest ∧
      Released calls sessionId owner ((start store calls).run rules (before ++ first)) turn := by
  have outcome := Pool.kept_or_released rules
    (fun world turn obeys view holds => recorded_step obeys holds turn view) between
    ((start store calls).run rules before) (Pool.Obeys.run rules
      (fun thread => (calls thread).writes) before) views recorded
  rw [← Pool.run_append] at outcome
  rcases outcome with kept | ⟨first, turn, rest, split, released⟩
  · have same : other.text = owner.text := Option.some.inj (later.symm.trans kept)
    exact absurd (Owner.text_injective other owner same) different
  · exact ⟨first, turn, rest, split, by rwa [Pool.run_append]⟩

/-! ## Two callers and one session id -/

def callerChoice (subjectId : String) : Choice where
  reply := .served
  env := ({ sampleSnapshot [] ⟨200, [("mcp-session-id", "session-0001")], []⟩ with
    authenticate := fun _ => .ok ⟨subjectId, .oauthSubject, ⟨1#128⟩⟩ } : Snapshot).answer

def callerTurns (thread : Nat) (subjectId : String) (count : Nat) :
    List (Turn Choice String) :=
  List.replicate count (.move thread (callerChoice subjectId))

def streamCalls (_ : Nat) : Call := .get (sampleContext "text/event-stream" [])

def sampleOwner (subjectId : String) : Owner := ⟨⟨1#128⟩, subjectId, "github-mcp"⟩

theorem session_owner_stable_sample :
    Recorded ((start (fun _ => none) streamCalls).run rules (callerTurns 0 "alice" 9))
        "session-0001" (sampleOwner "alice") ∧
      Recorded ((start (fun _ => none) streamCalls).run rules (callerTurns 0 "alice" 9 ++
        .drift (sessionKey "session-0001") :: callerTurns 1 "bob" 9))
        "session-0001" (sampleOwner "bob") ∧
      ∃ first turn rest,
        .drift (sessionKey "session-0001") :: callerTurns 1 "bob" 9 = first ++ turn :: rest ∧
        Released streamCalls "session-0001" (sampleOwner "alice")
          ((start (fun _ => none) streamCalls).run rules (callerTurns 0 "alice" 9 ++ first))
          turn := by
  have recorded : Recorded ((start (fun _ => none) streamCalls).run rules
      (callerTurns 0 "alice" 9)) "session-0001" (sampleOwner "alice") := by decide +kernel
  have later : Recorded ((start (fun _ => none) streamCalls).run rules
      (callerTurns 0 "alice" 9 ++ .drift (sessionKey "session-0001") :: callerTurns 1 "bob" 9))
      "session-0001" (sampleOwner "bob") := by decide +kernel
  exact ⟨recorded, later, session_owner_stable _ _ _ _ _ _ _ (by decide +kernel) recorded later
    (by decide)⟩

/-- Two streams look the issued id up before either records it; the second caller then
takes the session over. -/
theorem racing_streams_change_owner :
    ¬ ∀ (store : Store) (calls : Nat → Call) (before between : List (Turn Choice String))
      (sessionId : String) (owner other : Owner),
      Recorded ((start store calls).run rules before) sessionId owner →
      Recorded ((start store calls).run rules (before ++ between)) sessionId other →
      other ≠ owner →
      ∃ first turn rest, between = first ++ turn :: rest ∧
        Released calls sessionId owner ((start store calls).run rules (before ++ first)) turn := by
  intro stable
  obtain ⟨first, turn, rest, split, released⟩ := stable (fun _ => none) streamCalls
    (callerTurns 0 "alice" 8 ++ callerTurns 1 "bob" 8 ++ callerTurns 0 "alice" 1)
    (callerTurns 1 "bob" 1) "session-0001" (sampleOwner "alice") (sampleOwner "bob")
    (by decide +kernel) (by decide +kernel) (by decide)
  obtain ⟨rfl, ⟨rfl, _⟩⟩ : first = [] ∧ .move 1 (callerChoice "bob") = turn ∧ rest = [] := by
    cases first with
    | nil => simpa [callerTurns] using split
    | cons head tail => simp [callerTurns] at split
  rcases released with expired | ⟨thread, choice, subject, moved, asks, _⟩
  · cases expired
  cases moved
  have setsIt : (((start (fun _ => none) streamCalls).run rules
      (callerTurns 0 "alice" 8 ++ callerTurns 1 "bob" 8 ++ callerTurns 0 "alice" 1 ++
        [])).asking 1).any (fun op => op matches .redisDelete _) = false := by
    decide +kernel
  rw [asks] at setsIt
  cases setsIt

end Portcullis.Gateway.SessionRace
