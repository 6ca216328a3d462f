import Portcullis.Gateway.SessionRace
import Portcullis.Gateway.Stages

/-!
# Effects of one request on the session store

A request alone with the store.  Redis may fail a command before or after it took
effect, so the answers alone do not show what became of the records; the replies do.
A request that the gateway refuses changes an owner exactly by a deletion of the
presented session or by a recording that took effect.
-/

namespace Portcullis.Gateway.SessionEffects

open Auth.Rbac Gateway.JsonRpc Gateway.Mediation Gateway.Router Gateway.Session Gateway.SessionRace
  Gateway.Stages Lib Models List

/-! ## Runs against a store -/

/-- The events of a run with the reply Redis gave to each. -/
abbrev Played := List (Reply × Event Op Ans)

def history (played : Played) : History := played.map Prod.snd

inductive Plays : Store → Played → Store → Prop where
  | done (store : Store) : Plays store [] store
  | step {store final : Store} {choice : Choice} {event : Event Op Ans} {rest : Played}
      (answered : event.answer = (serve choice store event.op).1)
      (later : Plays (serve choice store event.op).2 rest final) :
      Plays store ((choice.reply, event) :: rest) final

/-- A command that Redis executed. -/
def Executed (played : Played) (op : Op) : Prop :=
  ∃ reply answer, (reply, ⟨op, answer⟩) ∈ played ∧ reply.executed = true

def Unwritten (run : History) : Prop := ∀ event ∈ run, kind event.op ≠ .sessionWrite

theorem Of.unwritten {kinds : List Kind} {run : History} (within : Of kinds run)
    (other : Kind.sessionWrite ∉ kinds := by decide) : Unwritten run :=
  fun event mem same => other (same ▸ within event mem)

theorem Unwritten.append {first rest : History} (left : Unwritten first) (right : Unwritten rest) :
    Unwritten (first ++ rest) := by
  intro event mem
  rcases mem_append.mp mem with before | after
  · exact left event before
  · exact right event after

theorem serve_of_unwritten (choice : Choice) (store : Store) (op : Op)
    (other : kind op ≠ .sessionWrite) :
    (serve choice store op).2 = store := by
  cases op with
  | redisSet key value seconds => exact absurd rfl other
  | redisDelete key => exact absurd rfl other
  | _ => rfl

section Plays

variable {store final : Store} {played : Played}

theorem Plays.split_cons {event : Event Op Ans} {rest : History}
    (plays : Plays store played final) (shape : history played = event :: rest) :
    ∃ choice late, played = (choice.reply, event) :: late ∧ history late = rest ∧
      event.answer = (serve choice store event.op).1 ∧
      Plays (serve choice store event.op).2 late final := by
  cases plays with
  | done => cases shape
  | @step _ _ choice _ late ans later =>
    obtain ⟨rfl, same⟩ := List.cons.inj shape
    exact ⟨choice, late, rfl, same, ans, later⟩

theorem Plays.split {first rest : History} (plays : Plays store played final)
    (shape : history played = first ++ rest) :
    ∃ early late middle, played = early ++ late ∧ history early = first ∧ history late = rest ∧
      Plays store early middle ∧ Plays middle late final := by
  induction first generalizing store played with
  | nil => exact ⟨[], played, store, rfl, rfl, shape, .done store, plays⟩
  | cons event first ih =>
    obtain ⟨choice, late, rfl, shapeLate, ans, later⟩ := plays.split_cons shape
    obtain ⟨early, late, middle, rfl, shapeEarly, shapeRest, before, after⟩ := ih later shapeLate
    exact ⟨(choice.reply, event) :: early, late, middle, rfl, congrArg (event :: ·) shapeEarly,
      shapeRest, .step ans before, after⟩

theorem Plays.of_unwritten (plays : Plays store played final)
    (unwritten : Unwritten (history played)) :
    final = store := by
  induction plays with
  | done => rfl
  | @step store _ choice event _ _ _ ih =>
    rw [ih fun event mem => unwritten event (mem_cons_of_mem _ mem)]
    exact serve_of_unwritten choice store event.op (unwritten event mem_cons_self)

theorem Plays.read (plays : Plays store played final) (unwritten : Unwritten (history played))
    {key : String} {value : Option String}
    (saw : Saw (history played) (.redisGet key) (.ok value)) : store key = value := by
  induction plays with
  | done => cases saw
  | @step store _ choice event _ ans _ ih =>
    rcases mem_cons.mp saw with rfl | later
    · cases reply : choice.reply with
      | served =>
        rw [serve, reply] at ans
        exact (Except.ok.inj ans).symm
      | refused exn =>
        rw [serve, reply] at ans
        cases ans
      | lost exn =>
        rw [serve, reply] at ans
        cases ans
    · have same := serve_of_unwritten choice store event.op (unwritten event mem_cons_self)
      rw [same] at ih
      exact ih (fun event mem => unwritten event (mem_cons_of_mem _ mem)) later

/-- A program run with one reply to every command. -/
def steady {Value : Type} (choice : Choice) (store : Store) (program : Gate Value) : Played :=
  (Prog.drive (serve choice) store program).log.map fun entry => (choice.reply, entry.2)

theorem plays_steady {Value : Type} (choice : Choice) (store : Store) (prog : Gate Value) :
    Plays store (steady choice store prog) (Prog.drive (serve choice) store prog).final := by
  induction prog generalizing store with
  | ret value => exact .done store
  | fail failure => exact .done store
  | ask op next ih => exact .step rfl (ih _ _)

theorem runs_steady {Value : Type} (choice : Choice) (store : Store) (prog : Gate Value) :
    Prog.Runs prog (history (steady choice store prog))
      (Prog.drive (serve choice) store prog).outcome := by
  have runs := Prog.runs_drive (serve choice) store prog
  rw [history, steady, map_map]
  exact runs

theorem not_executed_of_unwritten (unwritten : Unwritten (history played)) {op : Op}
    (write : kind op = .sessionWrite) : ¬ Executed played op := by
  rintro ⟨reply, answer, mem, _⟩
  exact unwritten ⟨op, answer⟩ (mem_map.mpr ⟨_, mem, rfl⟩) write

end Plays

/-! ## Owners -/

/-- The owner of a session id, as the store reads its record. -/
def ownerIn (ctx : Context) (store : Store) (sessionId : String) : Option SessionRecord :=
  (store (sessionKey sessionId)).bind (storedRecord ctx)

/-- No deletion of the presented session took effect, and every recording that took
effect wrote the owner that was there. -/
structure Undisturbed (ctx : Context) (store : Store) (played : Played) : Prop where
  kept : ¬ Executed played (.redisDelete (sessionKey (inboundId ctx)))
  rewritten : ∀ sessionId text seconds,
    Executed played (.redisSet (sessionKey sessionId) text seconds) →
      ownerIn ctx store sessionId = storedRecord ctx text

def Intact (ctx : Context) (store final : Store) : Prop :=
  ∀ sessionId, ownerIn ctx final sessionId = ownerIn ctx store sessionId

/-- The session writes of a refused request: none, the deletion of the presented session,
or the writes that record an issued one. -/
inductive Refusal (ctx : Context) : History → Prop where
  | quiet {run : History} (unwritten : Unwritten run) : Refusal ctx run
  | deleted {before after : History} {subject : Subject} {answer : Except Exn Unit}
      (session : SessionOwned ctx before subject) (presented : inboundId ctx ≠ "")
      (early : Unwritten before) (late : Unwritten after) :
      Refusal ctx (before ++ ⟨.redisDelete (sessionKey (inboundId ctx)), answer⟩ :: after)
  | persisted {before after : History} {subject : Subject} {upstream : UpstreamResponse}
      {dropped answer : Except Exn Unit} (session : SessionOwned ctx before subject)
      (early : Unwritten before) (late : Unwritten after) :
      Refusal ctx (before ++ (replacing ctx upstream dropped ++
        recording ctx subject upstream answer :: after))

section Owners

variable {ctx : Context} {store final : Store} {played : Played}

theorem ownerIn_update (sessionId other : String) (value : Option String) :
    ownerIn ctx (Function.update store (sessionKey sessionId) value) other =
      if other = sessionId then value.bind (storedRecord ctx) else ownerIn ctx store other := by
  unfold ownerIn
  split
  · rename_i same
    rw [same, Function.update_self]
  · rename_i ne
    rw [Function.update_of_ne fun same => ne (sessionKey_injective _ _ same)]

theorem owner_of_session {subject : Subject} (plays : Plays store played final)
    (unwritten : Unwritten (history played)) (session : SessionOwned ctx (history played) subject)
    (presented : inboundId ctx ≠ "") : (ownerIn ctx store (inboundId ctx)).isSome = true := by
  have sent : ctx.request.header "mcp-session-id" = some (inboundId ctx) := by
    unfold inboundId at presented ⊢
    cases header : ctx.request.header "mcp-session-id" with
    | none => simp [header] at presented
    | some sessionId => rfl
  obtain ⟨_, raw, saw, own⟩ := session _ sent presented
  rw [ownerIn, plays.read unwritten saw, Option.bind_some, own]
  rfl

theorem intact_set_iff (executed : Bool) (sessionId text : String) : Intact ctx store
        (if executed then Function.update store (sessionKey sessionId) (some text) else store) ↔
      (executed = true → ownerIn ctx store sessionId = storedRecord ctx text) := by
  cases executed with
  | false => simp [Intact]
  | true =>
    simp only [Intact, if_true, ownerIn_update, Option.bind_some, forall_const]
    constructor
    · intro intact
      have here := intact sessionId
      rw [if_pos rfl] at here
      exact here.symm
    · intro same other
      split
      · rename_i here
        rw [here, same]
      · rfl

theorem executed_append (first rest : Played) (op : Op) :
    Executed (first ++ rest) op ↔ Executed first op ∨ Executed rest op := by
  simp only [Executed, mem_append, or_and_right, exists_or]

theorem executed_cons (reply : Reply) (event : Event Op Ans) (rest : Played) (op : Op) :
    Executed ((reply, event) :: rest) op ↔
      (event.op = op ∧ reply.executed = true) ∨ Executed rest op := by
  constructor
  · rintro ⟨taken, answer, mem, executed⟩
    rcases mem_cons.mp mem with here | later
    · cases here
      exact .inl ⟨rfl, executed⟩
    · exact .inr ⟨taken, answer, later, executed⟩
  · rintro (⟨rfl, executed⟩ | ⟨taken, answer, later, executed⟩)
    · exact ⟨reply, event.answer, mem_cons_self, executed⟩
    · exact ⟨taken, answer, mem_cons_of_mem _ later, executed⟩

theorem executed_within {first middle last : Played} {op : Op}
    (early : Unwritten (history first)) (late : Unwritten (history last))
    (write : kind op = .sessionWrite) :
    Executed (first ++ (middle ++ last)) op ↔ Executed middle op := by
  rw [executed_append, executed_append]
  simp only [not_executed_of_unwritten early write, not_executed_of_unwritten late write,
    false_or, or_false]

theorem writing_part (ctx : Context) {before writes after : History} (early : Unwritten before)
    (late : Unwritten after) (plays : Plays store played final)
    (shape : history played = before ++ (writes ++ after)) :
    ∃ first middle, history first = before ∧ history middle = writes ∧ Plays store first store ∧
      Plays store middle final ∧
      (Undisturbed ctx store played ↔ Undisturbed ctx store middle) := by
  obtain ⟨first, rest, _, rfl, rfl, shapeRest, beginning, onward⟩ := plays.split shape
  obtain ⟨middle, last, _, rfl, rfl, rfl, writing, ending⟩ := onward.split shapeRest
  cases beginning.of_unwritten early
  cases ending.of_unwritten late
  refine ⟨first, middle, rfl, rfl, beginning, writing, ?_, ?_⟩
  · rintro ⟨kept, rewritten⟩
    exact ⟨fun taken => kept ((executed_within early late rfl).mpr taken),
      fun sessionId text seconds taken =>
        rewritten sessionId text seconds ((executed_within early late rfl).mpr taken)⟩
  · rintro ⟨kept, rewritten⟩
    exact ⟨fun taken => kept ((executed_within early late rfl).mp taken),
      fun sessionId text seconds taken =>
        rewritten sessionId text seconds ((executed_within early late rfl).mp taken)⟩

theorem intact_after_delete_iff {rest : Played} {choice : Choice} {answer : Except Exn Unit}
    (owned : (ownerIn ctx store (inboundId ctx)).isSome = true)
    (untouched : ownerIn ctx final (inboundId ctx) = ownerIn ctx
      (serve choice store (.redisDelete (sessionKey (inboundId ctx)))).2 (inboundId ctx))
    (without : choice.reply.executed = false →
      (Intact ctx store final ↔ Undisturbed ctx store rest)) :
    Intact ctx store final ↔ Undisturbed ctx store
      ((choice.reply, ⟨.redisDelete (sessionKey (inboundId ctx)), answer⟩) :: rest) := by
  cases executed : choice.reply.executed with
  | true =>
    refine iff_of_false (fun intact => ?_) fun undisturbed => undisturbed.kept ?_
    · rw [serve, executed, if_pos rfl, ownerIn_update, if_pos rfl, Option.bind_none] at untouched
      rw [← intact, untouched] at owned
      cases owned
    · exact (executed_cons _ _ _ _).mpr (.inl ⟨rfl, executed⟩)
  | false =>
    rw [without executed]
    constructor
    · rintro ⟨kept, rewritten⟩
      refine ⟨fun taken => ?_, fun other text seconds taken => ?_⟩
      · rcases (executed_cons _ _ _ _).mp taken with ⟨_, here⟩ | later
        · rw [here] at executed
          cases executed
        · exact kept later
      · rcases (executed_cons _ _ _ _).mp taken with ⟨no, _⟩ | later
        · cases no
        · exact rewritten other text seconds later
    · rintro ⟨kept, rewritten⟩
      exact ⟨fun taken => kept ((executed_cons _ _ _ _).mpr (.inr taken)),
        fun other text seconds taken =>
          rewritten other text seconds ((executed_cons _ _ _ _).mpr (.inr taken))⟩

theorem undisturbed_nil : Undisturbed ctx store [] := by
  constructor
  · rintro ⟨_, _, mem, _⟩
    cases mem
  · rintro _ _ _ ⟨_, _, mem, _⟩
    cases mem

theorem intact_after_set_iff {choice : Choice} {sessionId text : String} {seconds : Nat}
    {answer : Except Exn Unit} :
    Intact ctx store (serve choice store (.redisSet (sessionKey sessionId) text seconds)).2 ↔
      Undisturbed ctx store
        [(choice.reply, ⟨.redisSet (sessionKey sessionId) text seconds, answer⟩)] := by
  refine (intact_set_iff choice.reply.executed sessionId text).trans ⟨fun same => ?_, ?_⟩
  · refine ⟨fun taken => ?_, fun other written lifetime taken => ?_⟩
    · rcases (executed_cons _ _ _ _).mp taken with ⟨no, _⟩ | ⟨_, _, mem, _⟩
      · cases no
      · cases mem
    · rcases (executed_cons _ _ _ _).mp taken with ⟨sameOp, executed⟩ | ⟨_, _, mem, _⟩
      · obtain ⟨sameKey, sameText, _⟩ := Op.redisSet.inj sameOp
        rw [← sessionKey_injective _ _ sameKey, ← sameText]
        exact same executed
      · cases mem
  · rintro ⟨_, rewritten⟩ executed
    exact rewritten sessionId text seconds ((executed_cons _ _ _ _).mpr (.inl ⟨rfl, executed⟩))

theorem Refusal.intact_iff {run : History} (refusal : Refusal ctx run)
    (plays : Plays store played final) (shape : history played = run) :
    Intact ctx store final ↔ Undisturbed ctx store played := by
  cases refusal with
  | quiet unwritten =>
    rw [← shape] at unwritten
    cases plays.of_unwritten unwritten
    refine iff_of_true (fun _ => rfl) ⟨not_executed_of_unwritten unwritten rfl, ?_⟩
    exact fun _ _ _ taken => absurd taken (not_executed_of_unwritten unwritten rfl)
  | @deleted before after subject answer session presented early late =>
    have parts : history played = before ++
        ([⟨.redisDelete (sessionKey (inboundId ctx)), answer⟩] ++ after) := shape
    obtain ⟨first, middle, rfl, shapeMiddle, beginning, writing, same⟩ :=
      writing_part ctx early late plays parts
    obtain ⟨choice, rest, rfl, empty, _, ending⟩ := writing.split_cons shapeMiddle
    cases map_eq_nil_iff.mp empty
    cases ending
    rw [same]
    refine intact_after_delete_iff (owner_of_session beginning early session presented) rfl ?_
    intro unexecuted
    refine iff_of_true (fun sessionId => ?_) undisturbed_nil
    rw [serve, unexecuted]
    rfl
  | @persisted before after subject upstream dropped answer session early late =>
    have parts : history played = before ++ ((replacing ctx upstream dropped ++
        [recording ctx subject upstream answer]) ++ after) := by
      rw [shape, append_assoc (replacing ctx upstream dropped)]
      rfl
    obtain ⟨first, middle, rfl, shapeMiddle, beginning, writing, same⟩ :=
      writing_part ctx early late plays parts
    rw [same]
    unfold replacing at shapeMiddle
    split at shapeMiddle
    · rename_i replaced
      obtain ⟨deletion, rest, rfl, shapeRest, _, onward⟩ := writing.split_cons shapeMiddle
      obtain ⟨choice, none, rfl, empty, _, ending⟩ := onward.split_cons shapeRest
      cases map_eq_nil_iff.mp empty
      cases ending
      apply intact_after_delete_iff (owner_of_session beginning early session replaced.1)
      · -- the issued id is another one
        unfold ownerIn
        rw [serve_unwritten]
        intro sameKey
        exact replaced.2 (sessionKey_injective _ _ (Option.some.inj sameKey)).symm
      · intro unexecuted
        have alone : (serve deletion store
            (.redisDelete (sessionKey (inboundId ctx)))).2 = store := by
          rw [serve, unexecuted]
          rfl
        rw [alone]
        exact intact_after_set_iff
    · obtain ⟨choice, rest, rfl, empty, _, ending⟩ := writing.split_cons shapeMiddle
      cases map_eq_nil_iff.mp empty
      cases ending
      exact intact_after_set_iff

end Owners

/-! ## Refused requests -/

/-- The handler of a request, behind the plugins; an early return is an error response. -/
def handler : Call → Gate Response
  | .post ctx => answerPost ctx
  | .get ctx => exceptAll (handleGet ctx) fun _ => respond (internalError ctx none)

section Refusals

variable {ctx : Context} {subject : Subject} {rpc : JsonRpcRequest} {run : History} {exit : Exit}

theorem persistRun_refusal {front persisting after : History} {upstream : UpstreamResponse}
    {outcome : Except Exit Headers} (session : SessionOwned ctx front subject)
    (early : Unwritten front) (late : Unwritten after)
    (persist : PersistRun ctx subject upstream persisting outcome) :
    Refusal ctx (front ++ (persisting ++ after)) := by
  have written : ∀ (reads : History) (dropped answer : Except Exn Unit), Of [.sessionRead] reads →
      Refusal ctx (front ++ (reads ++ replacing ctx upstream dropped ++
        [recording ctx subject upstream answer] ++ after)) := by
    intro reads dropped answer uses
    have refusal := @Refusal.persisted ctx (front ++ reads) after subject upstream dropped answer
      (session.mono (prefix_append _ _)) (early.append (Of.unwritten uses)) late
    simpa using refusal
  cases persist with
  | unissued _ => exact .quiet (early.append late)
  | refused _ uses => exact .quiet (early.append ((Of.unwritten uses).append late))
  | recorded _ uses => exact written _ _ _ uses
  | unrecorded _ uses => exact written _ _ _ uses

theorem answerRun_refusal {front answering : History} {rlHeaders : Headers} {stream : Bool}
    {upstream : UpstreamResponse} (session : SessionOwned ctx front subject)
    (early : Unwritten front)
    (answer : AnswerRun ctx subject rpc rlHeaders stream upstream answering (.error exit)) :
    Refusal ctx (front ++ answering) := by
  have nothing : Unwritten [] := Of.unwritten (of_nil []) (by simp)
  cases answer with
  | oversized _ _ _ => exact .quiet (early.append nothing)
  | unpersisted _ _ persist =>
    have refusal := persistRun_refusal session early nothing persist
    rwa [append_nil] at refusal
  | filtered _ _ persist _ _ filter =>
    exact persistRun_refusal session early (Of.unwritten
      ((filteredResponse_ensures ctx [] subject _ _ upstream _).of filter)) persist

theorem proxyRun_refusal {server : McpServer} {checks proxying : History}
    (cleared : Cleared ctx checks subject)
    (proxied : ProxyRun ctx subject server rpc proxying (.error exit)) :
    Refusal ctx (checks ++ proxying) := by
  have checked := Of.unwritten cleared.uses
  cases proxied with
  | limited uses _ => exact .quiet (checked.append (Of.unwritten uses))
  | capped allowance _ uses _ =>
    exact .quiet (checked.append
      ((Of.unwritten allowance.uses).append (Of.unwritten uses)))
  | failed allowance _ uses _ =>
    exact .quiet (checked.append (((Of.unwritten allowance.uses).append
      (Of.unwritten uses)).append (by simp [Unwritten, kind])))
  | @answered limiting preparing answering _ call upstream _ allowance _ uses _ answer =>
    have early : Unwritten (checks ++ (limiting ++ preparing ++ [⟨.forward call, .ok upstream⟩])) :=
      checked.append (((Of.unwritten allowance.uses).append
        (Of.unwritten uses)).append (by simp [Unwritten, kind]))
    have refusal := answerRun_refusal (cleared.session.mono (prefix_append _ _)) early answer
    simpa using refusal

theorem postRun_refusal (posted : PostRun ctx rpc run (.error exit)) : Refusal ctx run := by
  cases posted with
  | unidentified refused =>
    exact .quiet (Of.unwritten ((runPreAuthChecks_ensures ctx [] rpc.id).of refused))
  | unresolved identified uses =>
    exact .quiet ((Of.unwritten identified.uses).append (Of.unwritten uses))
  | unpermitted cleared _ decided =>
    exact .quiet ((Of.unwritten cleared.uses).append
      (Of.unwritten ((checkPermission_ensures ctx [] _ rpc).of decided)))
  | terminating cleared _ terminate =>
    have checked := Of.unwritten cleared.uses
    cases terminate with
    | refused uses _ => exact .quiet (checked.append (Of.unwritten uses))
    | failed uses _ presented built =>
      rw [← append_assoc]
      exact .deleted (cleared.session.mono (prefix_append _ _)) presented
        (checked.append (Of.unwritten uses))
        ((Of.unwritten built).append (by simp [Unwritten, kind]))
  | proxying cleared _ _ proxied => exact proxyRun_refusal cleared proxied

theorem getRun_refusal (got : GetRun ctx run (.error exit)) : Refusal ctx run := by
  cases got with
  | unidentified refused =>
    exact .quiet (Of.unwritten ((runPreAuthChecks_ensures ctx [] none).of refused))
  | stopped uses => exact .quiet (Of.unwritten uses)
  | failed cleared uses =>
    exact .quiet (((Of.unwritten cleared.uses).append
      (Of.unwritten uses)).append (by simp [Unwritten, kind]))
  | @unpersisted checks preparing persisting subject call upstream _ cleared uses persist =>
    have early : Unwritten (checks ++ preparing ++ [⟨.forward call, .ok upstream⟩]) :=
      ((Of.unwritten cleared.uses).append (Of.unwritten uses)).append
        (by simp [Unwritten, kind])
    have session : SessionOwned ctx
        (checks ++ preparing ++ [⟨.forward call, .ok upstream⟩]) subject :=
      cleared.session.mono ((prefix_append _ _).trans (prefix_append _ _))
    have refusal := persistRun_refusal session early (Of.unwritten (of_nil []) (by simp)) persist
    simpa using refusal

theorem handler_refusal (call : Call) (resp : Response)
    (runs : Prog.Runs (handler call) run (.error (.respond resp))) :
    Refusal call.context run := by
  cases call with
  | post ctx =>
    rcases answerPost_run runs with ⟨rfl, _⟩ | ⟨rpc, inner, _, posted, ended⟩
    · exact .quiet (Of.unwritten (of_nil []) (by simp))
    · cases inner with
      | ok value => cases ended
      | error exit => exact postRun_refusal posted
  | get ctx =>
    obtain ⟨inner, handled, ended⟩ := caught_run runs
    cases inner with
    | ok value => cases ended
    | error exit => exact getRun_refusal (handleGet_run handled)

end Refusals

def sampleStore : Store :=
  Function.update (fun _ => none) (sessionKey "session-0001")
    (some (payloadText sampleSubject.tenantId sampleSubject.subjectId "github-mcp"))

def terminateCall : Call :=
  .post (inSession (sampleContext "application/json" terminateBody) "session-0001")

def unreachable : Choice where
  reply := .served
  env := Snapshot.answer
    { sampleSnapshot [] emptyUpstream with upstream := fun _ => .error .upstreamError }

def refuses (outcome : Except Exit Response) : Bool :=
  match outcome with
  | .error (.respond _) => true
  | _ => false

theorem exists_of_refuses {outcome : Except Exit Response} (refused : refuses outcome = true) :
    ∃ resp, outcome = .error (.respond resp) := by
  cases outcome with
  | ok resp => cases refused
  | error exit =>
    cases exit with
    | respond resp => exact ⟨resp, rfl⟩
    | raise exn => cases refused

theorem terminate_refused : refuses (Prog.drive (serve unreachable) sampleStore
    (handler terminateCall)).outcome = true := by
  decide +kernel

end Portcullis.Gateway.SessionEffects
