import Portcullis.Gateway.SessionEffects

/-!
# Session ids handed to clients

A response hands out a session id in its `Mcp-Session-Id` header.  A request that the
upstream answers with an id gets it after the record is stored; a notification gets
whatever the upstream sent, and nothing is stored.
-/

namespace Portcullis.Gateway.SessionHandout

open Auth.Rbac Auth.ToolFilter Gateway.JsonRpc Gateway.Mediation Gateway.Router Gateway.Session
  Gateway.SessionEffects Gateway.SessionRace Gateway.SessionText Gateway.Stages Lib
  Limits.RedisBucket Models

/-! ## Handing out -/

/-- The run recorded the session for the caller, and Redis answered that it did. -/
structure HandedOut (ctx : Context) (subject : Subject) (run : History) (sessionId : String) :
    Prop where
  valid : isValidSessionId sessionId = true
  recorded : ∃ before after upstream dropped, Unwritten before ∧ Unwritten after ∧
    issuedId upstream = sessionId ∧
    run = before ++ (replacing ctx upstream dropped ++
      [recording ctx subject upstream (.ok ())] ++ after)

section Handing

variable {ctx : Context} {subject : Subject} {rpc : JsonRpcRequest} {run : History}
  {sessionId : String} {response : Response}

theorem handed_of_persist {front persisting after : History} {upstream : UpstreamResponse}
    {headers : Headers} (early : Unwritten front) (late : Unwritten after)
    (persist : PersistRun ctx subject upstream persisting (.ok headers))
    (handed : ("Mcp-Session-Id", sessionId) ∈ headers) :
    HandedOut ctx subject (front ++ (persisting ++ after)) sessionId := by
  cases persist with
  | unissued _ => cases handed
  | @recorded reads dropped valid uses =>
    obtain rfl : sessionId = issuedId upstream := by simpa using handed
    refine ⟨valid, front ++ reads, after, upstream, dropped,
      early.append (Of.unwritten uses), late, rfl, ?_⟩
    simp

theorem mem_session_headers {rlHeaders sessionHeaders : Headers} (plain : Anonymous rlHeaders)
    (handed : ("Mcp-Session-Id", sessionId) ∈
      rlHeaders ++ requestIdHeaders ctx.request ++ sessionHeaders) :
    ("Mcp-Session-Id", sessionId) ∈ sessionHeaders := by
  rcases List.mem_append.mp handed with before | after
  · exact absurd before (plain.append (anonymous_requestId ctx.request) sessionId)
  · exact after

theorem answerRun_hands {front answering : History} {rlHeaders : Headers} {stream : Bool}
    {upstream : UpstreamResponse} (early : Unwritten front) (plain : Anonymous rlHeaders)
    (answer : AnswerRun ctx subject rpc rlHeaders stream upstream answering (.ok response))
    (handed : ("Mcp-Session-Id", sessionId) ∈ response.headers) :
    (rpc.id = none ∧ answering = []) ∨
      (rpc.id ≠ none ∧ HandedOut ctx subject (front ++ answering) sessionId) := by
  cases answer with
  | notified notification => exact .inl ⟨notification, rfl⟩
  | streamed named _ persist _ =>
    have out := handed_of_persist early (Of.unwritten (of_nil []) (by simp)) persist
      (mem_session_headers plain handed)
    rw [List.append_nil] at out
    exact .inr ⟨named, out⟩
  | filtered named _ persist _ _ filter =>
    rw [ensured (filteredResponse_ensures ctx [] subject _ _ upstream _) filter] at handed
    exact .inr ⟨named, handed_of_persist early (Of.unwritten
      ((filteredResponse_ensures ctx [] subject _ _ upstream _).of filter)) persist
      (mem_session_headers plain handed)⟩
  | buffered named _ persist _ _ =>
    refine .inr ⟨named, handed_of_persist early ?_ persist (mem_session_headers plain handed)⟩
    unfold auditing
    split <;> simp [Unwritten, kind]

theorem postRun_hands (posted : PostRun ctx rpc run (.ok response))
    (handed : ("Mcp-Session-Id", sessionId) ∈ response.headers) :
    ∃ subject, (∀ other, Authenticated run other ↔ other = subject) ∧
      ((rpc.id = none ∧ Unwritten run) ∨
        (rpc.id ≠ none ∧ HandedOut ctx subject run sessionId)) := by
  cases posted with
  | terminating _ _ terminate =>
    cases terminate with
    | answered _ _ limits _ _ plain _ =>
      obtain ⟨result, rfl⟩ := limits
      rw [plain] at handed
      exact absurd handed
        ((anonymous_rateLimit result).append (anonymous_requestId ctx.request) sessionId)
  | @proxying checks proxying subject server _ cleared _ _ proxied =>
    refine ⟨subject, fun other => (authenticated_append proxied.uses other).trans
      (cleared.only other), ?_⟩
    cases proxied with
    | explained allowance _ plain =>
      obtain ⟨result, rfl⟩ := allowance.headers
      rw [plain] at handed
      exact absurd handed (((anonymous_rateLimit result).append
        (anonymous_requestId ctx.request)).append (by simp [Anonymous]) sessionId)
    | @answered limiting preparing answering _ call upstream _ allowance _ uses _ answer =>
      obtain ⟨result, rfl⟩ := allowance.headers
      have early : Unwritten (checks ++
          (limiting ++ preparing ++ [⟨.forward call, .ok upstream⟩])) :=
        (Of.unwritten cleared.uses).append
          (((Of.unwritten allowance.uses).append
            (Of.unwritten uses)).append (by simp [Unwritten, kind]))
      rcases answerRun_hands early (anonymous_rateLimit result) answer handed with
        ⟨notification, rfl⟩ | ⟨named, out⟩
      · exact .inl ⟨notification, early⟩
      · exact .inr ⟨named, by simpa using out⟩

theorem getRun_hands (got : GetRun ctx run (.ok response))
    (handed : ("Mcp-Session-Id", sessionId) ∈ response.headers) :
    ∃ subject, (∀ other, Authenticated run other ↔ other = subject) ∧
      HandedOut ctx subject run sessionId := by
  cases got with
  | @answered checks preparing persisting subject call upstream _ sessionHeaders cleared uses
      limits persist =>
      obtain ⟨result, rfl⟩ := limits
      have early : Unwritten (checks ++ preparing ++ [⟨.forward call, .ok upstream⟩]) :=
        ((Of.unwritten cleared.uses).append (Of.unwritten uses)).append
          (by simp [Unwritten, kind])
      have out := handed_of_persist early (Of.unwritten (of_nil []) (by simp)) persist
        (mem_session_headers (anonymous_rateLimit result) handed)
      have later : Of [.limits, .metering, .environ, .upstream, .sessionRead, .sessionWrite]
          (preparing ++ ⟨.forward call, .ok upstream⟩ :: persisting) := by
        apply of_append uses.mono
        exact of_cons persist.uses.mono
      refine ⟨subject, fun other => ?_, by simpa using out⟩
      rw [List.append_assoc]
      exact (authenticated_append later other).trans (cleared.only other)

theorem HandedOut.stored {store final : Store} {played : Played}
    (out : HandedOut ctx subject (history played) sessionId) (plays : Plays store played final) :
    final (sessionKey sessionId) = some (ownText ctx subject) := by
  obtain ⟨before, after, upstream, dropped, early, late, rfl, shape⟩ := out.recorded
  obtain ⟨_, middle, _, shapeMiddle, _, writing, _⟩ := writing_part ctx early late plays shape
  obtain ⟨_, last, between, rfl, _, shapeLast, _, setting⟩ := writing.split shapeMiddle
  obtain ⟨choice, rest, rfl, empty, ans, ending⟩ := setting.split_cons shapeLast
  cases List.map_eq_nil_iff.mp empty
  cases ending
  have executed : choice.reply.executed = true := by
    cases reply : choice.reply with
    | served => rfl
    | refused exn =>
      simp only [serve, reply] at ans
      cases ans
    | lost exn => rfl
  refine (serve_set choice between _ _ _).trans ?_
  rw [executed, if_pos rfl]

end Handing

/-! ## Use by the client -/

/-- The id is valid and the store holds it as a session of the caller. -/
structure Usable (ctx : Context) (subject : Subject) (store : Store) (sessionId : String) :
    Prop where
  valid : isValidSessionId sessionId = true
  owned : ownerIn ctx store sessionId = some (ownRecord ctx subject)

def followUp (ctx : Context) (sessionId : String) : Context :=
  { ctx with request :=
    { ctx.request with
      headers := ("mcp-session-id", sessionId) ::
        ctx.request.headers.filter fun header => header.1 ≠ "mcp-session-id" } }

/-- The next request passes `validate_session`, with Redis available. -/
def Admits (ctx : Context) (subject : Subject) (store : Store) (sessionId : String) : Prop :=
  ∀ env rpcId, (Prog.drive (serve ⟨.served, env⟩) store
    (validateSession (followUp ctx sessionId) subject rpcId)).outcome = .ok ()

section Using

variable {ctx : Context} {subject : Subject} {store : Store} {sessionId : String}

theorem storedRecord_ownText (decodes : 0 < ctx.platform.jsonLimits.depth) :
    storedRecord ctx (ownText ctx subject) = some (ownRecord ctx subject) := by
  rw [storedRecord, ownText, parse_payloadText, if_neg (Nat.pos_iff_ne_zero.mp decodes)]
  rfl

theorem drive_lookup (env : (op : Op) → Ans op) {record : SessionRecord}
    (owned : ownerIn ctx store sessionId = some record) :
    (Prog.drive (serve ⟨.served, env⟩) store (lookup ctx.platform sessionId)).outcome =
      .ok (some record) := by
  obtain ⟨raw, held, read⟩ := Option.bind_eq_some_iff.mp owned
  unfold storedRecord at read
  cases parsed : (Json.parseText ctx.platform.jsonLimits raw.toList).map (Json.resolve .last) with
  | error failure =>
    rw [parsed] at read
    cases read
  | ok payload =>
    rw [parsed] at read
    unfold Session.lookup
    simp only [Prog.drive, request, Prog.request, bind, Prog.bind, serve, Reply.answer, held,
      parsed, orRaise, pure, read]

theorem Usable.admits (usable : Usable ctx subject store sessionId) :
    Admits ctx subject store sessionId := by
  intro env rpcId
  have header : (followUp ctx sessionId).request.header "mcp-session-id" = some sessionId := rfl
  have ne : sessionId ≠ "" := by
    rintro rfl
    cases usable.valid
  have own : matchesOwner (some (ownRecord ctx subject)) subject.tenantId subject.subjectId
      (followUp ctx sessionId).request.serverSlug = true := by
    simp [matchesOwner, ownRecord, followUp]
  unfold validateSession
  rw [header]
  dsimp only
  rw [if_neg ne, if_neg (by simp [usable.valid])]
  have looked : (Prog.drive (serve ⟨.served, env⟩) store
      (lookup (followUp ctx sessionId).platform sessionId)).outcome =
        .ok (some (ownRecord ctx subject)) :=
    drive_lookup env usable.owned
  have caught : (Prog.drive (serve ⟨.served, env⟩) store
      (exceptAll (lookup (followUp ctx sessionId).platform sessionId) fun _ => respond
        ((followUp ctx sessionId).error 503 rpcId internalErrorCode
          "Session backend unavailable"))).outcome = .ok (some (ownRecord ctx subject)) := by
    unfold exceptAll
    rw [Prog.drive_recover_ok _ _ _ _ _ looked]
    exact looked
  rw [Prog.drive_bind_ok (serve ⟨.served, env⟩) store _ _ _ caught]
  dsimp only
  rw [if_pos own]
  rfl

end Using

/-- The request is a notification. -/
def Notifies : Call → Prop
  | .post ctx => ∃ rpc, parseRequest ctx.platform.jsonLimits ctx.request.body = .ok rpc ∧
      rpc.id = none
  | .get _ => False

section Handed

variable {ctx : Context} {subject : Subject} {run : History} {response : Response}
  {sessionId : String}

theorem HandedOut.usable {store final : Store} {played : Played}
    (out : HandedOut ctx subject (history played) sessionId)
    (decodes : 0 < ctx.platform.jsonLimits.depth) (plays : Plays store played final) :
    Usable ctx subject final sessionId := by
  refine ⟨out.valid, ?_⟩
  rw [ownerIn, out.stored plays, Option.bind_some, storedRecord_ownText decodes]

theorem handler_ensures (call : Call) :
    Ensures (fun _ _ => True) [] (handler call) (fun _ _ => True) := by
  cases call with
  | post ctx => exact answerPost_ensures ⟨fun _ _ _ _ => trivial, fun _ => trivial⟩ []
  | get ctx =>
    exact (handleGet_ensures (fun _ _ _ _ => trivial) (fun _ _ => trivial) []).exceptAll
      fun _ _ => ensures_error

theorem returned_of_handed (call : Call) {inner : Except Exit Response}
    (runs : Prog.Runs (handler call) run inner) (ended : .ok response = settled inner)
    (handed : ("Mcp-Session-Id", sessionId) ∈ response.headers) : inner = .ok response := by
  cases inner with
  | ok answer => exact ended.symm
  | error exit =>
    cases exit with
    | raise exn => cases ended
    | respond early =>
      cases ended
      exact absurd handed ((ensured_exit (handler_ensures call) runs).2 sessionId)

theorem mcpProxy_hands (runs : Prog.Runs (mcpProxy ctx) run (.ok response))
    (auth : Authenticated run subject)
    (handed : ("Mcp-Session-Id", sessionId) ∈ response.headers) :
    ∃ rest rpc, run = ⟨.pluginPreAuth, none⟩ :: rest ∧
      parseRequest ctx.platform.jsonLimits ctx.request.body = .ok rpc ∧
      ((rpc.id = none ∧ Unwritten rest) ∨
        (rpc.id ≠ none ∧ HandedOut ctx subject rest sessionId)) := by
  rcases mcpProxy_run runs with ⟨_, rfl, _⟩ | ⟨rest, inner, rfl, answering, ended⟩
  · obtain ⟨token, saw⟩ := auth
    cases List.mem_singleton.mp saw
  obtain rfl := returned_of_handed (.post ctx) answering ended handed
  rcases answerPost_run answering with ⟨_, _, no⟩ | ⟨rpc, handled, parsed, posted, same⟩
  · cases no
  cases handled with
  | error exit => cases exit <;> cases same
  | ok value =>
    cases same
    obtain ⟨caller, only, ways⟩ := postRun_hands posted handed
    have named : Authenticated rest subject := by
      simpa [Authenticated, Saw] using auth
    obtain rfl := (only subject).mp named
    exact ⟨rest, rpc, rfl, parsed, ways⟩

theorem mcpSseStream_hands (runs : Prog.Runs (mcpSseStream ctx) run (.ok response))
    (auth : Authenticated run subject)
    (handed : ("Mcp-Session-Id", sessionId) ∈ response.headers) :
    HandedOut ctx subject run sessionId := by
  obtain ⟨inner, handling, ended⟩ := settled_run runs
  obtain rfl := returned_of_handed (.get ctx) handling ended handed
  obtain ⟨handled, got, same⟩ := caught_run handling
  cases handled with
  | error exit => cases exit <;> cases same
  | ok value =>
    cases same
    obtain ⟨caller, only, out⟩ := getRun_hands (handleGet_run got) handed
    obtain rfl := (only subject).mp auth
    exact out

end Handed

/-- A session id handed to a client is usable by it, exactly if the request is no
notification or the id was usable before. -/
theorem handed_session_usable_iff (call : Call) (store final : Store) (played : Played)
    (response : Response) (subject : Subject) (sessionId : String)
    (decodes : 0 < call.context.platform.jsonLimits.depth) (plays : Plays store played final)
    (runs : Prog.Runs call.program (history played) (.ok response))
    (authenticated : Authenticated (history played) subject)
    (handed : ("Mcp-Session-Id", sessionId) ∈ response.headers) :
    (Usable call.context subject final sessionId ∧ Admits call.context subject final sessionId) ↔
      (Notifies call → Usable call.context subject store sessionId) := by
  have both : (Usable call.context subject final sessionId ∧
      Admits call.context subject final sessionId) ↔ Usable call.context subject final sessionId :=
    ⟨fun usable => usable.1, fun usable => ⟨usable, usable.admits⟩⟩
  rw [both]
  cases call with
  | post ctx =>
    obtain ⟨rest, rpc, shape, parsed, ways⟩ := mcpProxy_hands runs authenticated handed
    obtain ⟨choice, late, rfl, rfl, _, playsLate⟩ := plays.split_cons shape
    rcases ways with ⟨notification, unwritten⟩ | ⟨request, out⟩
    · -- a notification leaves the store as it was
      rw [playsLate.of_unwritten unwritten]
      exact ⟨fun usable _ => usable, fun usable => usable ⟨rpc, parsed, notification⟩⟩
    · refine iff_of_true (out.usable decodes playsLate) ?_
      rintro ⟨other, otherParsed, notification⟩
      rw [parsed] at otherParsed
      cases otherParsed
      exact absurd notification request
  | get ctx =>
    have out := mcpSseStream_hands runs authenticated handed
    exact iff_of_true (out.usable decodes plays) fun notifies => notifies.elim

def issuing : Choice where
  reply := .served
  env := (sampleSnapshot [] ⟨200, [("mcp-session-id", "session-0001")], []⟩).answer

def hands (outcome : Except Exit Response) (sessionId : String) : Bool :=
  match outcome with
  | .ok response => response.headers.contains ("Mcp-Session-Id", sessionId)
  | .error _ => false

theorem exists_of_hands {outcome : Except Exit Response} {sessionId : String}
    (handed : hands outcome sessionId = true) :
    ∃ response, outcome = .ok response ∧ ("Mcp-Session-Id", sessionId) ∈ response.headers := by
  cases outcome with
  | error exit => cases handed
  | ok response => exact ⟨response, rfl, by simpa [hands] using handed⟩

def streamCall : Call := .get (sampleContext "text/event-stream" [])

theorem handed_session_usable_iff_sample : (Usable streamCall.context sampleSubject
          (Prog.drive (serve issuing) (fun _ => none) streamCall.program).final "session-0001" ∧
        Admits streamCall.context sampleSubject
          (Prog.drive (serve issuing) (fun _ => none) streamCall.program).final "session-0001") ↔
      (Notifies streamCall →
        Usable streamCall.context sampleSubject (fun _ => none) "session-0001") := by
  have facts : hands (Prog.drive (serve issuing) (fun _ => none) streamCall.program).outcome
        "session-0001" = true ∧
      Authenticated (history (steady issuing (fun _ => none) streamCall.program))
        sampleSubject := by
    decide +kernel
  obtain ⟨response, ended, handed⟩ := exists_of_hands facts.1
  have runs := runs_steady issuing (fun _ => none) streamCall.program
  rw [ended] at runs
  exact handed_session_usable_iff streamCall (fun _ => none) _ _ response sampleSubject
    "session-0001" (by decide) (plays_steady issuing (fun _ => none) streamCall.program) runs
    facts.2 handed

def initializedCall : Call :=
  .post (sampleContext "application/json"
    (Encoding.asciiBytes "\x7b\"jsonrpc\":\"2.0\",\"method\":\"notifications/initialized\"\x7d"))

/-- A notification hands out the upstream's session id and stores nothing. -/
theorem notification_hands_unknown_session :
    ¬ ∀ (call : Call) (store final : Store) (played : Played) (response : Response)
      (subject : Subject) (sessionId : String), 0 < call.context.platform.jsonLimits.depth →
      Plays store played final → Prog.Runs call.program (history played) (.ok response) →
      Authenticated (history played) subject →
      ("Mcp-Session-Id", sessionId) ∈ response.headers →
      Usable call.context subject final sessionId := by
  intro usable
  have facts : hands (Prog.drive (serve issuing) (fun _ => none) initializedCall.program).outcome
        "session-0001" = true ∧
      Authenticated (history (steady issuing (fun _ => none) initializedCall.program))
        sampleSubject ∧
      ownerIn initializedCall.context
        (Prog.drive (serve issuing) (fun _ => none) initializedCall.program).final
        "session-0001" = none := by
    decide +kernel
  obtain ⟨handing, auth, unknown⟩ := facts
  obtain ⟨response, ended, handed⟩ := exists_of_hands handing
  have runs := runs_steady issuing (fun _ => none) initializedCall.program
  rw [ended] at runs
  have owned := (usable initializedCall (fun _ => none) _ _ response sampleSubject "session-0001"
    (by decide) (plays_steady issuing (fun _ => none) initializedCall.program) runs auth
    handed).owned
  rw [unknown] at owned
  cases owned

end Portcullis.Gateway.SessionHandout
