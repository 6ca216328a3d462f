import Portcullis.Gateway.Mediation

/-!
# Denied items in list responses

A list response reaches the client on several forks: streamed as it came, passed
through because it is no JSON, or filtered.  This module says what a client reads from
a response, and which upstream responses bring it an item that its rules deny.
-/

namespace Portcullis.Gateway.ListLeak

open Auth.Rbac Auth.ToolFilter Gateway.JsonRpc Gateway.Mediation Gateway.Router Lib Lib.Encoding
  Models

/-! ## What a client reads -/

/-- Lines of an event stream.  CR, LF and CR LF end a line; what follows the last line
end is no line. -/
def streamLines (line : Bytes) (afterReturn : Bool) : Bytes → List Bytes
  | [] => []
  | byte :: rest =>
    if byte = 10 then
      if afterReturn then streamLines [] false rest
      else line.reverse :: streamLines [] false rest
    else if byte = 13 then line.reverse :: streamLines [] true rest
    else streamLines (byte :: line) false rest

/-- The value of a `data` field, without the one blank that may follow its colon. -/
def dataField (line : Bytes) : Option Bytes :=
  if line = asciiBytes "data" then some []
  else if (asciiBytes "data:").isPrefixOf line then
    match line.drop 5 with
    | 32 :: value => some value
    | value => some value
  else none

/-- The data of each event, which a blank line ends. -/
def eventData (pending : List Bytes) : List Bytes → List Bytes
  | [] => []
  | line :: rest =>
    if line = [] then
      if pending = [] then eventData [] rest
      else [10].intercalate pending :: eventData [] rest
    else
      match dataField line with
      | none => eventData pending rest
      | some value => eventData (pending ++ [value]) rest

example :
    eventData [] (streamLines [] false (asciiBytes "event: message\r\ndata: [1]\r\n\r\n")) =
      [asciiBytes "[1]"] := by
  decide

/-- Some JSON reader takes the bytes for the value, whatever its limits and whichever of
two members with one name it keeps. -/
def Reads (content : Bytes) (view : Json) : Prop :=
  ∃ limits pick tree, Json.parseBytes limits content = .ok tree ∧ view = tree.resolve pick

/-- The media type says whether the body is an event stream or one document. -/
def Presents (mediaType : String) (content : Bytes) (view : Json) : Prop :=
  if isEventStream (lowerName mediaType) then
    ∃ data ∈ eventData [] (streamLines [] false content), Reads data view
  else Reads content view

def Shows (response : Response) (view : Json) : Prop :=
  match response.body with
  | .empty => False
  | .json value => view = value
  | .bytes content => Presents (response.mediaType.getD "") content view

section Leaks

variable (ctx : Context) (subject : Subject) (permissions : List ToolPermission)
  (listKey nameKey : String)

def HoldsDenied (view : Json) : Prop :=
  ∃ item ∈ listItems listKey view, Denied ctx subject permissions nameKey item

/-- The client reads a list item that the rules deny. -/
def Leaks (response : Response) : Prop :=
  ∃ view, Shows response view ∧ HoldsDenied ctx subject permissions listKey nameKey view

def PresentsDenied (upstream : UpstreamResponse) (fallback : String) : Prop :=
  ∃ view, Presents (orDefault ((upstream.header "content-type").getD "") fallback)
      upstream.content view ∧
    HoldsDenied ctx subject permissions listKey nameKey view

/-- The result of a list response is a list, not an object that holds one. -/
def ResultIsList (responseBody : Json) : Prop :=
  ∃ response items, responseBody = .obj response ∧ Json.get "result" response = some (.arr items)

/-- The answer of the upstream holds a denied item and takes a fork without a filter:
a stream, a body the decoder refuses, or a result that is itself a list. -/
def PassesUnfiltered (upstream : UpstreamResponse) : Prop :=
  if isEventStream ((upstream.header "content-type").getD "") || wantsStream ctx then
    PresentsDenied ctx subject permissions listKey nameKey upstream "text/event-stream"
  else
    match Json.loads ctx.platform.jsonLimits upstream.content with
    | .error .recursionError => False
    | .error _ =>
      PresentsDenied ctx subject permissions listKey nameKey upstream "application/json"
    | .ok responseBody =>
      ResultIsList responseBody ∧ responseBody.isFinite = true ∧
        HoldsDenied ctx subject permissions listKey nameKey responseBody

theorem not_leaks_of_json (response : Response) (value : Json)
    (body : response.body = .json value) (noItems : listItems listKey value = []) :
    ¬ Leaks ctx subject permissions listKey nameKey response := by
  rintro ⟨view, shown, item, mem, _⟩
  rw [Shows, body] at shown
  obtain rfl : view = value := shown
  rw [noItems] at mem
  cases mem

theorem not_leaks_of_isError (response : Response) (isError : IsError response) :
    ¬ Leaks ctx subject permissions listKey nameKey response := by
  obtain ⟨rpcId, code, message, body⟩ := isError
  exact not_leaks_of_json ctx subject permissions listKey nameKey response _ body rfl

theorem leaks_rawResponse_iff (upstream : UpstreamResponse) (headers : Headers)
    (fallback : String) :
    Leaks ctx subject permissions listKey nameKey (rawResponse upstream headers fallback) ↔
      PresentsDenied ctx subject permissions listKey nameKey upstream fallback :=
  Iff.rfl

variable (env : (op : Op) → Ans op)

/-! ## Response handling -/

section Response

variable (rules : env (.permissionsForSubject subject.tenantId subject.subjectType
  subject.subjectId) = .ok permissions)

theorem filterGenericList_resultIsList (responseBody : Json)
    (resultIsList : ResultIsList responseBody) :
    (filterGenericList ctx subject listKey nameKey responseBody).exec env = .ok responseBody := by
  obtain ⟨resp, items, rfl, found⟩ := resultIsList
  simp [filterGenericList, found]

include rules in
theorem filteredResponse_leaks_iff (upstream : UpstreamResponse) (headers : Headers)
    (responseBody : Json)
    (decoded : Json.loads ctx.platform.jsonLimits upstream.content = .ok responseBody) :
    (∃ resp,
      (filteredResponse ctx subject listKey nameKey upstream headers).exec env = .ok resp ∧
        Leaks ctx subject permissions listKey nameKey resp) ↔
      ResultIsList responseBody ∧ responseBody.isFinite = true ∧
        HoldsDenied ctx subject permissions listKey nameKey responseBody := by
  unfold filteredResponse
  rw [decoded]
  constructor
  · rintro ⟨resp, ran, view, shown, item, mem, denied⟩
    obtain ⟨filtered, kept, rendered⟩ := (Prog.exec_bind_ok_iff _ _ _ _).mp ran
    split at rendered
    · rename_i finite
      obtain rfl := Except.ok.inj rendered
      obtain rfl : view = filtered := shown
      rcases filterGenericList_ok env ctx subject permissions listKey nameKey responseBody
          view rules kept with clean | ⟨rfl, resultIsList⟩
      · exact absurd denied (clean item mem)
      · exact ⟨resultIsList, finite, item, mem, denied⟩
    · cases rendered
  · rintro ⟨resultIsList, finite, holds⟩
    have unchanged := filterGenericList_resultIsList ctx subject listKey nameKey env
      responseBody resultIsList
    refine ⟨⟨upstream.statusCode, headers, some "application/json", .json responseBody⟩,
      (Prog.exec_bind_ok_iff _ _ _ _).mpr ⟨responseBody, unchanged, ?_⟩,
      responseBody, rfl, holds⟩
    rw [if_pos finite]
    rfl

theorem not_isNone (rpcId : Option RpcId) (identified : rpcId.isSome = true) :
    rpcId.isNone ≠ true := by
  rw [← Option.not_isSome, identified]
  decide

theorem respondTo_exec (rpc : JsonRpcRequest) (rlHeaders sessionHeaders : Headers)
    (upstream : UpstreamResponse)
    (isList : listKeys rpc.method = some (listKey, nameKey))
    (identified : rpc.id.isSome = true)
    (sized : (checkResponseSize ctx rpc.id (wantsStream ctx) upstream).exec env = .ok ())
    (recorded : (persistSession ctx subject rpc.id upstream).exec env = .ok sessionHeaders) :
    (respondTo ctx subject rpc rlHeaders (wantsStream ctx) upstream).exec env =
      let headers := rlHeaders ++ requestIdHeaders ctx.request ++ sessionHeaders
      if isEventStream ((upstream.header "content-type").getD "") || wantsStream ctx then
        .ok (rawResponse upstream headers "text/event-stream")
      else (filteredResponse ctx subject listKey nameKey upstream headers).exec env := by
  unfold respondTo
  rw [if_neg (not_isNone rpc.id identified), Prog.exec_bind, sized]
  simp only [Except.bind, Prog.exec_bind, recorded, isList]
  split
  · rfl
  · rfl

include rules in
theorem respondTo_leaks_iff (rpc : JsonRpcRequest) (rlHeaders sessionHeaders : Headers)
    (upstream : UpstreamResponse)
    (isList : listKeys rpc.method = some (listKey, nameKey))
    (identified : rpc.id.isSome = true)
    (sized : (checkResponseSize ctx rpc.id (wantsStream ctx) upstream).exec env = .ok ())
    (recorded : (persistSession ctx subject rpc.id upstream).exec env = .ok sessionHeaders) :
    (∃ resp, (respondTo ctx subject rpc rlHeaders (wantsStream ctx) upstream).exec env =
          .ok resp ∧
        Leaks ctx subject permissions listKey nameKey resp) ↔
      PassesUnfiltered ctx subject permissions listKey nameKey upstream := by
  rw [respondTo_exec ctx subject listKey nameKey env rpc rlHeaders sessionHeaders upstream
    isList identified sized recorded]
  unfold PassesUnfiltered
  dsimp only
  split
  · constructor
    · rintro ⟨resp, ret, leaks⟩
      obtain rfl := Except.ok.inj ret
      exact leaks
    · intro presents
      exact ⟨_, rfl, presents⟩
  · cases decoded : Json.loads ctx.platform.jsonLimits upstream.content with
    | ok responseBody =>
      exact filteredResponse_leaks_iff ctx subject permissions listKey nameKey env rules
        upstream _ responseBody decoded
    | error refusal =>
      cases refusal <;> simp [filteredResponse, decoded, raise, leaks_rawResponse_iff]

end Response

/-! ## The request as a whole -/

/-- Every check accepts the request, the upstream answers it, and its answer is within
the bounds and issues no session id of another caller. -/
structure Delivered (rpc : JsonRpcRequest) (server : McpServer)
    (rlHeaders headers sessionHeaders : Headers) (upstream : UpstreamResponse) : Prop where
  noPlugin : env .pluginPreAuth = none
  declared : declaredTooLarge (ctx.request.header "content-length")
    ctx.settings.maxRequestBodyBytes = .ok false
  bounded : ctx.request.body.length ≤ ctx.settings.maxRequestBodyBytes
  called : (runPreAuthChecks ctx rpc.id).exec env = .ok subject
  resolved : (resolveServer ctx subject rpc.id).exec env = .ok server
  session : (validateSession ctx subject rpc.id).exec env = .ok ()
  rate : (checkRateLimit ctx subject (toolOrMethod rpc) rpc.id).exec env = .ok rlHeaders
  notDry : isDryRun ctx = false
  built : (buildUpstreamHeaders ctx server).exec env = .ok headers
  answered : env (.forward (forwardCall server ctx.request.method headers ctx.request.body
    (wantsStream ctx))) = .ok upstream
  identified : rpc.id.isSome = true
  sized : wantsStream ctx = true ∨
    declaredTooLarge (upstream.header "content-length") ctx.settings.maxResponseBodyBytes =
        .ok false ∧
      upstream.content.length ≤ ctx.settings.maxResponseBodyBytes
  recorded : (persistSession ctx subject rpc.id upstream).exec env = .ok sessionHeaders

/-- A plugin answers with a denied item, or the upstream does on an unfiltered fork. -/
def Exposed (rpc : JsonRpcRequest) : Prop :=
  (∃ response, env .pluginPreAuth = some response ∧
    Leaks ctx subject permissions listKey nameKey response) ∨
  ∃ server rlHeaders headers sessionHeaders upstream,
    Delivered ctx subject env rpc server rlHeaders headers sessionHeaders upstream ∧
      PassesUnfiltered ctx subject permissions listKey nameKey upstream

theorem readRequest_ok_iff (rpc : JsonRpcRequest)
    (parsed : parseRequest ctx.platform.jsonLimits ctx.request.body = .ok rpc)
    (read : JsonRpcRequest) :
    (readRequest ctx).exec env = .ok read ↔ declaredTooLarge (ctx.request.header "content-length")
          ctx.settings.maxRequestBodyBytes = .ok false ∧
        ctx.request.body.length ≤ ctx.settings.maxRequestBodyBytes ∧ read = rpc := by
  unfold readRequest
  rw [Prog.exec_bind_ok_iff]
  simp only [exec_orRaise_ok_iff, parsed]
  cases declaredTooLarge (ctx.request.header "content-length") ctx.settings.maxRequestBodyBytes with
  | error exn => simp
  | ok tooLarge =>
    cases tooLarge with
    | true => simp [respond]
    | false =>
      by_cases bounded : ctx.request.body.length ≤ ctx.settings.maxRequestBodyBytes
      · simp [bounded, not_lt.mpr bounded, eq_comm]
      · simp [bounded, not_le.mp bounded, respond]

theorem checkResponseSize_ok_iff (rpcId : Option RpcId) (stream : Bool)
    (upstream : UpstreamResponse) :
    (checkResponseSize ctx rpcId stream upstream).exec env = .ok () ↔ stream = true ∨
        declaredTooLarge (upstream.header "content-length")
            ctx.settings.maxResponseBodyBytes = .ok false ∧
          upstream.content.length ≤ ctx.settings.maxResponseBodyBytes := by
  unfold checkResponseSize
  cases stream with
  | true => simp
  | false =>
    simp only [Bool.false_eq_true, if_false, false_or, Prog.exec_bind_ok_iff, exec_orRaise_ok_iff]
    cases declaredTooLarge (upstream.header "content-length") ctx.settings.maxResponseBodyBytes with
    | error exn => simp
    | ok tooLarge =>
      cases tooLarge with
      | true => simp [respond]
      | false =>
        by_cases bounded : upstream.content.length ≤ ctx.settings.maxResponseBodyBytes
        · simp [bounded, not_lt.mpr bounded]
        · simp [bounded, not_le.mp bounded, respond]

theorem forward_ok_iff (call : ForwardCall) (rpcId : Option RpcId) (rlHeaders : Headers)
    (upstream : UpstreamResponse) :
    (forward ctx call rpcId rlHeaders).exec env = .ok upstream ↔
      env (.forward call) = .ok upstream := by
  unfold forward
  rw [Prog.exec_bind]
  cases answer : env (.forward call) with
  | ok ans => simp [request, answer, Except.bind]
  | error exn => cases exn <;> simp [request, answer, Except.bind, respond, raise]

theorem answerPost_ok_iff (rpc : JsonRpcRequest) (response : Response)
    (parsed : parseRequest ctx.platform.jsonLimits ctx.request.body = .ok rpc) :
    (answerPost ctx).exec env = .ok response ↔
      declaredTooLarge (ctx.request.header "content-length")
          ctx.settings.maxRequestBodyBytes = .ok false ∧
        ctx.request.body.length ≤ ctx.settings.maxRequestBodyBytes ∧
        (handlePost ctx rpc).exec env = .ok response := by
  unfold answerPost
  simp only [Prog.exec_bind_ok_iff, readRequest_ok_iff ctx env rpc parsed, exceptAll,
    Prog.exec_recover]
  constructor
  · rintro ⟨read, ⟨declared, bounded, rfl⟩, ran⟩
    refine ⟨declared, bounded, ?_⟩
    cases handled : (handlePost ctx read).exec env with
    | ok ret =>
      rw [handled] at ran
      exact ran
    | error exit =>
      rw [handled] at ran
      cases exit <;> cases ran
  · rintro ⟨declared, bounded, ran⟩
    refine ⟨rpc, ⟨declared, bounded, rfl⟩, ?_⟩
    rw [ran]

theorem authenticated_of_runPreAuthChecks (rpcId : Option RpcId) (caller : Subject)
    (called : (runPreAuthChecks ctx rpcId).exec env = .ok caller) :
    env (.authenticate (rawToken ((ctx.request.header "authorization").getD ""))) = .ok caller := by
  obtain ⟨_, _, auth⟩ := (Prog.exec_bind_ok_iff _ _ _ _).mp called
  unfold authenticateCaller at auth
  dsimp only at auth
  split at auth
  · cases auth
  obtain ⟨answer, asked, continued⟩ := (Prog.exec_bind_ok_iff _ _ _ _).mp auth
  obtain rfl : env _ = answer := Except.ok.inj asked
  cases answer : env (.authenticate (rawToken ((ctx.request.header "authorization").getD ""))) with
  | ok subject =>
    rw [answer] at continued
    exact congrArg Except.ok (Except.ok.inj continued)
  | error exn =>
    rw [answer] at continued
    cases exn <;> cases continued

section ListMethod

variable {listKey nameKey} {rpc : JsonRpcRequest}
  (isList : listKeys rpc.method = some (listKey, nameKey))

include isList

theorem checkPermission_list : checkPermission ctx subject rpc = pure () := by
  unfold checkPermission
  cases method : rpc.method <;> first | rfl | (rw [method] at isList; cases isList)

theorem checkCap_list : checkCap ctx subject rpc = pure () := by
  unfold checkCap
  cases method : rpc.method <;> first | rfl | (rw [method] at isList; cases isList)

theorem not_terminate_list : rpc.method ≠ .sessionTerminate := by
  intro terminates
  rw [terminates] at isList
  cases isList

theorem listItems_explanation (server : McpServer) (rlHeaders : Headers) :
    listItems listKey (explanation ctx subject server rpc rlHeaders) = [] := by
  cases method : rpc.method <;> rw [method] at isList <;>
    first | (cases isList; done) | (obtain ⟨rfl, rfl⟩ := isList; rfl)

theorem handlePost_ok_iff (response : Response) : (handlePost ctx rpc).exec env = .ok response ↔
      ∃ caller server, (runPreAuthChecks ctx rpc.id).exec env = .ok caller ∧
        (resolveServer ctx caller rpc.id).exec env = .ok server ∧
        (validateSession ctx caller rpc.id).exec env = .ok () ∧
        (proxyRequest ctx caller server rpc).exec env = .ok response := by
  unfold handlePost
  simp only [Prog.exec_bind_ok_iff, checkPermission_list ctx _ isList, Prog.exec_pure,
    if_neg (not_terminate_list isList)]
  constructor
  · rintro ⟨caller, called, server, resolved, _, session, _, _, proxied⟩
    exact ⟨caller, server, called, resolved, session, proxied⟩
  · rintro ⟨caller, server, called, resolved, session, proxied⟩
    exact ⟨caller, called, server, resolved, (), session, (), trivial, proxied⟩

theorem proxyRequest_ok_iff (server : McpServer) (notDry : isDryRun ctx = false)
    (response : Response) :
    (proxyRequest ctx subject server rpc).exec env = .ok response ↔ ∃ rlHeaders headers upstream,
        (checkRateLimit ctx subject (toolOrMethod rpc) rpc.id).exec env = .ok rlHeaders ∧
        (buildUpstreamHeaders ctx server).exec env = .ok headers ∧
        env (.forward (forwardCall server ctx.request.method headers ctx.request.body
          (wantsStream ctx))) = .ok upstream ∧
        (respondTo ctx subject rpc rlHeaders (wantsStream ctx) upstream).exec env =
          .ok response := by
  unfold proxyRequest
  simp only [Prog.exec_bind_ok_iff, notDry, Bool.false_eq_true, if_false, forward_ok_iff,
    checkCap_list ctx _ isList, Prog.exec_pure]
  constructor
  · rintro ⟨rlHeaders, rate, _, _, _, _, headers, built, upstream, ans, responded⟩
    exact ⟨rlHeaders, headers, upstream, rate, built, ans, responded⟩
  · rintro ⟨rlHeaders, headers, upstream, rate, built, ans, responded⟩
    exact ⟨rlHeaders, rate, (), rfl, (), trivial, headers, built, upstream, ans, responded⟩

end ListMethod

section Request

variable {listKey nameKey} {rpc : JsonRpcRequest}
  (isList : listKeys rpc.method = some (listKey, nameKey))
  (rules : env (.permissionsForSubject subject.tenantId subject.subjectType
    subject.subjectId) = .ok permissions)

include isList rules

theorem delivered_of_handlePost_leaks (resp : Response) (noPlugin : env .pluginPreAuth = none)
    (declared : declaredTooLarge (ctx.request.header "content-length")
      ctx.settings.maxRequestBodyBytes = .ok false)
    (bounded : ctx.request.body.length ≤ ctx.settings.maxRequestBodyBytes)
    (called : env (.authenticate (rawToken
      ((ctx.request.header "authorization").getD ""))) = .ok subject)
    (ran : (handlePost ctx rpc).exec env = .ok resp)
    (leaks : Leaks ctx subject permissions listKey nameKey resp) :
    ∃ server rlHeaders headers sessionHeaders upstream,
      Delivered ctx subject env rpc server rlHeaders headers sessionHeaders upstream ∧
        PassesUnfiltered ctx subject permissions listKey nameKey upstream := by
  obtain ⟨caller, server, preAuth, resolved, session, proxied⟩ :=
    (handlePost_ok_iff ctx env isList resp).mp ran
  have same := authenticated_of_runPreAuthChecks ctx env rpc.id caller preAuth
  obtain rfl : subject = caller := Except.ok.inj (called.symm.trans same)
  cases dry : isDryRun ctx with
  | true =>
    unfold proxyRequest explainDryRun at proxied
    obtain ⟨rlHeaders, _, explained⟩ := (Prog.exec_bind_ok_iff _ _ _ _).mp proxied
    rw [if_pos dry] at explained
    obtain rfl := Except.ok.inj explained
    exact absurd leaks (not_leaks_of_json ctx subject permissions listKey nameKey _ _ rfl
      (listItems_explanation ctx subject isList server rlHeaders))
  | false =>
    obtain ⟨rlHeaders, headers, upstream, rate, built, answered, responded⟩ :=
      (proxyRequest_ok_iff ctx subject env isList server dry resp).mp proxied
    cases identified : rpc.id.isSome with
    | false =>
      have notification : rpc.id.isNone = true := by
        rw [← Option.not_isSome, identified]
        rfl
      rw [respondTo, if_pos notification] at responded
      obtain rfl := Except.ok.inj responded
      obtain ⟨_, shown, _⟩ := leaks
      exact shown.elim
    | true =>
      have steps := responded
      rw [respondTo, if_neg (not_isNone rpc.id identified)] at steps
      obtain ⟨_, sized, afterSize⟩ := (Prog.exec_bind_ok_iff _ _ _ _).mp steps
      obtain ⟨sessionHeaders, recorded, _⟩ := (Prog.exec_bind_ok_iff _ _ _ _).mp afterSize
      refine ⟨server, rlHeaders, headers, sessionHeaders, upstream, ?_,
        (respondTo_leaks_iff ctx subject permissions listKey nameKey env rules rpc
          rlHeaders sessionHeaders upstream isList identified sized recorded).mp
          ⟨resp, responded, leaks⟩⟩
      exact
        { noPlugin, declared, bounded, called := preAuth, resolved, session, rate
          notDry := dry
          built, answered, identified
          sized := (checkResponseSize_ok_iff ctx env rpc.id _ upstream).mp sized
          recorded }

theorem handlePost_leaks_of_delivered {server : McpServer}
    {rlHeaders headers sessionHeaders : Headers} {upstream : UpstreamResponse}
    (delivered : Delivered ctx subject env rpc server rlHeaders headers sessionHeaders upstream)
    (passes : PassesUnfiltered ctx subject permissions listKey nameKey upstream) :
    ∃ response, (handlePost ctx rpc).exec env = .ok response ∧
      Leaks ctx subject permissions listKey nameKey response := by
  have sized := (checkResponseSize_ok_iff ctx env rpc.id _ upstream).mpr delivered.sized
  obtain ⟨response, responded, leaks⟩ :=
    (respondTo_leaks_iff ctx subject permissions listKey nameKey env rules rpc rlHeaders
      sessionHeaders upstream isList delivered.identified sized delivered.recorded).mpr passes
  have proxied := (proxyRequest_ok_iff ctx subject env isList server delivered.notDry
    response).mpr ⟨rlHeaders, headers, upstream, delivered.rate, delivered.built,
      delivered.answered, responded⟩
  exact ⟨response, (handlePost_ok_iff ctx env isList response).mpr
    ⟨subject, server, delivered.called, delivered.resolved, delivered.session, proxied⟩, leaks⟩

theorem mcpProxy_leaks_iff
    (parsed : parseRequest ctx.platform.jsonLimits ctx.request.body = .ok rpc)
    (called : env (.authenticate (rawToken
      ((ctx.request.header "authorization").getD ""))) = .ok subject) :
    (∃ resp, (mcpProxy ctx).exec env = .ok resp ∧
      Leaks ctx subject permissions listKey nameKey resp) ↔
      Exposed ctx subject permissions listKey nameKey env rpc := by
  unfold mcpProxy
  simp only [exec_settle_ok_iff, Prog.exec_bind]
  cases plugin : env .pluginPreAuth with
  | some answer =>
    simp only [request, Prog.exec_request, plugin, Except.bind, respond, Prog.exec_fail]
    constructor
    · rintro ⟨resp, ret | ans, leaks⟩
      · cases ret
      · obtain rfl := Exit.respond.inj (Except.error.inj ans)
        exact .inl ⟨answer, plugin, leaks⟩
    · rintro (⟨resp, ans, leaks⟩ | ⟨_, _, _, _, _, delivered, _⟩)
      · obtain rfl := Option.some.inj (plugin.symm.trans ans)
        exact ⟨answer, .inr rfl, leaks⟩
      · exact absurd (plugin.symm.trans delivered.noPlugin) (Option.some_ne_none answer)
  | none =>
    simp only [request, Prog.exec_request, plugin, Except.bind]
    constructor
    · rintro ⟨resp, ran | refused, leaks⟩
      · obtain ⟨declared, bounded, handled⟩ :=
          (answerPost_ok_iff ctx env rpc resp parsed).mp ran
        exact .inr (delivered_of_handlePost_leaks ctx subject permissions env isList rules
          resp plugin declared bounded called handled leaks)
      · have runs := Prog.runs_exec env (answerPost ctx)
        rw [refused] at runs
        have isError := (ensured_exit (answerPost_ensures (disciplined ctx) []) runs).1
        exact absurd leaks (not_leaks_of_isError ctx subject permissions listKey nameKey
          resp isError)
    · rintro (⟨resp, ans, _⟩ | ⟨_, _, _, _, _, delivered, passes⟩)
      · exact absurd (ans.symm.trans plugin) (Option.some_ne_none resp)
      obtain ⟨resp, handled, leaks⟩ := handlePost_leaks_of_delivered ctx subject
        permissions env isList rules delivered passes
      exact ⟨resp, .inl ((answerPost_ok_iff ctx env rpc resp parsed).mpr
        ⟨delivered.declared, delivered.bounded, handled⟩), leaks⟩

end Request

end Leaks

def toolsUpstream : UpstreamResponse where
  statusCode := 200
  headers := [("content-type", "application/json")]
  content := asciiBytes ("\x7b\"jsonrpc\":\"2.0\",\"id\":1,\"result\":\x7b\"tools\":" ++
    "[\x7b\"name\":\"delete_repo\"\x7d]\x7d\x7d")

def toolsDocument : Json :=
  .obj [("jsonrpc", .str "2.0"), ("id", .int 1),
    ("result", .obj [("tools", .arr [.obj [("name", .str "delete_repo")]])])]

theorem parseBytes_toolsUpstream :
    Json.parseBytes pythonLimits toolsUpstream.content = .ok toolsDocument := by
  decide +kernel

theorem loads_toolsUpstream :
    Json.loads (sampleContext "application/json" listBody).platform.jsonLimits
        toolsUpstream.content =
      .ok (toolsDocument.resolve .last) :=
  congrArg (Except.map (Json.resolve .last)) parseBytes_toolsUpstream

theorem not_exposed_toolsUpstream :
    ¬ Exposed (sampleContext "application/json" listBody) sampleSubject [] "tools" "name"
      (sampleSnapshot [] toolsUpstream).answer ⟨.toolsList, some (.int 1), none⟩ := by
  rintro (⟨resp, ans, _⟩ | ⟨_, _, _, _, upstream, delivered, passes⟩)
  · cases ans
  obtain rfl : toolsUpstream = upstream := Except.ok.inj delivered.answered
  have buffered : (isEventStream ((toolsUpstream.header "content-type").getD "") ||
      wantsStream (sampleContext "application/json" listBody)) ≠ true := by
    decide +kernel
  unfold PassesUnfiltered at passes
  rw [if_neg buffered, loads_toolsUpstream] at passes
  obtain ⟨⟨resp, items, document, found⟩, _⟩ := passes
  obtain rfl := Json.obj.inj document
  cases found

end Portcullis.Gateway.ListLeak
