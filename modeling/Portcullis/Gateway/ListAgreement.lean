import Portcullis.Gateway.Snapshot

/-!
# Lists and calls

A list response is filtered after the upstream answered, a call is checked before it is
forwarded.  Both read the rules of the subject and ask `evaluate_permission`; this
module says that the filtered list holds exactly the items whose call would be let
through.
-/

namespace Portcullis.Gateway.ListAgreement

open Auth.Rbac Auth.ToolFilter Gateway.JsonRpc Gateway.Router Lib Lib.Glob Models

/-! ## Calls that name an item -/

/-- The method that uses an item of a list. -/
def callOf : Method → Option Method
  | .toolsList => some .toolsCall
  | .resourcesList => some .resourcesRead
  | .promptsList => some .promptsGet
  | _ => none

/-- A request of a method whose parameters name a resource. -/
structure Names (method : Method) (nameKey name : String) (rpc : JsonRpcRequest) : Prop where
  ofMethod : rpc.method = method
  named : ∃ params, rpc.params = some params ∧ Json.get nameKey params = some (.str name)

/-- The identifier an item carries. -/
def nameOf (nameKey : String) : Json → Option String
  | .obj members =>
    match Json.get nameKey members with
    | some (.str name) => some name
    | _ => none
  | _ => none

/-- An object whose identifier, where it has one, is a string. -/
def Shaped (nameKey : String) (item : Json) : Prop :=
  ∃ members, item = .obj members ∧
    ∀ value, Json.get nameKey members = some value → ∃ name, value = .str name

/-- The permission step lets the request through. -/
def passesRbac (env : (op : Op) → Ans op) (ctx : Context) (subject : Subject)
    (rpc : JsonRpcRequest) : Bool :=
  ((checkPermission ctx subject rpc).exec env).isOk

/-- The item has an identifier, and the call that names it is let through. -/
def callable (env : (op : Op) → Ans op) (ctx : Context) (subject : Subject)
    (nameKey : String) (call : String → JsonRpcRequest) (item : Json) : Bool :=
  (nameOf nameKey item).any fun name => passesRbac env ctx subject (call name)

theorem identifierKey_of_callOf (listMethod callMethod : Method) (listKey nameKey : String)
    (corresponds : callOf listMethod = some callMethod)
    (keys : listKeys listMethod = some (listKey, nameKey)) :
    rbacRequired callMethod = true ∧ identifierKey callMethod = some nameKey := by
  cases listMethod with
  | toolsList | resourcesList | promptsList =>
    cases corresponds
    cases keys
    exact ⟨rfl, rfl⟩
  | _ => cases corresponds

theorem resourceName_of_names (method : Method) (nameKey name : String) (rpc : JsonRpcRequest)
    (key : identifierKey method = some nameKey) (names : Names method nameKey name rpc) :
    resourceName rpc = some (.str name) := by
  obtain ⟨ofMethod, params, given, found⟩ := names
  cases params with
  | nil => cases found
  | cons mem rest =>
    rw [← ofMethod] at key
    simp only [resourceName, given, key, found]
    rfl

section Verdicts

variable (env : (op : Op) → Ans op) (ctx : Context) (subject : Subject)
  (permissions : List ToolPermission)

/-- What `evaluate_permission` says of a name. -/
def allowedName (slug name : String) : Bool :=
  (evaluatePermission fnmatchcase subject.subjectId slug name permissions).allowed

theorem passesRbac_eq (rpc : JsonRpcRequest) (name : String)
    (rules : env (.permissionsForSubject subject.tenantId subject.subjectType
      subject.subjectId) = .ok permissions)
    (required : rbacRequired rpc.method = true)
    (named : resourceName rpc = some (.str name)) :
    passesRbac env ctx subject rpc =
      allowedName subject permissions ctx.request.serverSlug name := by
  simp only [passesRbac, checkPermission, required, named, Bool.not_true, Bool.false_eq_true,
    if_false, evaluateOn, request, Prog.exec_bind, Prog.exec_request, Except.bind, rules,
    orRaise, Prog.exec_pure]
  split
  · rename_i allowed
    exact allowed.symm
  · rename_i refused
    exact (Bool.eq_false_of_not_eq_true refused).symm

theorem keepItem_eq (nameKey : String) (item : Json) (shaped : Shaped nameKey item) :
    keepItem ctx subject permissions nameKey item = .ok ((nameOf nameKey item).any
        (allowedName subject permissions ctx.request.serverSlug)) := by
  obtain ⟨members, rfl, strings⟩ := shaped
  cases found : Json.get nameKey members with
  | none => simp only [keepItem, nameOf, found, Option.any_none]
  | some value =>
    obtain ⟨name, rfl⟩ := strings value found
    simp only [keepItem, nameOf, found, evaluateOn, Except.map, Option.any_some, allowedName]

end Verdicts

/-- A filtered list holds, in their order, exactly the items whose call passes the
permission step; nothing else of the body changes. -/
theorem filtered_list_agrees_with_calls (env callEnv : (op : Op) → Ans op)
    (ctx callCtx : Context) (subject : Subject) (permissions : List ToolPermission)
    (listMethod callMethod : Method) (listKey nameKey : String)
    (corresponds : callOf listMethod = some callMethod)
    (keys : listKeys listMethod = some (listKey, nameKey))
    (sameServer : callCtx.request.serverSlug = ctx.request.serverSlug)
    (rules : env (.permissionsForSubject subject.tenantId subject.subjectType
      subject.subjectId) = .ok permissions)
    (callRules : callEnv (.permissionsForSubject subject.tenantId subject.subjectType
      subject.subjectId) = .ok permissions)
    (call : String → JsonRpcRequest) (naming : ∀ name, Names callMethod nameKey name (call name))
    (response result : Json.Members) (items : List Json)
    (answered : Json.get "result" response = some (.obj result))
    (listed : Json.get listKey result = some (.arr items))
    (shaped : ∀ item ∈ items, Shaped nameKey item) :
    ∃ filteredResponse filteredResult,
      (filterGenericList ctx subject listKey nameKey (.obj response)).exec env =
        .ok (.obj filteredResponse) ∧
      Json.Replaced "result" (.obj result) (.obj filteredResult) response filteredResponse ∧
      Json.Replaced listKey (.arr items)
        (.arr (items.filter (callable callEnv callCtx subject nameKey call)))
        result filteredResult := by
  obtain ⟨required, key⟩ :=
    identifierKey_of_callOf listMethod callMethod listKey nameKey corresponds keys
  -- the two paths give one verdict on every item
  have agree : ∀ item ∈ items, keepItem ctx subject permissions nameKey item =
      .ok (callable callEnv callCtx subject nameKey call item) := by
    intro item mem
    rw [keepItem_eq ctx subject permissions nameKey item (shaped item mem), callable]
    cases nameOf nameKey item with
    | none => rfl
    | some name =>
      have named := resourceName_of_names callMethod nameKey name (call name) key (naming name)
      have needs : rbacRequired (call name).method = true := by
        rw [(naming name).ofMethod, required]
      rw [Option.any_some, Option.any_some, passesRbac_eq callEnv callCtx subject permissions
        (call name) name callRules needs named, sameServer]
  refine ⟨_, _, ?_, Json.replaced_assign "result" _ _ response answered,
    Json.replaced_assign listKey _ _ result listed⟩
  exact filterGenericList_exec env ctx subject permissions listKey nameKey response result items
    _ rules answered listed (filterItems_eq_filter ctx subject permissions nameKey _ items agree)

def readRule : ToolPermission := ⟨⟨5#128⟩, ⟨3#128⟩, "github-mcp", "read_*", .allow, 0⟩

def toolNamed (name : String) : Json := .obj [("name", .str name)]

def readableTools : List Json :=
  [toolNamed "delete_repo", .obj [("title", .str "nameless")], toolNamed "read_file"]

def toolCall (name : String) : JsonRpcRequest :=
  ⟨.toolsCall, some (.int 2), some [("name", .str name)]⟩

theorem shaped_readableTools : ∀ item ∈ readableTools, Shaped "name" item := by
  intro item mem
  simp only [readableTools, List.mem_cons, List.not_mem_nil, or_false] at mem
  rcases mem with rfl | rfl | rfl
  · exact ⟨_, rfl, fun value found => ⟨_, (Option.some.inj found).symm⟩⟩
  · exact ⟨_, rfl, fun value found => by cases found⟩
  · exact ⟨_, rfl, fun value found => ⟨_, (Option.some.inj found).symm⟩⟩

theorem filtered_list_agrees_with_calls_three_tools :
    readableTools.filter (callable (sampleSnapshot [readRule] emptyUpstream).answer
        (sampleContext "application/json" []) sampleSubject "name" toolCall) =
        [toolNamed "read_file"] ∧
      ∃ filteredResponse filteredResult,
        (filterGenericList (sampleContext "application/json" listBody) sampleSubject "tools"
            "name" (.obj [("id", .int 1), ("result", .obj [("nextCursor", .str "2"),
              ("tools", .arr readableTools)])])).exec
          (sampleSnapshot [readRule] emptyUpstream).answer = .ok (.obj filteredResponse) ∧
        Json.Replaced "result" (.obj [("nextCursor", .str "2"), ("tools", .arr readableTools)])
          (.obj filteredResult)
          [("id", .int 1), ("result", .obj [("nextCursor", .str "2"),
            ("tools", .arr readableTools)])] filteredResponse ∧
        Json.Replaced "tools" (.arr readableTools) (.arr (readableTools.filter
            (callable (sampleSnapshot [readRule] emptyUpstream).answer
              (sampleContext "application/json" []) sampleSubject "name" toolCall)))
          [("nextCursor", .str "2"), ("tools", .arr readableTools)] filteredResult :=
  ⟨by decide +kernel,
    filtered_list_agrees_with_calls (sampleSnapshot [readRule] emptyUpstream).answer
      (sampleSnapshot [readRule] emptyUpstream).answer
      (sampleContext "application/json" listBody) (sampleContext "application/json" [])
      sampleSubject [readRule] .toolsList .toolsCall "tools" "name" rfl rfl rfl
      (by decide +kernel) (by decide +kernel) toolCall
      (fun _ => ⟨rfl, _, rfl, rfl⟩) _ _ readableTools rfl rfl shaped_readableTools⟩

end Portcullis.Gateway.ListAgreement
