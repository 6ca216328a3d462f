import Portcullis.Lib.Json
import Portcullis.Lib.PyStr

/-!
# JSON-RPC requests

`app/gateway/jsonrpc.py`, and the resource identifier `mcp_proxy` derives from a
request for its permission check.  The gateway decides on its own reading of the
body and forwards the bytes, so the last section compares that reading with those of
other JSON readers.
-/

namespace Portcullis.Gateway.JsonRpc

open Lib Lib.Encoding Lib.Json

/-- `SUPPORTED_METHODS`. -/
inductive Method where
  | initializeSession
  | notificationsInitialized
  | ping
  | toolsList
  | toolsCall
  | resourcesList
  | resourcesRead
  | resourcesSubscribe
  | resourcesUnsubscribe
  | promptsList
  | promptsGet
  | samplingCreateMessage
  | rootsList
  | sessionTerminate
  deriving DecidableEq, Repr

def Method.text : Method → String
  | .initializeSession => "initialize"
  | .notificationsInitialized => "notifications/initialized"
  | .ping => "ping"
  | .toolsList => "tools/list"
  | .toolsCall => "tools/call"
  | .resourcesList => "resources/list"
  | .resourcesRead => "resources/read"
  | .resourcesSubscribe => "resources/subscribe"
  | .resourcesUnsubscribe => "resources/unsubscribe"
  | .promptsList => "prompts/list"
  | .promptsGet => "prompts/get"
  | .samplingCreateMessage => "sampling/createMessage"
  | .rootsList => "roots/list"
  | .sessionTerminate => "session/terminate"

def supportedMethods : List Method :=
  [.initializeSession, .notificationsInitialized, .ping, .toolsList, .toolsCall, .resourcesList,
    .resourcesRead, .resourcesSubscribe, .resourcesUnsubscribe, .promptsList, .promptsGet,
    .samplingCreateMessage, .rootsList, .sessionTerminate]

def Method.ofText (text : String) : Option Method :=
  supportedMethods.find? fun method => method.text = text

def parseErrorCode : Int := -32700
def invalidRequestCode : Int := -32600
def methodNotFoundCode : Int := -32601
def invalidParamsCode : Int := -32602
def unauthorizedCode : Int := -32001
def forbiddenCode : Int := -32002
def rateLimitedCode : Int := -32003
def upstreamUnavailableCode : Int := -32004
def internalErrorCode : Int := -32603

/-- `isinstance(id, (int, str))`; in Python a boolean is an integer. -/
inductive RpcId where
  | int (value : Int)
  | bool (value : Bool)
  | text (value : String)
  deriving DecidableEq, Repr

structure JsonRpcRequest where
  method : Method
  id : Option RpcId
  params : Option Members
  deriving DecidableEq

/-- The `ValueError`s of `parse_request`. -/
inductive RequestError where
  | parseError
  | notAnObject
  | badVersion
  | badMethod
  | unsupported (method : String)
  | badId
  | badParams
  | tooManyDigits (digits : Nat)
  deriving DecidableEq, Repr

inductive RequestFailure where
  | valueError (error : RequestError)
  | recursionError
  deriving DecidableEq, Repr

def RequestError.message : RequestError → String
  | .parseError => "code=-32700 Parse error"
  | .notAnObject => "code=-32600 Request must be a JSON object"
  | .badVersion => "code=-32600 Invalid or missing 'jsonrpc' field; must be '2.0'"
  | .badMethod => "code=-32600 Invalid or missing 'method' field"
  | .unsupported method => "code=-32601 Method '" ++ method ++ "' is not supported"
  | .badId => "code=-32600 'id' must be a string, integer, or null"
  | .badParams => "code=-32600 'params' must be an object or null"
  | .tooManyDigits digits =>
    "Exceeds the limit (4300 digits) for integer string conversion: value has " ++
      toString digits ++ " digits; use sys.set_int_max_str_digits() to increase the limit"

def rpcId : Option Json → Except RequestError (Option RpcId)
  | none => .ok none
  | some .null => .ok none
  | some (.int value) => .ok (some (.int value))
  | some (.bool value) => .ok (some (.bool value))
  | some (.str value) => .ok (some (.text value))
  | some _ => .error .badId

def rpcParams : Option Json → Except RequestError (Option Members)
  | none => .ok none
  | some .null => .ok none
  | some (.obj members) => .ok (some members)
  | some _ => .error .badParams

def rpcMethod : Option Json → Except RequestError Method
  | some (.str text) =>
    if text = "" then .error .badMethod
    else match Method.ofText text with
      | none => .error (.unsupported text)
      | some method => .ok method
  | _ => .error .badMethod

/-- The checks of `parse_request` on the decoded document. -/
def requestOf : Json → Except RequestError JsonRpcRequest
  | .obj data =>
    if get "jsonrpc" data ≠ some (.str "2.0") then .error .badVersion
    else do
      let method ← rpcMethod (get "method" data)
      let id ← rpcId (get "id" data)
      let params ← rpcParams (get "params" data)
      return { method := method, id := id, params := params }
  | _ => .error .notAnObject

def parseRequest (limits : Limits) (body : Bytes) : Except RequestFailure JsonRpcRequest :=
  match loads limits body with
  | .error .decodeError => .error (.valueError .parseError)
  | .error (.tooManyDigits digits) => .error (.valueError (.tooManyDigits digits))
  | .error .recursionError => .error .recursionError
  | .ok data => (requestOf data).mapError .valueError

def rpcIdJson : Option RpcId → Json
  | none => .null
  | some (.int value) => .int value
  | some (.bool value) => .bool value
  | some (.text value) => .str value

def makeError (id : Option RpcId) (code : Int) (message : String) : Json :=
  .obj [("jsonrpc", .str "2.0"), ("id", rpcIdJson id),
    ("error", .obj [("code", .int code), ("message", .str message)])]

/-! ## Resource identifiers -/

/-- Python's `None` stands for a missing member and for JSON `null`. -/
def notNone : Option Json → Option Json
  | some .null => none
  | found => found

/-- The member of `params` that names the resource. -/
def identifierKey : Method → Option String
  | .toolsCall => some "name"
  | .resourcesRead => some "uri"
  | .resourcesSubscribe => some "uri"
  | .resourcesUnsubscribe => some "uri"
  | .promptsGet => some "name"
  | _ => none

/-- `resource_name` of `mcp_proxy`. -/
def resourceName (request : JsonRpcRequest) : Option Json :=
  match request.params with
  | none => none
  | some [] => none
  | some params =>
    match identifierKey request.method with
    | some key => notNone (get key params)
    | none =>
      if request.method = .samplingCreateMessage then some (.str "createMessage")
      else none

theorem Method.ofText_text (method : Method) : Method.ofText method.text = some method := by
  cases method <;> decide

theorem Method.text_of_ofText (text : String) (method : Method)
    (found : Method.ofText text = some method) : text = method.text := by
  have same := List.find?_some found
  exact (of_decide_eq_true same).symm

theorem rpcMethod_ok (value : Option Json) (method : Method)
    (acc : rpcMethod value = .ok method) : value = some (.str method.text) := by
  unfold rpcMethod at acc
  split at acc
  · rename_i text
    split at acc
    · cases acc
    split at acc
    · cases acc
    rename_i found known
    have sameMethod : found = method := Except.ok.inj acc
    rw [sameMethod] at known
    rw [Method.text_of_ofText text method known]
  · cases acc

theorem requestOf_ok (data : Json) (request : JsonRpcRequest)
    (acc : requestOf data = .ok request) :
    ∃ members, data = .obj members ∧ get "method" members = some (.str request.method.text) ∧
      rpcParams (get "params" members) = .ok request.params := by
  unfold requestOf at acc
  split at acc
  · rename_i members
    split at acc
    · cases acc
    refine ⟨members, rfl, ?_⟩
    cases methodRead : rpcMethod (get "method" members) with
    | error failure => simp [methodRead, bind, Except.bind] at acc
    | ok method =>
      cases idRead : rpcId (get "id" members) with
      | error failure => simp [methodRead, idRead, bind, Except.bind] at acc
      | ok id =>
        cases paramsRead : rpcParams (get "params" members) with
        | error failure =>
          simp [methodRead, idRead, paramsRead, bind, Except.bind] at acc
        | ok params =>
          simp only [methodRead, idRead, paramsRead, bind, Except.bind, pure,
            Except.pure, Except.ok.injEq] at acc
          subst acc
          exact ⟨rpcMethod_ok _ method methodRead, rfl⟩
  · cases acc

theorem parseRequest_ok (limits : Limits) (body : Bytes) (request : JsonRpcRequest)
    (acc : parseRequest limits body = .ok request) :
    ∃ written, parseBytes limits body = .ok (.obj written) ∧
      requestOf (resolve .last (.obj written)) = .ok request := by
  unfold parseRequest loads at acc
  cases parsed : parseBytes limits body with
  | error failure => cases failure <;> simp [parsed, Except.map] at acc
  | ok tree =>
    simp only [parsed, Except.map] at acc
    have checked : requestOf (resolve .last tree) = .ok request := by
      cases outcome : requestOf (resolve .last tree) with
      | error failure => simp [outcome, Except.mapError] at acc
      | ok found =>
        rw [outcome] at acc
        exact congrArg Except.ok (Except.ok.inj acc)
    obtain ⟨members, shape, _⟩ := requestOf_ok _ request checked
    cases tree with
    | obj written => exact ⟨written, rfl, checked⟩
    | _ => cases shape

/-! ## Other readers of the forwarded bytes -/

/-- A JSON reader with limits of its own and a rule for repeated members. -/
structure Reader where
  limits : Limits
  pick : Pick

def Reader.read (reader : Reader) (body : Bytes) : Except JsonError Json :=
  (parseBytes reader.limits body).map (resolve reader.pick)

def readMethod : Json → Option Json
  | .obj members => get "method" members
  | _ => none

def readIdentifier (key : String) : Json → Option Json
  | .obj members =>
    match get "params" members with
    | some (.obj params) => notNone (get key params)
    | _ => none
  | _ => none

/-- A view of the body that shows the method and the identifier of the request the
gateway decided on. -/
def ReadsAs (view : Json) (request : JsonRpcRequest) : Prop :=
  readMethod view = some (.str request.method.text) ∧
    ∀ key, identifierKey request.method = some key → readIdentifier key view = resourceName request

/-- The identifier at one end of the written members: the first of the first
`params`, or the last of the last. -/
def identifierAt (pick : Pick) (key : String) (written : Members) : Option Json :=
  match pickMember pick "params" written with
  | some (.obj params) => notNone ((pickMember pick key params).map (resolve pick))
  | _ => none

/-- The written body names one method and one resource at both ends. -/
def SameEnds (limits : Limits) (body : Bytes) : Prop :=
  ∀ written, parseBytes limits body = .ok (.obj written) →
    firstMember "method" written = lastMember "method" written ∧
      ∀ method key, lastMember "method" written = some (.str method.text) →
        identifierKey method = some key →
          identifierAt .first key written = identifierAt .last key written

theorem readIdentifier_resolve (pick : Pick) (key : String) (written : Members) :
    readIdentifier key (resolve pick (.obj written)) = identifierAt pick key written := by
  rw [resolve, readIdentifier, get_resolved, identifierAt]
  cases pickMember pick "params" written with
  | none => rfl
  | some params =>
    cases params with
    | obj members => simp only [Option.map_some, resolve, get_resolved]
    | _ => simp [resolve]

theorem resolve_eq_str (pick : Pick) (value : Json) (text : String) :
    resolve pick value = .str text ↔ value = .str text := by
  cases value <;> simp [resolve]

theorem readMethod_resolve (pick : Pick) (written : Members) (text : String) :
    readMethod (resolve pick (.obj written)) = some (.str text) ↔
      pickMember pick "method" written = some (.str text) := by
  rw [resolve, readMethod, get_resolved, Option.map_eq_some_iff]
  constructor
  · rintro ⟨value, found, resolved⟩
    rw [found, (resolve_eq_str pick value text).mp resolved]
  · intro found
    exact ⟨_, found, (resolve_eq_str pick _ text).mpr rfl⟩

theorem resourceName_eq_readIdentifier (data : Json) (request : JsonRpcRequest)
    (acc : requestOf data = .ok request) (key : String)
    (keyed : identifierKey request.method = some key) :
    resourceName request = readIdentifier key data := by
  obtain ⟨members, shape, _, paramsRead⟩ := requestOf_ok data request acc
  subst shape
  unfold rpcParams at paramsRead
  unfold resourceName readIdentifier
  split at paramsRead
  · rename_i absent
    simp [← Except.ok.inj paramsRead, absent]
  · rename_i absent
    simp [← Except.ok.inj paramsRead, absent]
  · rename_i params found
    simp only [← Except.ok.inj paramsRead, found]
    cases params with
    | nil => rfl
    | cons mem rest => simp only [keyed]
  · cases paramsRead

theorem readsAs_resolve_iff (written : Members) (request : JsonRpcRequest) (pick : Pick)
    (acc : requestOf (resolve .last (.obj written)) = .ok request) :
    ReadsAs (resolve pick (.obj written)) request ↔
      pickMember pick "method" written = some (.str request.method.text) ∧
        ∀ key, identifierKey request.method = some key →
          identifierAt pick key written = identifierAt .last key written := by
  unfold ReadsAs
  rw [readMethod_resolve]
  refine and_congr_right fun _ => forall_congr' fun key => ?_
  refine imp_congr_right fun keyed => ?_
  rw [readIdentifier_resolve, resourceName_eq_readIdentifier _ request acc key keyed,
    readIdentifier_resolve]

theorem lastMember_method (written : Members) (request : JsonRpcRequest)
    (acc : requestOf (resolve .last (.obj written)) = .ok request) :
    lastMember "method" written = some (.str request.method.text) := by
  obtain ⟨members, shape, found, _⟩ := requestOf_ok _ request acc
  apply (readMethod_resolve .last written request.method.text).mp
  rw [shape]
  exact found

def pingBody : Bytes :=
  asciiBytes "\x7b\"jsonrpc\":\"2.0\",\"id\":1,\"method\":\"ping\"\x7d"

def pythonLimits : Limits := ⟨1000, 4300⟩

def twoNamesBody : Bytes :=
  asciiBytes ("\x7b\"jsonrpc\":\"2.0\",\"id\":1,\"method\":\"tools/call\"," ++
    "\"params\":\x7b\"name\":\"delete_repo\",\"name\":\"read_file\"\x7d\x7d")

end Portcullis.Gateway.JsonRpc
