import Portcullis.Gateway.Effects

/-!
# Session ownership records

`app/gateway/session.py`: a session id is mapped in Redis to the tenant, the subject
and the server slug it was issued for.
-/

namespace Portcullis.Gateway.Session

open Lib

def sessionKeyPrefix : String := "mcp-session:"

def sessionTtlSeconds : Nat := 3600

def sessionKey (sessionId : String) : String := sessionKeyPrefix ++ sessionId

def isSessionIdChar (char : Char) : Bool := char.isAlphanum || char == '-' || char == '_'

/-- `SESSION_ID_RE.fullmatch`. -/
def isValidSessionId (sessionId : String) : Bool :=
  let chars := sessionId.toList
  decide (8 ≤ chars.length) && decide (chars.length ≤ 128) && chars.all isSessionIdChar

structure SessionRecord where
  tenantId : String
  subjectId : String
  serverSlug : String
  deriving DecidableEq, Repr

def matchesOwner (record : Option SessionRecord) (tenantId : Uuid)
    (subjectId serverSlug : String) : Bool :=
  match record with
  | none => false
  | some record =>
    decide (record.tenantId = tenantId.str) && decide (record.subjectId = subjectId) &&
      decide (record.serverSlug = serverSlug)

/-! ## Stored text -/

def hexChar (nibble : Nat) : Char := Uuid.hexDigit nibble

def unicodeEscape (unit : Nat) : List Char :=
  ['\\', 'u', hexChar (unit / 4096 % 16), hexChar (unit / 256 % 16),
    hexChar (unit / 16 % 16), hexChar (unit % 16)]

/-- One character in the ASCII-only output of `json.dumps`. -/
def escapeChar (char : Char) : List Char :=
  let code := char.toNat
  if char = '"' then ['\\', '"']
  else if char = '\\' then ['\\', '\\']
  else if char = '\n' then ['\\', 'n']
  else if char = '\r' then ['\\', 'r']
  else if char = '\t' then ['\\', 't']
  else if code = 8 then ['\\', 'b']
  else if code = 12 then ['\\', 'f']
  else if 0x20 ≤ code ∧ code ≤ 0x7E then [char]
  else if code < 0x10000 then unicodeEscape code
  else
    unicodeEscape (0xD800 + (code - 0x10000) / 0x400) ++
      unicodeEscape (0xDC00 + (code - 0x10000) % 0x400)

def quoted (text : String) : String :=
  "\"" ++ String.ofList (text.toList.flatMap escapeChar) ++ "\""

/-- `json.dumps(payload)`. -/
def payloadText (tenantId : Uuid) (subjectId serverSlug : String) : String :=
  "\x7b\"tenant_id\": " ++ quoted tenantId.str ++ ", \"subject_id\": " ++ quoted subjectId ++
    ", \"server_slug\": " ++ quoted serverSlug ++ "\x7d"

/-- `str(payload[key])` for the three keys; `none` is a caught `KeyError` or
`TypeError`. -/
def recordOf (strOf : Json → String) : Json → Option SessionRecord
  | .obj payload => do
    let tenantId ← Json.get "tenant_id" payload
    let subjectId ← Json.get "subject_id" payload
    let serverSlug ← Json.get "server_slug" payload
    some ⟨text tenantId, text subjectId, text serverSlug⟩
  | _ => none
where
  text (value : Json) : String :=
    match value with
    | .str value => value
    | value => strOf value

/-! ## Store operations -/

/-- `SessionStore.lookup`.  A failing `GET` reads as an unknown session; a failing
`EXPIRE` raises. -/
def lookup (platform : Platform) (sessionId : String) : Gate (Option SessionRecord) := do
  match ← request (.redisGet (sessionKey sessionId)) with
  | .error _ => pure none
  | .ok none => pure none
  | .ok (some raw) =>
    match (Json.parseText platform.jsonLimits raw.toList).map (Json.resolve .last) with
    | .error .decodeError => pure none
    | .error (.tooManyDigits _) => pure none
    | .error .recursionError => raise .recursionError
    | .ok payload => do
      orRaise (← request (.redisExpire (sessionKey sessionId) sessionTtlSeconds))
      pure (recordOf platform.strOf payload)

def record (sessionId : String) (tenantId : Uuid) (subjectId serverSlug : String) :
    Gate Unit :=
  if isValidSessionId sessionId then do
    orRaise (← request (.redisSet (sessionKey sessionId)
      (payloadText tenantId subjectId serverSlug) sessionTtlSeconds))
  else pure ()

/-- `SessionStore.delete`, best effort. -/
def delete (sessionId : String) : Gate Unit := do
  let _ ← request (.redisDelete (sessionKey sessionId))
  pure ()

end Portcullis.Gateway.Session
