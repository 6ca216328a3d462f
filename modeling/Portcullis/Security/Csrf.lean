import Portcullis.Auth.Rbac
import Portcullis.Lib.PyStr

/-!
# Cookie sessions and forged requests

`app/security/csrf.py` beside `current_subject` of `app/auth/dependencies.py`.  Both read the
same headers and cookies and decide apart: the middleware, by path and header, whether a
request has to carry the double-submit pair, and the dependency, by what is left of the header,
whether the cookie authenticates it.
-/

namespace Portcullis.Security.Csrf

open List

open Auth.Rbac (Subject)
open Lib.PyStr

structure Request where
  method : String
  path : String
  authorization : Option String
  csrfHeader : Option String
  authCookie : Option String
  csrfCookie : Option String
  deriving DecidableEq, Repr

/-- `get(name, "")` of a header or cookie. -/
def text (value : Option String) : List Char := (value.getD "").toList

/-! ## The middleware -/

def mutatingMethods : List String := ["POST", "PUT", "PATCH", "DELETE"]

def sessionEstablishing : List String := ["/auth/login", "/auth/register"]

def gatedRoots : List String := ["/v1/", "/auth/", "/mcp/"]

def isGated (path : String) : Bool :=
  gatedRoots.any fun root => root.toList.isPrefixOf path.toList

def needsCheck (request : Request) : Bool :=
  if !mutatingMethods.contains request.method then false
  else if sessionEstablishing.contains request.path then false
  else if !isGated request.path then false
  else if ["/healthz", "/metrics", "/openapi.json"].contains request.path then false
  else if !(strip (text request.authorization)).isEmpty then false
  else !(text request.authCookie).isEmpty

def isAscii (chars : List Char) : Bool := chars.all fun char => char.toNat < 128

/-- `hmac.compare_digest`, which raises on a text that is not ASCII. -/
def compareDigest (left right : List Char) : Except String Bool :=
  if isAscii left && isAscii right then .ok (left == right)
  else .error "comparing strings with non-ASCII characters is not supported"

def validateCsrf (request : Request) : Except String Bool :=
  let header := text request.csrfHeader
  let cookie := text request.csrfCookie
  if header.isEmpty || cookie.isEmpty then .ok false else compareDigest header cookie

inductive Outcome where
  | forwarded
  | rejected (status : Nat) (detail : String)
  | raised (message : String)
  deriving DecidableEq, Repr

def dispatch (request : Request) : Outcome :=
  if needsCheck request then
    match validateCsrf request with
    | .ok true => .forwarded
    | .ok false => .rejected 403 "CSRF validation failed"
    | .error message => .raised message
  else .forwarded

/-! ## The dependency -/

structure HttpError where
  status : Nat
  detail : String
  deriving DecidableEq, Repr

def unauthorized : HttpError := ⟨401, "Invalid or missing credentials"⟩

def bearerToken (request : Request) : List Char :=
  strip (removePrefix "Bearer ".toList (text request.authorization))

def cookieToken (request : Request) : List Char := strip (text request.authCookie)

variable (authenticate : List Char → Except String Subject)

def currentSubject (request : Request) : Except HttpError Subject :=
  let raw :=
    if (bearerToken request).isEmpty then cookieToken request else bearerToken request
  if raw.isEmpty then .error unauthorized
  else
    match authenticate raw with
    | .ok subject => .ok subject
    | .error _ => .error unauthorized

/-- The header leaves no credential, and the one of the cookie is accepted. -/
def FromCookie (request : Request) : Prop :=
  bearerToken request = [] ∧ ∃ subject, currentSubject authenticate request = .ok subject

/-! ## Which requests get through -/

/-- The header has a token, which is the one of the cookie. -/
def Paired (request : Request) : Prop :=
  text request.csrfHeader ≠ [] ∧ text request.csrfHeader = text request.csrfCookie

/-- A scheme and nothing but white space. -/
def BlankBearer (request : Request) : Prop :=
  ∃ blank, text request.authorization = "Bearer ".toList ++ blank ∧
    ∀ char ∈ blank, isSpace char = true

variable {authenticate} {request : Request}

theorem FromCookie.cookie (fromCookie : FromCookie authenticate request) :
    text request.authCookie ≠ [] := by
  obtain ⟨blank, subject, acc⟩ := fromCookie
  intro missing
  have none : cookieToken request = [] := by rw [cookieToken, missing]; rfl
  simp [currentSubject, blank, none] at acc

theorem strip_authorization_iff (blank : bearerToken request = []) :
    strip (text request.authorization) = [] ↔ ¬ BlankBearer request := by
  rw [bearerToken, removePrefix] at blank
  split at blank
  · rename_i started
    obtain ⟨rest, whole⟩ := isPrefixOf_iff_prefix.mp started
    rw [← whole, drop_left, strip_eq_nil_iff] at blank
    refine iff_of_false (fun stripped => ?_) fun none => none ⟨rest, whole.symm, blank⟩
    have spaced := (strip_eq_nil_iff _).mp stripped 'B' (by rw [← whole]; simp)
    exact absurd spaced (by decide)
  · rename_i other
    refine iff_of_true blank ?_
    rintro ⟨rest, whole, _⟩
    exact other ( isPrefixOf_iff_prefix.mpr ⟨rest, whole.symm⟩)

theorem needsCheck_iff (mutating : request.method ∈ mutatingMethods)
    (acting : request.path ∉ sessionEstablishing)
    (fromCookie : FromCookie authenticate request) :
    needsCheck request = true ↔ isGated request.path = true ∧ ¬ BlankBearer request := by
  have outside : isGated request.path = true →
      ["/healthz", "/metrics", "/openapi.json"].contains request.path = false := by
    intro gated
    by_contra open'
    simp only [contains_iff_mem, Bool.not_eq_false, mem_cons, not_mem_nil,
      or_false] at open'
    rcases open' with same | same | same <;> exact absurd gated (by rw [same]; decide)
  have known : mutatingMethods.contains request.method = true :=
    contains_iff_mem.mpr mutating
  have other : sessionEstablishing.contains request.path = false := by
    simpa using acting
  have cookie : (text request.authCookie).isEmpty = false := by
    simpa using fromCookie.cookie
  rw [← strip_authorization_iff fromCookie.1]
  cases gated : isGated request.path with
  | false => simp only [needsCheck, gated]; simp
  | true =>
    simp only [needsCheck, known, other, gated, outside gated, cookie]
    simp

theorem compareDigest_iff (left right : List Char) :
    compareDigest left right = .ok true ↔ left = right ∧ isAscii left = true := by
  unfold compareDigest
  split
  · rename_i ascii
    rw [Bool.and_eq_true] at ascii
    simp [ascii.1]
  · rename_i foreign
    refine iff_of_false nofun ?_
    rintro ⟨rfl, ascii⟩
    exact foreign (by rw [ascii]; rfl)

theorem validateCsrf_iff : validateCsrf request = .ok true ↔
      Paired request ∧ isAscii (text request.csrfHeader) = true := by
  unfold validateCsrf Paired
  dsimp only
  split
  · rename_i missing
    rw [Bool.or_eq_true, List.isEmpty_iff, List.isEmpty_iff] at missing
    refine iff_of_false (by simp) ?_
    rintro ⟨⟨given, same⟩, _⟩
    rw [← same, or_self] at missing
    exact given missing
  · rename_i present
    rw [Bool.or_eq_true, List.isEmpty_iff, List.isEmpty_iff, not_or] at present
    rw [compareDigest_iff, and_iff_right present.1]

def acceptAll : List Char → Except String Subject :=
  fun _ => .ok ⟨"subject", .apiKey, ⟨1#128⟩⟩

def provisioning : Request where
  method := "POST"
  path := "/scim/Users"
  authorization := none
  csrfHeader := none
  authCookie := some "session"
  csrfCookie := none

def forged : Request :=
  { provisioning with
    path := "/v1/servers"
    authorization := some ("Bearer " ++ String.singleton (Char.ofNat 0xA0)) }

end Portcullis.Security.Csrf
