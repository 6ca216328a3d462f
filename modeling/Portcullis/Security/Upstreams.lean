import Portcullis.Lib.PyStr

/-!
# Upstream URL validation

`app/security/upstreams.py` with the parts of `urllib.parse` it reads: scheme,
network location, fragment and host name.
-/

namespace Portcullis.Security.Upstreams

open Lib.PyStr

inductive Environment where
  | development
  | staging
  | production
  deriving DecidableEq, Repr

/-- What `urllib.parse` and `str.lower` take from Unicode and IPv6 tables: the lower
case of a text, whether a bracketed host is an IPv6 or future address, and whether
the NFKC form of a network location gains one of `/?#@:`. -/
structure UrlTables where
  lower : List Char → List Char
  bracketedHost : List Char → Bool
  nfkcSplits : List Char → Bool
  lowerAscii : ∀ text, (∀ char ∈ text, char.toNat < 128) → lower text = text.map Char.toLower

def isSchemeChar (char : Char) : Bool :=
  char.isAlphanum || char == '+' || char == '-' || char == '.'

def isAsciiText (text : List Char) : Bool := text.all fun char => char.toNat < 128

/-- Scheme and remainder; a colon after other characters starts no scheme. -/
def splitScheme (url : List Char) : List Char × List Char :=
  match splitOnce ':' url with
  | none => ([], url)
  | some (scheme, rest) =>
    match scheme with
    | [] => ([], url)
    | first :: _ =>
      if first.isAlpha && scheme.all isSchemeChar then (scheme.map Char.toLower, rest)
      else ([], url)

def isNetlocEnd (char : Char) : Bool := char == '/' || char == '?' || char == '#'

structure SplitUrl where
  scheme : List Char
  netloc : List Char
  fragment : List Char
  deriving DecidableEq, Repr

inductive UrlError where
  | invalidIpv6
  | invalidBracketedHost
  | nfkc
  | fragment
  | credentials
  | notHttps (environment : Environment) (scheme : List Char)
  | notHttp (scheme : List Char)
  | hostNotAllowed (hostname : List Char)
  deriving DecidableEq, Repr

variable (tables : UrlTables)

def bracketError (netloc : List Char) : Option UrlError :=
  match splitOnce '[' netloc with
  | none => if netloc.contains ']' then some .invalidIpv6 else none
  | some (_, inside) =>
    if !netloc.contains ']' then some .invalidIpv6
    else
      let host := ((splitOnce ']' inside).getD (inside, [])).1
      if tables.bracketedHost host then none else some .invalidBracketedHost

/-- `urlsplit`: leading control characters and blanks are dropped, then tabs and line
breaks anywhere. -/
def urlsplit (url : List Char) : Except UrlError SplitUrl :=
  let stripped := url.dropWhile fun char => decide (char.toNat ≤ 0x20)
  let cleaned := removeChar '\n' (removeChar '\r' (removeChar '\t' stripped))
  let (scheme, rest) := splitScheme cleaned
  let (netloc, path) := match rest with
    | '/' :: '/' :: location => location.span fun char => !isNetlocEnd char
    | _ => ([], rest)
  match bracketError tables netloc with
  | some failure => .error failure
  | none =>
    let fragment := ((splitOnce '#' path).getD (path, [])).2
    if !isAsciiText netloc && tables.nfkcSplits netloc then .error .nfkc
    else .ok { scheme := scheme, netloc := netloc, fragment := fragment }

def afterLast (separator : Char) (text : List Char) : List Char :=
  (text.reverse.takeWhile fun char => decide (char ≠ separator)).reverse

/-- The `hostname` property; the zone of a scoped address keeps its case. -/
def hostname (netloc : List Char) : List Char :=
  let hostinfo := afterLast '@' netloc
  let host := match splitOnce '[' hostinfo with
    | some (_, bracketed) => ((splitOnce ']' bracketed).getD (bracketed, [])).1
    | none => ((splitOnce ':' hostinfo).getD (hostinfo, [])).1
  match splitOnce '%' host with
  | some (address, zone) => tables.lower address ++ '%' :: zone
  | none => tables.lower host

def schemeError (environment : Environment) (scheme : List Char) : Option UrlError :=
  match environment with
  | .production | .staging =>
    if scheme ≠ "https".toList then some (.notHttps environment scheme) else none
  | .development =>
    if scheme ≠ "http".toList ∧ scheme ≠ "https".toList then some (.notHttp scheme)
    else none

def validateUpstreamUrl (url : String) (allowedHosts : List String) (environment : Environment) :
    Except UrlError Unit := do
  let parsed ← urlsplit tables url.toList
  if !parsed.fragment.isEmpty then .error .fragment
  else if parsed.netloc.contains '@' then .error .credentials
  else match schemeError environment parsed.scheme with
    | some failure => .error failure
    | none =>
      let host := hostname tables parsed.netloc
      if allowedHosts.any fun allowed =>
          decide (tables.lower host = tables.lower allowed.toList) then .ok ()
      else .error (.hostNotAllowed host)

/-- Tables that cover ASCII locations without bracketed hosts. -/
def asciiTables : UrlTables where
  lower text := text.map Char.toLower
  bracketedHost _ := false
  nfkcSplits _ := true
  lowerAscii _ _ := rfl

example : validateUpstreamUrl asciiTables "https://MCP.internal/mcp"
    ["mcp.internal"] .production = .ok () := by decide

end Portcullis.Security.Upstreams
