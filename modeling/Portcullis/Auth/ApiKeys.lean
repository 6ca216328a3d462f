import Portcullis.Auth.Passwords
import Portcullis.Auth.Rbac
import Portcullis.Lib.Table

/-!
# API keys

Issuance, verification and revocation of `app/auth/api_keys.py` over the rows of the keys
table, and the dispatch of `app/auth/authenticate.py`.  A key reads
`pk_<prefix>_<secret>`; the row is found by the prefix and holds a hash of the secret with
a pepper.  The hash computed for an unknown prefix, a defence against timing, has no
influence on the result and is left out.
-/

namespace Portcullis.Auth.ApiKeys

open Auth.Passwords Auth.Rbac Lib Models List

/-! ## The text of a key -/

structure ValueError where
  message : String
  deriving DecidableEq, Repr

def isUrlSafe (char : Char) : Bool := char.isAlphanum || char == '-' || char == '_'

/-- What `secrets.token_urlsafe` draws. -/
structure UrlToken (length : Nat) where
  chars : List Char
  length_chars : chars.length = length
  urlSafe : chars.all isUrlSafe = true

/-- Six random bytes. -/
def prefixLength : Nat := 8

/-- Thirty-two random bytes. -/
def secretLength : Nat := 43

def keyMarker : List Char := "pk_".toList

structure KeyText where
  keyPrefix : UrlToken prefixLength
  secret : UrlToken secretLength

def KeyText.plaintext (text : KeyText) : String :=
  String.ofList (keyMarker ++ text.keyPrefix.chars ++ '_' :: text.secret.chars)

/-- The `$` of the key pattern also matches right before a final newline. -/
def keyBody (raw : String) : List Char :=
  if raw.toList.getLast? = some '\n' then raw.toList.dropLast else raw.toList

def parseKey (raw : String) : Except ValueError (String × String) :=
  let tail := (keyBody raw).drop keyMarker.length
  let keyPrefix := tail.take prefixLength
  let secret := tail.drop (prefixLength + 1)
  if keyMarker.isPrefixOf (keyBody raw) ∧ keyPrefix.length = prefixLength ∧
      keyPrefix.all isUrlSafe ∧ (tail.drop prefixLength).head? = some '_' ∧
      secret.length = secretLength ∧ secret.all isUrlSafe then
    .ok (String.ofList keyPrefix, String.ofList secret)
  else .error ⟨"invalid API key format"⟩

theorem UrlToken.getLast?_ne_newline {length : Nat} (token : UrlToken length) :
    token.chars.getLast? ≠ some '\n' := by
  intro last
  have safe := all_eq_true.mp token.urlSafe '\n' (mem_of_getLast? last)
  exact absurd safe (by decide)

theorem keyBody_plaintext (text : KeyText) : keyBody text.plaintext =
      keyMarker ++ (text.keyPrefix.chars ++ '_' :: text.secret.chars) := by
  have unbroken : (keyMarker ++ (text.keyPrefix.chars ++ '_' :: text.secret.chars)).getLast? ≠
      some '\n' := by
    cases secret : text.secret.chars with
    | nil =>
      have length := text.secret.length_chars
      rw [secret] at length
      cases length
    | cons first rest =>
      have last := text.secret.getLast?_ne_newline
      rw [secret] at last
      simpa using last
  rw [keyBody, KeyText.plaintext, String.toList_ofList, append_assoc, if_neg unbroken]

theorem parseKey_plaintext (text : KeyText) : parseKey text.plaintext =
      .ok (String.ofList text.keyPrefix.chars, String.ofList text.secret.chars) := by
  have length := text.keyPrefix.length_chars
  have afterMarker : (text.keyPrefix.chars ++ '_' :: text.secret.chars).drop (prefixLength + 1) =
      text.secret.chars := by
    rw [← drop_drop, drop_left' length]
    rfl
  unfold parseKey
  rw [keyBody_plaintext]
  dsimp only
  rw [drop_left, take_left' length, drop_left' length, afterMarker]
  exact if_pos ⟨by simp, length, text.keyPrefix.urlSafe, rfl, text.secret.length_chars,
    text.secret.urlSafe⟩

/-! ## Unique reading -/

theorem of_parseKey {raw : String} {found : String × String} (parsed : parseKey raw = .ok found) :
    ∃ text : KeyText, keyBody raw = text.plaintext.toList := by
  unfold parseKey at parsed
  generalize keyBody raw = body at parsed ⊢
  dsimp only at parsed
  split at parsed
  · rename_i acc
    obtain ⟨marked, prefixFull, prefixSafe, separated, secretFull, secretSafe⟩ := acc
    obtain ⟨tail, rfl⟩ := isPrefixOf_iff_prefix.mp marked
    rw [drop_left] at prefixFull prefixSafe separated secretFull secretSafe
    refine ⟨⟨⟨_, prefixFull, prefixSafe⟩, ⟨_, secretFull, secretSafe⟩⟩, ?_⟩
    obtain ⟨rest, behind⟩ := List.head?_eq_some_iff.mp separated
    have secret : tail.drop (prefixLength + 1) = rest := by
      rw [← drop_drop, behind]
      rfl
    rw [KeyText.plaintext, String.toList_ofList, append_assoc]
    dsimp only
    rw [secret, ← behind, take_append_drop]
  · cases parsed

theorem keyBody_cases (raw : String) :
    keyBody raw = raw.toList ∨ raw.toList = keyBody raw ++ ['\n'] := by
  unfold keyBody
  split
  · rename_i broken
    exact .inr (dropLast_append_getLast? '\n' broken).symm
  · exact .inl rfl

theorem parseKey_newline (text : KeyText) :
    parseKey (text.plaintext ++ "\n") = parseKey text.plaintext := by
  have sameBody : keyBody (text.plaintext ++ "\n") = keyBody text.plaintext := by
    rw [keyBody_plaintext, keyBody, String.toList_append, show "\n".toList = ['\n'] from rfl,
      if_pos List.getLast?_concat, dropLast_concat, KeyText.plaintext, String.toList_ofList,
      append_assoc]
  unfold parseKey
  rw [sameBody]

theorem length_plaintext (text : KeyText) :
    text.plaintext.toList.length = keyMarker.length + prefixLength + secretLength + 1 := by
  rw [KeyText.plaintext, String.toList_ofList, length_append, length_append,
    length_cons, text.keyPrefix.length_chars, text.secret.length_chars]
  omega

theorem plaintext_newline_ne (text other : KeyText) : text.plaintext ++ "\n" ≠ other.plaintext := by
  intro same
  have lengths := congrArg (fun raw => raw.toList.length) same
  simp only [String.toList_append, length_append, length_plaintext] at lengths
  exact absurd lengths (by decide)

/-- `parse_key` inverts the text of a key, and it refuses another string just if that is not the
text of a key with a newline at its end. -/
theorem parseKey_inverts_iff (raw : String) : ((∀ text : KeyText, parseKey text.plaintext =
        .ok (String.ofList text.keyPrefix.chars, String.ofList text.secret.chars)) ∧
      ((¬ ∃ text : KeyText, raw = text.plaintext) →
        parseKey raw = .error ⟨"invalid API key format"⟩)) ↔
      ¬ ∃ text : KeyText, raw = text.plaintext ++ "\n" := by
  constructor
  · rintro ⟨-, refuses⟩ ⟨text, rfl⟩
    have refused := refuses fun ⟨other, same⟩ => plaintext_newline_ne text other same
    rw [parseKey_newline, parseKey_plaintext] at refused
    cases refused
  · intro unbroken
    refine ⟨parseKey_plaintext, fun unformed => ?_⟩
    cases parsed : parseKey raw with
    | error refusal =>
      unfold parseKey at parsed
      dsimp only at parsed
      split at parsed
      · cases parsed
      · exact parsed.symm
    | ok found =>
      obtain ⟨text, body⟩ := of_parseKey parsed
      rcases keyBody_cases raw with whole | broken
      · exact absurd ⟨text, String.toList_inj.mp (whole.symm.trans body)⟩ unformed
      · refine absurd ⟨text, String.toList_inj.mp ?_⟩ unbroken
        rw [broken, body, String.toList_append]
        rfl

def plainKey : KeyText := ⟨⟨List.replicate 8 'A', rfl, rfl⟩, ⟨List.replicate 43 'b', rfl, rfl⟩⟩

/-- A key with a newline at its end is no key, and is parsed like the key. -/
theorem parseKey_accepts_newline :
    (¬ ∃ text : KeyText, plainKey.plaintext ++ "\n" = text.plaintext) ∧
      parseKey (plainKey.plaintext ++ "\n") =
        .ok (String.ofList plainKey.keyPrefix.chars, String.ofList plainKey.secret.chars) :=
  ⟨fun ⟨text, same⟩ => plaintext_newline_ne plainKey text same,
    (parseKey_newline plainKey).trans (parseKey_plaintext plainKey)⟩

/-! ## The table -/

inductive DbError where
  | integrityError
  | dataError
  deriving DecidableEq, Repr

/-- The primary key and the unique prefix. -/
def KeyConflict (left right : ApiKey) : Prop :=
  left.id = right.id ∨ left.keyPrefix = right.keyPrefix

instance : DecidableRel KeyConflict := fun left right =>
  inferInstanceAs (Decidable (left.id = right.id ∨ left.keyPrefix = right.keyPrefix))

instance : Std.Symm KeyConflict := ⟨fun _ _ conflict => conflict.imp Eq.symm Eq.symm⟩

abbrev KeyTable := Table KeyConflict

def nameLength : Nat := 200

def insertKey (table : KeyTable) (row : ApiKey) : Except DbError KeyTable :=
  if nameLength < row.name.length then .error .dataError
  else match table.insert row with
    | some inserted => .ok inserted
    | none => .error .integrityError

theorem insertKey_ok_iff {table inserted : KeyTable} {row : ApiKey} :
    insertKey table row = .ok inserted ↔
      row.name.length ≤ nameLength ∧ table.insert row = some inserted := by
  unfold insertKey
  split
  · rename_i long
    exact ⟨nofun, fun fits => absurd fits.1 (Nat.not_le.mpr long)⟩
  rename_i short
  cases table.insert row with
  | none => exact ⟨nofun, fun fits => nomatch fits.2⟩
  | some added =>
    exact ⟨fun same => ⟨Nat.not_lt.mp short, congrArg some (Except.ok.inj same)⟩,
      fun fits => congrArg Except.ok (Option.some.inj fits.2)⟩

/-- `get_by_prefix`: the key that is not revoked. -/
def getByPrefix (table : KeyTable) (keyPrefix : String) : Option ApiKey :=
  table.rows.find? fun row => row.keyPrefix = keyPrefix && row.revokedAt.isNone

def revokes (keyId tenantId : Uuid) (row : ApiKey) : Bool :=
  row.id = keyId && row.tenantId = tenantId && row.revokedAt.isNone

def revoked (keyId tenantId : Uuid) (now : Instant) (row : ApiKey) : ApiKey :=
  if revokes keyId tenantId row then { row with revokedAt := some now } else row

def stamped (keyId : Uuid) (now : Instant) (row : ApiKey) : ApiKey :=
  if row.id = keyId then { row with lastUsedAt := some now } else row

theorem keyConflict_of_same {change : ApiKey → ApiKey}
    (same : ∀ row, (change row).id = row.id ∧ (change row).keyPrefix = row.keyPrefix)
    (left right : ApiKey) (conflict : KeyConflict (change left) (change right)) :
    KeyConflict left right := by
  rw [KeyConflict, (same left).1, (same left).2, (same right).1, (same right).2] at conflict
  exact conflict

def updateLastUsed (table : KeyTable) (keyId : Uuid) (now : Instant) : KeyTable :=
  table.update (stamped keyId now) (keyConflict_of_same fun row => by
    unfold stamped
    split <;> exact ⟨rfl, rfl⟩)

/-- `revoke_key`; `none` is the `KeyError` of a key that is missing or revoked. -/
def revokeKey (table : KeyTable) (keyId tenantId : Uuid) (now : Instant) : Option KeyTable :=
  if table.rows.any (revokes keyId tenantId) then
    some (table.update (revoked keyId tenantId now) (keyConflict_of_same fun row => by
      unfold revoked
      split <;> exact ⟨rfl, rfl⟩))
  else none

/-! ## Issuance and verification -/

/-- A subject with its scopes. -/
structure Principal extends Subject where
  scopes : Finset String
  deriving DecidableEq

structure IssuedKey where
  keyId : Uuid
  plaintext : String
  keyPrefix : String
  scopes : Finset String
  deriving DecidableEq

/-- What a call of `issue_key` is given, the random draws included. -/
structure IssueArgs where
  newId : Uuid
  text : KeyText
  salt : BitVec 128
  name : String
  scopes : List String
  tenantId : Uuid
  userId : Option Uuid

/-- What `verify_jwt` returns; its subjects are OAuth subjects. -/
structure OauthIdentity where
  subjectId : String
  tenantId : Uuid
  scopes : Finset String

def OauthIdentity.principal (identity : OauthIdentity) : Principal :=
  ⟨⟨identity.subjectId, .oauthSubject, identity.tenantId⟩, identity.scopes⟩

def keyPrincipal (row : ApiKey) : Principal :=
  ⟨⟨row.id.str, .apiKey, row.tenantId⟩, row.scopes.toFinset⟩

def microsecondsPerHour : Int := 3600 * 1000000

section Service

variable (argon2 : Hasher)

def issuedRow (args : IssueArgs) (pepper : String) : ApiKey where
  id := args.newId
  tenantId := args.tenantId
  userId := args.userId
  name := args.name
  keyPrefix := String.ofList args.text.keyPrefix.chars
  keyHash := argon2.hash args.salt (String.ofList args.text.secret.chars ++ pepper)
  scopes := args.scopes
  lastUsedAt := none
  revokedAt := none

def issueKey (table : KeyTable) (args : IssueArgs) (pepper : String) :
    Except DbError (KeyTable × IssuedKey) := do
  let inserted ← insertKey table (issuedRow argon2 args pepper)
  pure (inserted, ⟨args.newId, args.text.plaintext, String.ofList args.text.keyPrefix.chars,
    args.scopes.toFinset⟩)

variable {after table : KeyTable} {row : ApiKey}

theorem issueKey_ok_iff {before : KeyTable} {args : IssueArgs} {pepper : String}
    {issued : IssuedKey} :
    issueKey argon2 before args pepper = .ok (after, issued) ↔ args.name.length ≤ nameLength ∧
        before.insert (issuedRow argon2 args pepper) = some after ∧
        issued = ⟨args.newId, args.text.plaintext, String.ofList args.text.keyPrefix.chars,
          args.scopes.toFinset⟩ := by
  have stored : insertKey before (issuedRow argon2 args pepper) = .ok after ↔
      args.name.length ≤ nameLength ∧ before.insert (issuedRow argon2 args pepper) = some after :=
    insertKey_ok_iff
  rw [← and_assoc, ← stored]
  unfold issueKey
  cases insertKey before (issuedRow argon2 args pepper) with
  | error error => exact ⟨nofun, fun both => nomatch both.1⟩
  | ok table =>
    constructor
    · intro issuing
      obtain ⟨rfl, rfl⟩ := Prod.mk.inj (Except.ok.inj issuing)
      exact ⟨rfl, rfl⟩
    · rintro ⟨same, rfl⟩
      rw [Except.ok.inj same]
      rfl

theorem issueKey_ok {before : KeyTable} {args : IssueArgs} {pepper : String} {issued : IssuedKey}
    (issuing : issueKey argon2 before args pepper = .ok (after, issued)) :
    after.rows = before.rows ++ [issuedRow argon2 args pepper] ∧
      issued.plaintext = args.text.plaintext := by
  obtain ⟨_, ins, rfl⟩ := (issueKey_ok_iff argon2).mp issuing
  exact ⟨(Table.of_insert ins).1, rfl⟩

/-- The stored hash verifies the secret under the pepper or under another fallback. -/
def secretVerifies (row : ApiKey) (secret pepper : String) (fallbackPepper : Option String) :
    Bool :=
  if argon2.verify row.keyHash (secret ++ pepper) then true
  else match fallbackPepper with
    | some fallback =>
      if fallback ≠ "" ∧ fallback ≠ pepper then argon2.verify row.keyHash (secret ++ fallback)
      else false
    | none => false

/-- The write of `last_used_at`, at most once in an hour. -/
def noteUse (table : KeyTable) (row : ApiKey) (now : Instant) : KeyTable :=
  match row.lastUsedAt with
  | some last =>
    if microsecondsPerHour ≤ now - last then updateLastUsed table row.id now else table
  | none => updateLastUsed table row.id now

def verifyKey (table : KeyTable) (now : Instant) (raw pepper : String)
    (fallbackPepper : Option String) : Except ValueError (Principal × KeyTable) :=
  match parseKey raw with
  | .error _ => .error ⟨"invalid API key"⟩
  | .ok (keyPrefix, secret) =>
    match getByPrefix table keyPrefix with
    | none => .error ⟨"invalid API key"⟩
    | some row =>
      if secretVerifies argon2 row secret pepper fallbackPepper then
        .ok (keyPrincipal row, noteUse table row now)
      else .error ⟨"invalid API key"⟩

/-- `authenticate`.  Without a JWKS URL no other token is accepted. -/
def authenticate (peppers : PepperSettings)
    (verifyJwt : Option (String → Except ValueError OauthIdentity)) (table : KeyTable)
    (now : Instant) (raw : String) : Except ValueError (Principal × KeyTable) :=
  if keyMarker.isPrefixOf raw.toList then
    verifyKey argon2 table now raw peppers.activePepper (some peppers.apiKeyPepper.val)
  else match verifyJwt with
    | none => .error ⟨"invalid bearer token"⟩
    | some verify => (verify raw).map fun identity => (identity.principal, table)

/-! ## What authenticates -/

theorem getByPrefix_of_mem (mem : row ∈ table.rows) (live : row.revokedAt = none) :
    getByPrefix table row.keyPrefix = some row := by
  refine table.find?_of_mem _ mem (by simp [live]) fun other sel => .inr ?_
  simp only [Bool.and_eq_true, decide_eq_true_eq] at sel
  exact sel.1

theorem live_of_getByPrefix {keyPrefix : String} (found : getByPrefix table keyPrefix = some row) :
    row ∈ table.rows ∧ row.revokedAt = none := by
  have sel := List.find?_some found
  simp only [Bool.and_eq_true, Option.isNone_iff_eq_none] at sel
  exact ⟨mem_of_find?_eq_some found, sel.2⟩

/-- The row of a key text, hashed under a pepper. -/
structure Hashes (row : ApiKey) (text : KeyText) (pepper : Pepper) : Prop where
  keyPrefix : row.keyPrefix = String.ofList text.keyPrefix.chars
  keyHash : ∃ salt, row.keyHash = argon2.hash salt (String.ofList text.secret.chars ++ pepper)

variable {argon2}

theorem secretVerifies_peppered {text : KeyText} {pepper : Pepper}
    (hashes : Hashes argon2 row text pepper) (peppers : PepperSettings) :
    secretVerifies argon2 row (String.ofList text.secret.chars) peppers.activePepper
        (some peppers.apiKeyPepper.val) =
      decide (pepper = peppers.activePepper ∨ pepper = peppers.apiKeyPepper) := by
  obtain ⟨salt, keyHash⟩ := hashes.keyHash
  unfold secretVerifies
  rw [keyHash, argon2.verify_peppered]
  by_cases same : peppers.apiKeyPepper = peppers.activePepper
  · simp [same]
  have apart : peppers.apiKeyPepper.val ≠ "" ∧
      peppers.apiKeyPepper.val ≠ peppers.activePepper.val :=
    ⟨peppers.apiKeyPepper.val_ne_empty, fun equal => same (Subtype.ext equal)⟩
  dsimp only
  rw [if_pos apart, argon2.verify_peppered]
  by_cases own : pepper = peppers.activePepper <;> simp

theorem authenticate_plaintext {text : KeyText} {pepper : Pepper} (mem : row ∈ table.rows)
    (live : row.revokedAt = none) (hashes : Hashes argon2 row text pepper)
    (peppers : PepperSettings) (verifyJwt : Option (String → Except ValueError OauthIdentity))
    (now : Instant) :
    authenticate argon2 peppers verifyJwt table now text.plaintext =
      if pepper = peppers.activePepper ∨ pepper = peppers.apiKeyPepper then
        .ok (keyPrincipal row, noteUse table row now)
      else .error ⟨"invalid API key"⟩ := by
  have marked : keyMarker.isPrefixOf text.plaintext.toList = true := by
    rw [KeyText.plaintext, String.toList_ofList, append_assoc]
    simp
  have found := getByPrefix_of_mem mem live
  rw [hashes.keyPrefix] at found
  unfold authenticate verifyKey
  simp only [marked, if_true, parseKey_plaintext, found, secretVerifies_peppered hashes,
    decide_eq_true_eq]

theorem live_of_authenticate {peppers : PepperSettings}
    {verifyJwt : Option (String → Except ValueError OauthIdentity)} {now : Instant} {raw : String}
    {principal : Principal}
    (acc : authenticate argon2 peppers verifyJwt table now raw = .ok (principal, after))
    (isKey : principal.subjectType = .apiKey) :
    ∃ row ∈ table.rows, row.revokedAt = none ∧ principal = keyPrincipal row := by
  unfold authenticate at acc
  split at acc
  · unfold verifyKey at acc
    split at acc
    · cases acc
    split at acc
    · cases acc
    rename_i row found
    split at acc
    · obtain ⟨mem, live⟩ := live_of_getByPrefix found
      exact ⟨row, mem, live, (Prod.mk.inj (Except.ok.inj acc)).1.symm⟩
    · cases acc
  · split at acc
    · cases acc
    rename_i verify
    cases verified : verify raw with
    | error failure =>
      rw [verified] at acc
      cases acc
    | ok identity =>
      rw [verified] at acc
      obtain ⟨rfl, _⟩ := Prod.mk.inj (Except.ok.inj acc)
      cases isKey

end Service

end Portcullis.Auth.ApiKeys
