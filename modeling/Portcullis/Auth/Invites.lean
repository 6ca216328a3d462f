import Portcullis.Lib.PyStr
import Portcullis.Models.Orm

/-!
# Invitation codes

Minting and lookup of `app/auth/invites.py` over the invitations table, a list of
rows in the order the database returns them.  HMAC-SHA256 and the Unicode case
table are parameters.  Sending the invitation e-mail is left out: its failures are
swallowed and it has no influence on the stored row or on the returned code.
-/

namespace Portcullis.Auth.Invites

open Lib Lib.PyStr Models List

def alphabet : List Char := "ABCDEFGHJKLMNPQRSTUVWXYZ23456789".toList

/-- `_CODE_GROUPS * _GROUP_LEN`. -/
def codeLength : Nat := 12

def groupLen : Nat := 4

theorem alphabet_length : alphabet.length = 32 := by decide

/-- One `secrets.choice` per position. -/
abbrev Draws := Fin codeLength → Fin 32

def drawnChars (draws : Draws) : List Char :=
  List.ofFn fun position => alphabet.get ((draws position).cast alphabet_length.symm)

/-- `generate_code`: the drawn characters in dashed groups of four. -/
def generateCode (draws : Draws) : String :=
  let chars := drawnChars draws
  String.ofList (chars.take groupLen ++ '-' :: (chars.drop groupLen).take groupLen ++
    '-' :: (chars.drop (2 * groupLen)).take groupLen)

/-- `_CODE_RE.match`: twelve characters of the alphabet; `$` also matches right
before a final newline. -/
def codeReMatches (chars : List Char) : Bool :=
  let body := if chars.getLast? = some '\n' then chars.dropLast else chars
  body.length == codeLength && body.all fun char => alphabet.contains char

inductive InviteError where
  | valueError (message : String)
  | inviteLookupError (message : String)
  deriving DecidableEq, Repr

section Service

variable (unicode : CaseMap) (hmacSha256 : String → String → String)

/-- `_hash_code`: keyed by the pepper. -/
def hashCode (code pepper : String) : String := hmacSha256 pepper code

def normalizeCode (raw : String) : Except InviteError String :=
  let compact := removeChar ' ' (removeChar '-' (unicode.upperAll (strip raw.toList)))
  if codeReMatches compact then .ok (String.ofList compact)
  else .error (.valueError "invalid invitation code")

variable (invitations : List Invitation) (draws : Draws) (tenantId : Uuid)

def getByCodeHash (codeHash : String) : Option Invitation :=
  invitations.find? fun row => row.tenantId = tenantId && row.codeHash = codeHash

/-- What a call of `mint` is given, the clock and the random draws included. -/
structure MintArgs where
  draws : Draws
  newId : Uuid
  now : Instant
  tenantId : Uuid
  orgName : String
  pepper : String
  createdBy : Option Uuid
  email : Option String
  expiresInDays : Option Int
  role : OrgRole

def microsecondsPerDay : Int := 86400 * 1000000

/-- The row `mint` stores: the hash is taken of the code as generated. -/
def mintedInvitation (args : MintArgs) : Invitation :=
  { id := args.newId
    tenantId := args.tenantId
    createdBy := args.createdBy
    orgName := args.orgName
    email := args.email
    codeHash := hashCode hmacSha256 (generateCode args.draws) args.pepper
    role := args.role
    status := .active
    redeemedBy := none
    redeemedAt := none
    expiresAt := args.expiresInDays.map fun days => args.now + days * microsecondsPerDay
    revokedAt := none }

/-- `InviteService.mint`: the table after the call, the row and the plaintext. -/
def mint (args : MintArgs) : List Invitation × Invitation × String :=
  let invitation := mintedInvitation hmacSha256 args
  (invitations ++ [invitation], invitation, generateCode args.draws)

def findActive (code pepper : String) (fallbackPepper : Option String) (now : Instant) :
    Except InviteError Invitation :=
  match normalizeCode unicode code with
  | .error _ => .error (.inviteLookupError "invalid invitation code")
  | .ok normalized =>
    let primary := getByCodeHash invitations tenantId
      (hashCode hmacSha256 normalized pepper)
    let found := match primary, fallbackPepper with
      | none, some fallback =>
        if fallback ≠ "" ∧ fallback ≠ pepper then
          getByCodeHash invitations tenantId (hashCode hmacSha256 normalized fallback)
        else none
      | _, _ => primary
    match found with
    | none => .error (.inviteLookupError "invalid invitation code")
    | some invitation =>
      if invitation.status ≠ .active then
        .error (.inviteLookupError "invalid invitation code")
      else if invitation.expiresAt.any (fun expiry => decide (expiry < now)) then
        .error (.inviteLookupError "invalid invitation code")
      else .ok invitation

/-! ## Normal forms -/

theorem mem_alphabet_of_drawn : ∀ char ∈ drawnChars draws, char ∈ alphabet := by
  intro char mem
  obtain ⟨position, rfl⟩ := mem_ofFn.mp mem
  exact get_mem _ _

theorem alphabet_ascii_upper : ∀ char ∈ alphabet,
    char.toNat < 128 ∧ char.toUpper = char ∧ isSpace char = false ∧ char ≠ '-' ∧
      char ≠ ' ' ∧ char ≠ '\n' := by
  have checked : alphabet.all (fun char => decide (char.toNat < 128 ∧ char.toUpper = char ∧
      isSpace char = false ∧ char ≠ '-' ∧ char ≠ ' ' ∧ char ≠ '\n')) = true := by
    decide
  intro char mem
  exact of_decide_eq_true (all_eq_true.mp checked char mem)

theorem removeChar_generateCode :
    removeChar '-' (generateCode draws).toList = drawnChars draws := by
  have noDash : '-' ∉ drawnChars draws := by
    intro mem
    exact (alphabet_ascii_upper '-' (mem_alphabet_of_drawn draws '-' mem)).2.2.2.1 rfl
  have part : ∀ piece : List Char, (∀ char ∈ piece, char ∈ drawnChars draws) →
      removeChar '-' piece = piece := by
    intro piece inside
    exact removeChar_of_not_mem '-' piece fun mem => noDash (inside '-' mem)
  have length : (drawnChars draws).length = 3 * groupLen := by
    simp [drawnChars, codeLength, groupLen]
  have lastGroup : ((drawnChars draws).drop (2 * groupLen)).take groupLen =
      (drawnChars draws).drop (2 * groupLen) := by
    apply take_of_length_le
    rw [length_drop, length]
    omega
  have dashed : ∀ piece : List Char,
      removeChar '-' ('-' :: piece) = removeChar '-' piece := fun piece => by
    simp [removeChar]
  rw [generateCode]
  simp only [String.toList_ofList, removeChar_append, dashed, lastGroup]
  rw [part _ fun char mem => mem_of_mem_take mem,
    part _ fun char mem => mem_of_mem_drop (mem_of_mem_take mem),
    part _ fun char mem => mem_of_mem_drop mem, append_assoc,
    show 2 * groupLen = groupLen + groupLen from rfl, ← drop_drop,
    take_append_drop, take_append_drop]

theorem mem_generateCode (char : Char) (mem : char ∈ (generateCode draws).toList) :
    char = '-' ∨ char ∈ alphabet := by
  by_cases isDash : char = '-'
  · exact Or.inl isDash
  right
  apply mem_alphabet_of_drawn draws
  rw [← removeChar_generateCode draws, removeChar, mem_filter]
  exact ⟨mem, by simpa using isDash⟩

theorem upperAll_generateCode :
    unicode.upperAll (generateCode draws).toList = (generateCode draws).toList := by
  have fixed : ∀ chars : List Char, (∀ char ∈ chars, char = '-' ∨ char ∈ alphabet) →
      unicode.upperAll chars = chars := by
    intro chars inside
    induction chars with
    | nil => rfl
    | cons first rest ih =>
      have firstUpper : unicode.upper first = [first] := by
        rcases inside first (by simp) with rfl | mem
        · exact unicode.ascii '-' (by decide)
        · obtain ⟨ascii, upper, _⟩ := alphabet_ascii_upper first mem
          rw [unicode.ascii first ascii, upper]
      have restUpper := ih fun char mem =>
        inside char (by simp [mem])
      rw [CaseMap.upperAll] at restUpper ⊢
      rw [flatMap_cons, firstUpper, restUpper]
      rfl
  exact fixed _ (mem_generateCode draws)

theorem normalizeCode_generateCode : normalizeCode unicode (generateCode draws) =
      .ok (String.ofList (drawnChars draws)) := by
  have noSpace : ∀ char ∈ (generateCode draws).toList, isSpace char = false := by
    intro char mem
    rcases mem_generateCode draws char mem with rfl | inside
    · decide
    · exact (alphabet_ascii_upper char inside).2.2.1
  have noBlank : ' ' ∉ drawnChars draws := by
    intro mem
    exact (alphabet_ascii_upper ' ' (mem_alphabet_of_drawn draws ' ' mem)).2.2.2.2.1 rfl
  have acc : codeReMatches (drawnChars draws) = true := by
    have noNewline : (drawnChars draws).getLast? ≠ some '\n' := by
      intro last
      have mem := mem_alphabet_of_drawn draws '\n' (mem_of_getLast? last)
      exact (alphabet_ascii_upper '\n' mem).2.2.2.2.2 rfl
    simp only [codeReMatches, noNewline, Bool.and_eq_true, all_eq_true, contains_iff_mem]
    exact ⟨by simp [drawnChars], mem_alphabet_of_drawn draws⟩
  simp only [normalizeCode, strip_of_no_space _ noSpace, upperAll_generateCode,
    removeChar_generateCode, removeChar_of_not_mem ' ' _ noBlank, acc, if_true]

theorem dash_not_mem_normalized (raw normalized : String)
    (acc : normalizeCode unicode raw = .ok normalized) :
    '-' ∉ normalized.toList := by
  simp only [normalizeCode] at acc
  split at acc
  · intro mem
    rw [← Except.ok.inj acc, String.toList_ofList] at mem
    exact not_mem_removeChar '-' _ (mem_filter.mp mem).1
  · cases acc

theorem dash_mem_generateCode : '-' ∈ (generateCode draws).toList := by
  simp [generateCode]

/-! ## Lookup -/

theorem getByCodeHash_hash (codeHash : String) (row : Invitation)
    (found : getByCodeHash invitations tenantId codeHash = some row) :
    row.codeHash = codeHash := by
  have sel := List.find?_some found
  simp only [Bool.and_eq_true, decide_eq_true_eq] at sel
  exact sel.2

theorem findActive_ok_hash (code pepper : String) (fallbackPepper : Option String) (now : Instant)
    (row : Invitation)
    (found : findActive unicode hmacSha256 invitations tenantId code pepper
      fallbackPepper now = .ok row) :
    ∃ normalized key, (key = pepper ∨ some key = fallbackPepper) ∧
      normalizeCode unicode code = .ok normalized ∧
      row.codeHash = hashCode hmacSha256 normalized key := by
  unfold findActive at found
  cases normal : normalizeCode unicode code with
  | error _ =>
    rw [normal] at found
    cases found
  | ok normalized =>
    rw [normal] at found
    dsimp only at found
    split at found
    · cases found
    rename_i candidate lookup
    have sameRow : candidate = row := by
      split at found
      · cases found
      · split at found
        · cases found
        · exact Except.ok.inj found
    subst sameRow
    split at lookup
    · rename_i fallback _
      split at lookup
      · exact ⟨normalized, fallback, .inr rfl, rfl,
          getByCodeHash_hash invitations tenantId _ candidate lookup⟩
      · cases lookup
    · exact ⟨normalized, pepper, .inl rfl, rfl,
        getByCodeHash_hash invitations tenantId _ candidate lookup⟩

/-- Redemption never finds a minted invitation.  The stored hash is that of the
dashed code, the lookup hashes a code without dashes, and no two messages share a
hash, so whatever is typed, under whichever fallback pepper and at whatever time,
the minted row is not the answer; and this although the code handed out is itself
an accepted spelling. -/
theorem findActive_never_returns_minted (separated : ∀ key otherKey message otherMessage : String,
      hmacSha256 key message = hmacSha256 otherKey otherMessage → message = otherMessage)
    (invitations : List Invitation) (args : MintArgs) :
    normalizeCode unicode (mint hmacSha256 invitations args).2.2 =
      .ok (String.ofList (drawnChars args.draws)) ∧
    ∀ (raw : String) (fallbackPepper : Option String) (now : Instant),
      findActive unicode hmacSha256 (mint hmacSha256 invitations args).1 args.tenantId
          raw args.pepper fallbackPepper now ≠
        .ok (mint hmacSha256 invitations args).2.1 := by
  refine ⟨normalizeCode_generateCode unicode args.draws, ?_⟩
  intro raw fallbackPepper now found
  obtain ⟨normalized, key, _, acc, sameHash⟩ := findActive_ok_hash unicode hmacSha256
    _ args.tenantId raw args.pepper fallbackPepper now _ found
  have sameMessage : generateCode args.draws = normalized :=
    separated args.pepper key _ _ sameHash
  apply dash_not_mem_normalized unicode raw normalized acc
  rw [← sameMessage]
  exact dash_mem_generateCode args.draws

end Service

/-! ## A concrete code -/

/-- HMAC-SHA256 under the development pepper at the two spellings of one code;
an injective stand-in elsewhere. -/
def sampleHmac (key message : String) : String :=
  if key = "development-only-change-me" ∧ message = "ABCD-EFGH-JKLM" then
    "b556d0ea4bed16c1cdaf673b0c6e97f62603327f877029e993d1e87230015378"
  else if key = "development-only-change-me" ∧ message = "ABCDEFGHJKLM" then
    "46e0b14e18e7e75b6ae1f2a08f253eb74e884ee78edb7cf884714ba4235170db"
  else "x" ++ message

def sampleMessage (digest : String) : String :=
  if digest = "b556d0ea4bed16c1cdaf673b0c6e97f62603327f877029e993d1e87230015378" then
    "ABCD-EFGH-JKLM"
  else if digest =
      "46e0b14e18e7e75b6ae1f2a08f253eb74e884ee78edb7cf884714ba4235170db" then
    "ABCDEFGHJKLM"
  else String.ofList (digest.toList.drop 1)

theorem sampleMessage_sampleHmac (key message : String) :
    sampleMessage (sampleHmac key message) = message := by
  unfold sampleHmac
  split
  · rename_i dashed
    rw [dashed.2]
    decide
  · split
    · rename_i compact
      rw [compact.2]
      decide
    · have notDigest : ∀ digest : String, digest.toList.head? ≠ some 'x' →
          "x" ++ message ≠ digest := by
        intro digest ne same
        apply ne
        rw [← same, String.toList_append]
        rfl
      have notDashed := notDigest
        "b556d0ea4bed16c1cdaf673b0c6e97f62603327f877029e993d1e87230015378" (by decide)
      have notCompact := notDigest
        "46e0b14e18e7e75b6ae1f2a08f253eb74e884ee78edb7cf884714ba4235170db" (by decide)
      unfold sampleMessage
      rw [if_neg notDashed, if_neg notCompact, String.toList_append]
      exact String.ofList_toList

theorem sampleHmac_separated (key otherKey message otherMessage : String)
    (same : sampleHmac key message = sampleHmac otherKey otherMessage) :
    message = otherMessage := by
  rw [← sampleMessage_sampleHmac key message, same, sampleMessage_sampleHmac]

def sampleMint : MintArgs :=
  { draws := fun position => position.castLE (by decide)
    newId := ⟨1⟩
    now := 0
    tenantId := ⟨2⟩
    orgName := "Acme"
    pepper := "development-only-change-me"
    createdBy := none
    email := none
    expiresInDays := some 7
    role := .developer }

theorem findActive_never_returns_minted_sample :
    findActive asciiCase sampleHmac (mint sampleHmac [] sampleMint).1 ⟨2⟩
        "ABCD-EFGH-JKLM" "development-only-change-me" none 1 ≠
      .ok (mint sampleHmac [] sampleMint).2.1 :=
  (findActive_never_returns_minted asciiCase sampleHmac sampleHmac_separated []
    sampleMint).2 "ABCD-EFGH-JKLM" none 1

/-- The code handed out, typed back unchanged one microsecond later, is refused. -/
theorem minted_code_refused : ¬ ∀ (unicode : CaseMap) (hmacSha256 : String → String → String),
        (∀ key otherKey message otherMessage : String,
          hmacSha256 key message = hmacSha256 otherKey otherMessage → message = otherMessage) →
        ∀ (invitations : List Invitation) (args : MintArgs) (raw : String) (now : Instant),
          normalizeCode unicode raw = .ok (String.ofList (drawnChars args.draws)) →
          (mint hmacSha256 invitations args).2.1.status = .active →
          (∀ expiry ∈ (mint hmacSha256 invitations args).2.1.expiresAt, now ≤ expiry) →
          findActive unicode hmacSha256 (mint hmacSha256 invitations args).1
              args.tenantId raw args.pepper none now =
            .ok (mint hmacSha256 invitations args).2.1 := by
  intro claim
  have found := claim asciiCase sampleHmac sampleHmac_separated [] sampleMint
    "ABCD-EFGH-JKLM" 1 (by decide) (by decide) (by decide)
  revert found
  decide

end Portcullis.Auth.Invites
