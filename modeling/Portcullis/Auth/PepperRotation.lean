import Portcullis.Auth.ApiKeys
import Portcullis.Auth.Invites

/-!
# Pepper rotation

ADR-012 rotates the pepper in three phases: `PEPPER=<old>`, then `PEPPER=<new>` with
`NEXT=<old>`, then `PEPPER=<new>` alone.  In the second phase the active pepper is the
next one and thus still the old one, so what is created there is hashed under the old
pepper, which the third phase no longer knows.
-/

namespace Portcullis.Auth.PepperRotation

open Auth.ApiKeys Auth.Invites Auth.Passwords Lib Lib.PyStr Models

inductive Phase where
  | first
  | second
  | third
  deriving DecidableEq, Repr

def Phase.settings (old new : Pepper) : Phase → PepperSettings
  | .first => ⟨old, none⟩
  | .second => ⟨new, some old⟩
  | .third => ⟨new, none⟩

/-- When a credential is created and when it has to verify. -/
inductive Crossing where
  | firstToSecond
  | withinSecond
  | secondToThird
  deriving DecidableEq, Repr

section Phases

variable (old new : Pepper)

def Crossing.creating : Crossing → PepperSettings
  | .firstToSecond => Phase.first.settings old new
  | .withinSecond => Phase.second.settings old new
  | .secondToThird => Phase.second.settings old new

def Crossing.verifying : Crossing → PepperSettings
  | .firstToSecond => Phase.second.settings old new
  | .withinSecond => Phase.second.settings old new
  | .secondToThird => Phase.third.settings old new

theorem Crossing.activePepper_creating (crossing : Crossing) :
    (crossing.creating old new).activePepper = old := by
  cases crossing <;> rfl

theorem Crossing.old_verifies_iff (crossing : Crossing) :
    (old = (crossing.verifying old new).activePepper ∨
        old = (crossing.verifying old new).apiKeyPepper) ↔
      (crossing = .secondToThird → old = new) := by
  cases crossing <;> simp [verifying, Phase.settings, PepperSettings.activePepper]

theorem Crossing.active_of_verifies (crossing : Crossing)
    (known : old = (crossing.verifying old new).activePepper ∨
      old = (crossing.verifying old new).apiKeyPepper) :
    old = (crossing.verifying old new).activePepper := by
  cases crossing with
  | firstToSecond => rfl
  | withinSecond => rfl
  | secondToThird => exact known.elim id id

end Phases

/-- HMAC: a digest belongs to one key and one message. -/
structure Mac where
  digest : String → String → String
  exact : ∀ key otherKey message otherMessage,
    digest key message = digest otherKey otherMessage → key = otherKey ∧ message = otherMessage

section Invitations

variable {unicode : CaseMap} {mac : Mac} {invitations : List Invitation} {row : Invitation}

theorem findActive_hashed {digest : String → String → String} {code typed : String}
    {settings : PepperSettings} {now : Instant} (mem : row ∈ invitations)
    (alone : ∀ other ∈ invitations, other.tenantId = row.tenantId →
      other.codeHash = row.codeHash → other = row)
    (hashed : row.codeHash = hashCode digest code settings.activePepper)
    (active : row.status = .active) (unexpired : ∀ expiry ∈ row.expiresAt, now ≤ expiry)
    (normal : normalizeCode unicode typed = .ok code) :
    findActive unicode digest invitations row.tenantId typed settings.activePepper
      (some settings.apiKeyPepper.val) now = .ok row := by
  have found : getByCodeHash invitations row.tenantId
      (hashCode digest code settings.activePepper) = some row := by
    cases looked : getByCodeHash invitations row.tenantId
        (hashCode digest code settings.activePepper) with
    | none =>
      have missed := List.find?_eq_none.mp looked row mem
      simp [hashed] at missed
    | some other =>
      have sel := List.find?_some looked
      simp only [Bool.and_eq_true, decide_eq_true_eq] at sel
      rw [alone other (List.mem_of_find?_eq_some looked) sel.1 (sel.2.trans hashed.symm)]
  have fresh : row.expiresAt.any (fun expiry => decide (expiry < now)) = false := by
    cases expires : row.expiresAt with
    | none => rfl
    | some expiry => simpa using unexpired expiry (by rw [expires]; rfl)
  simp only [findActive, normal, found, active, fresh, ne_eq, not_true_eq_false, if_false,
    Bool.false_eq_true]

theorem findActive_unhashed {code typed : String} {pepper : Pepper} {settings : PepperSettings}
    {tenantId : Uuid} {now : Instant} (hashed : row.codeHash = hashCode mac.digest code pepper)
    (found : findActive unicode mac.digest invitations tenantId typed settings.activePepper
      (some settings.apiKeyPepper.val) now = .ok row) :
    normalizeCode unicode typed = .ok code ∧
      (pepper = settings.activePepper ∨ pepper = settings.apiKeyPepper) := by
  obtain ⟨normalized, key, either, normal, sameHash⟩ :=
    findActive_ok_hash unicode mac.digest invitations tenantId typed _ _ now row found
  obtain ⟨sameKey, rfl⟩ := mac.exact _ _ _ _ (hashed.symm.trans sameHash)
  refine ⟨normal, either.imp (fun own => ?_) fun other => ?_⟩
  · exact Subtype.ext (sameKey.trans own)
  · exact Subtype.ext (sameKey.trans (Option.some.inj other))

end Invitations

/-- The row of a key as it is stored later: only the stamp of its last use may have
changed. -/
def StillStored (later : KeyTable) (issued row : ApiKey) : Prop :=
  row ∈ later.rows ∧ row = { issued with lastUsedAt := row.lastUsedAt }

theorem authenticate_stored_iff {argon2 : Hasher} {later : KeyTable} {args : IssueArgs}
    {row : ApiKey} {pepper : Pepper} (stored : StillStored later (issuedRow argon2 args pepper) row)
    (settings : PepperSettings)
    (verifyJwt : Option (String → Except ValueError OauthIdentity)) (now : Instant) :
    (∃ used, authenticate argon2 settings verifyJwt later now args.text.plaintext =
        .ok (keyPrincipal row, used)) ↔
      (pepper = settings.activePepper ∨ pepper = settings.apiKeyPepper) := by
  obtain ⟨mem, same⟩ := stored
  have hashes : Hashes argon2 row args.text pepper := by
    rw [same]
    exact ⟨rfl, args.salt, rfl⟩
  have live : row.revokedAt = none := by rw [same]; rfl
  rw [authenticate_plaintext mem live hashes]
  split
  · rename_i known
    exact ⟨fun _ => known, fun _ => ⟨_, rfl⟩⟩
  rename_i unknown
  constructor
  · rintro ⟨used, acc⟩
    cases acc
  · intro known
    exact absurd known unknown

/-- API keys and password hashes verify as ADR-012 asks, except that what is created in
the second phase does not verify in the third.  The hash of an invitation would behave in
the same way if it were taken of the normalised code; as `mint` takes it of the dashed
code, no invitation is found at all. -/
theorem pepper_rotation_iff (argon2 : Hasher) (mac : Mac) (unicode : CaseMap) (old new : Pepper)
    (crossing : Crossing) :
    (∀ (before after later : KeyTable) (args : IssueArgs) (issued : IssuedKey) (row : ApiKey)
        (verifyJwt : Option (String → Except ValueError OauthIdentity)) (now : Instant),
      issueKey argon2 before args (crossing.creating old new).activePepper = .ok (after, issued) →
      StillStored later (issuedRow argon2 args (crossing.creating old new).activePepper) row →
      ((∃ used, authenticate argon2 (crossing.verifying old new) verifyJwt later now
          issued.plaintext = .ok (keyPrincipal row, used)) ↔
        (crossing = .secondToThird → old = new))) ∧
    (∀ (salt : BitVec 128) (password : String),
      (crossing.verifying old new).passwords.verifyPassword argon2 password
          ((crossing.creating old new).passwords.hashPassword argon2 salt password) = true ↔
        (crossing = .secondToThird → old = new)) ∧
    (∀ (invitations : List Invitation) (row : Invitation) (code typed : String) (now : Instant),
      row ∈ invitations →
      (∀ other ∈ invitations, other.tenantId = row.tenantId →
        other.codeHash = row.codeHash → other = row) →
      row.codeHash = hashCode mac.digest code (crossing.creating old new).activePepper →
      row.status = .active → (∀ expiry ∈ row.expiresAt, now ≤ expiry) →
      normalizeCode unicode typed = .ok code →
      (findActive unicode mac.digest invitations row.tenantId typed
          (crossing.verifying old new).activePepper
          (some (crossing.verifying old new).apiKeyPepper.val) now = .ok row ↔
        (crossing = .secondToThird → old = new))) ∧
    (∀ (before later : List Invitation) (args : MintArgs) (typed : String) (now : Instant),
      args.pepper = (crossing.creating old new).activePepper →
      findActive unicode mac.digest later args.tenantId typed
          (crossing.verifying old new).activePepper
          (some (crossing.verifying old new).apiKeyPepper.val) now ≠
        .ok (mint mac.digest before args).2.1) := by
  have survives := crossing.old_verifies_iff old new
  rw [crossing.activePepper_creating]
  refine ⟨?_, ?_, ?_, ?_⟩
  · intro before after later args issued row verifyJwt now issuing stored
    rw [(issueKey_ok argon2 issuing).2, authenticate_stored_iff stored, survives]
  · intro salt password
    unfold PasswordService.hashPassword
    have sameKey : (crossing.creating old new).passwords.pepper = old.val :=
      congrArg Subtype.val (crossing.activePepper_creating old new)
    rw [sameKey, verifyPassword_peppered, decide_eq_true_eq, survives]
  · intro invitations row code typed now mem alone hashed active unexpired normal
    rw [← survives]
    constructor
    · intro found
      exact (findActive_unhashed hashed found).2
    · intro known
      rw [crossing.active_of_verifies old new known] at hashed
      exact findActive_hashed mem alone hashed active unexpired normal
  · intro before later args typed now sameKey found
    have hashed : (mint mac.digest before args).2.1.codeHash =
        hashCode mac.digest (generateCode args.draws) old := by
      rw [← sameKey]
      rfl
    have normal := (findActive_unhashed hashed found).1
    exact dash_not_mem_normalized unicode typed _ normal (dash_mem_generateCode args.draws)

/-! ## A key issued in the window -/

def oldPepper : Pepper := ⟨"development-only-change-me", by decide⟩

def newPepper : Pepper := ⟨"rotated-pepper-of-production", by decide⟩

def sampleText : KeyText where
  keyPrefix := ⟨List.replicate 8 'a', by decide, by decide⟩
  secret := ⟨List.replicate 43 'b', by decide, by decide⟩

def sampleIssue : IssueArgs where
  newId := ⟨7⟩
  text := sampleText
  salt := 0
  name := "ci"
  scopes := ["mcp"]
  tenantId := ⟨1⟩
  userId := none

/-- A key issued in the second phase is refused in the third. -/
theorem window_key_refused_after_rotation :
    ¬ ∀ (argon2 : Hasher) (old new : Pepper) (crossing : Crossing) (before after : KeyTable)
        (args : IssueArgs) (issued : IssuedKey) (now : Instant),
        issueKey argon2 before args (crossing.creating old new).activePepper = .ok (after, issued) →
        ∃ result, authenticate argon2 (crossing.verifying old new) none after now
          issued.plaintext = .ok result := by
  intro claim
  obtain ⟨result, acc⟩ := claim plainHasher oldPepper newPepper .secondToThird Table.empty
    _ sampleIssue _ 0 rfl
  have isOk := congrArg Except.isOk acc
  change _ = true at isOk
  revert isOk
  decide

end Portcullis.Auth.PepperRotation
