import Mathlib.Data.List.DropRight
import Portcullis.Auth.Provisioning
import Portcullis.Lib.Base64
import Portcullis.Lib.JsonText
import Portcullis.Security.Csrf

/-!
# License keys

`encode_license_key` and `decode_license_key` of `app/auth/licenses.py`; HMAC-SHA256 is a
function.  A minted key is decoded to its payload, and a key that is decoded carries the
signature of its payload text.  Decoding raises what it does not document for a key that is not
ASCII, and for a signed text that is JSON but no object.
-/

namespace Portcullis.Auth.LicenseKeys

open Lib Lib.Encoding Lib.Json Lib.Base64 List
open Models (Instant)
open Metering.Usage (LicensePlan)
open Provisioning (planValue)
open Security.Csrf (isAscii compareDigest)

/-! ## Model -/

inductive Failure where
  | licenseSigningError (message : String)
  | unicodeEncodeError
  | typeError
  | attributeError
  | recursionError
  deriving DecidableEq, Repr

structure Terms where
  plan : LicensePlan
  seatLimit : Int
  serverLimit : Option Int
  licensee : String
  issuedAt : String
  expiresAt : String

/-- The payload; the timestamps are given as their `isoformat()`. -/
def payload (terms : Terms) : Json :=
  .obj [("v", .int 1), ("plan", .str (planValue terms.plan)), ("seat_limit", .int terms.seatLimit),
    ("server_limit", terms.serverLimit.elim .null .int), ("licensee", .str terms.licensee),
    ("issued_at", .str terms.issuedAt), ("expires_at", .str terms.expiresAt)]

def compactSeparators : Separators := ⟨[','], [':']⟩

/-- `encode("ascii")` of a text that is ASCII. -/
def asciiBytes (text : List Char) : Bytes := text.map fun char => char.toNat.toUInt8

def hexdigest (digest : Bytes) : List Char :=
  digest.flatMap fun byte => [hexDigit (byte.toNat / 16), hexDigit (byte.toNat % 16)]

def b64encode (raw : Bytes) : List Char := (urlsafeB64encode raw).rdropWhile (· == '=')

def b64decode (raw : List Char) : Option Bytes := urlsafeB64decode (raw ++ padding raw.length)

/-- `key.rsplit(".", 1)`; `none` if the key has no dot. -/
def rsplitDot (key : List Char) : Option (List Char × List Char) :=
  (PyStr.splitOnce '.' key.reverse).map fun found => (found.2.reverse, found.1.reverse)

/-- `payload.get("v") != 1` is false for `1`, `True` and a double that is one. -/
def isOne : Option Json → Bool
  | some (.int value) => value == 1
  | some (.bool value) => value
  | some (.decimal mantissa exponent) =>
    -- the decimals that round to 1.0
    let value := (mantissa : ℚ) * 10 ^ exponent
    decide (1 - 1 / 2 ^ 54 ≤ value ∧ value ≤ 1 + 1 / 2 ^ 53)
  | _ => false

section Keys

variable (hmac : Bytes → Bytes → Bytes) (limits : Limits)

def signingKey (pepper : String) : Bytes :=
  hmac (Encoding.asciiBytes "portcullis-license-v1") pepper.toUTF8.data.toList

def signatureOf (pepper : String) (payloadB64 : List Char) : List Char :=
  hexdigest (hmac (signingKey hmac pepper) (asciiBytes payloadB64))

/-- `json.dumps` escapes what is not ASCII. -/
def payloadBytes (terms : Terms) : Bytes :=
  asciiBytes (render compactSeparators (fun _ _ => "") (payload terms))

def encodeLicenseKey (pepper : String) (terms : Terms) : List Char :=
  let payloadB64 := b64encode (payloadBytes terms)
  payloadB64 ++ '.' :: signatureOf hmac pepper payloadB64

/-- `json.loads(_b64decode(payload_b64))` and the version check. -/
def readPayload (payloadB64 : List Char) : Except Failure Json :=
  match b64decode payloadB64 with
  | none => .error (.licenseSigningError "malformed license key")
  | some bytes =>
    match loads limits bytes with
    | .error .recursionError => .error .recursionError
    | .error _ => .error (.licenseSigningError "malformed license key")
    | .ok (.obj members) =>
      if isOne (get "v" members) then .ok (.obj members)
      else .error (.licenseSigningError "unsupported license key version")
    | .ok _ => .error .attributeError

def decodeLicenseKey (key : List Char) (pepper : String) : Except Failure Json :=
  match rsplitDot key with
  | none => .error (.licenseSigningError "malformed license key")
  | some (payloadB64, signature) =>
    if isAscii payloadB64 then
      match compareDigest signature (signatureOf hmac pepper payloadB64) with
      | .error _ => .error .typeError
      | .ok false => .error (.licenseSigningError "invalid license signature")
      | .ok true => readPayload limits payloadB64
    else .error .unicodeEncodeError

/-! ## Round trip -/

theorem rsplitDot_eq_some {key front back : List Char} :
    rsplitDot key = some (front, back) ↔ key = front ++ '.' :: back ∧ '.' ∉ back := by
  rw [rsplitDot, Option.map_eq_some_iff]
  constructor
  · rintro ⟨⟨left, right⟩, found, same⟩
    obtain ⟨rfl, rfl⟩ := Prod.mk.inj same
    obtain ⟨shape, absent⟩ := PyStr.splitOnce_eq_some.mp found
    refine ⟨?_, by rwa [mem_reverse]⟩
    rw [← reverse_reverse key, shape]
    simp
  · rintro ⟨rfl, absent⟩
    refine ⟨(back.reverse, front.reverse), PyStr.splitOnce_eq_some.mpr ⟨by simp, ?_⟩, by simp⟩
    rwa [mem_reverse]

theorem hexdigest_plain (digest : Bytes) :
    '.' ∉ hexdigest digest ∧ isAscii (hexdigest digest) = true := by
  have every : ∀ nibble < 16, hexDigit nibble ≠ '.' ∧ (hexDigit nibble).toNat < 128 := by decide
  have plain : ∀ char ∈ hexdigest digest, char ≠ '.' ∧ char.toNat < 128 := by
    intro char inside
    obtain ⟨byte, _, inside⟩ := mem_flatMap.mp inside
    have small : byte.toNat < 256 := byte.toNat_lt
    simp only [mem_cons, not_mem_nil, or_false] at inside
    rcases inside with rfl | rfl
    · exact every _ (by omega)
    · exact every _ (by omega)
  refine ⟨fun inside => (plain _ inside).1 rfl, ?_⟩
  rw [isAscii, all_eq_true]
  exact fun char inside => decide_eq_true (plain char inside).2

theorem b64encode_eq (raw : Bytes) : b64encode raw = digits raw := by
  have last : ∀ ne : digits raw ≠ [], ¬ ((digits raw).getLast ne == '=') = true := by
    intro ne
    simpa using (digits_plain raw _ (getLast_mem ne)).1
  unfold b64encode urlsafeB64encode padding
  generalize (4 - (digits raw).length % 4) % 4 = count
  induction count with
  | zero =>
    rw [replicate_zero, append_nil]
    exact rdropWhile_eq_self_iff.mpr last
  | succ count ih =>
    rw [replicate_succ', ← append_assoc, rdropWhile_concat_pos _ _ _ (by rfl), ih]

theorem b64decode_b64encode (raw : Bytes) : b64decode (b64encode raw) = some raw := by
  rw [b64encode_eq]
  exact decode_digits raw

theorem isAscii_b64encode (raw : Bytes) : isAscii (b64encode raw) = true := by
  rw [b64encode_eq, isAscii, all_eq_true]
  exact fun char inside => decide_eq_true (digits_plain raw char inside).2.2

theorem decodeLicenseKey_signed {pepper : String} {payloadB64 : List Char}
    (ascii : isAscii payloadB64 = true) :
    decodeLicenseKey hmac limits (payloadB64 ++ '.' :: signatureOf hmac pepper payloadB64) pepper =
      readPayload limits payloadB64 := by
  obtain ⟨absent, plain⟩ := hexdigest_plain (hmac (signingKey hmac pepper) (asciiBytes payloadB64))
  have found : rsplitDot (payloadB64 ++ '.' :: signatureOf hmac pepper payloadB64) =
      some (payloadB64, signatureOf hmac pepper payloadB64) :=
    rsplitDot_eq_some.mpr ⟨rfl, absent⟩
  have acc : compareDigest (signatureOf hmac pepper payloadB64)
      (signatureOf hmac pepper payloadB64) = .ok true :=
    (Security.Csrf.compareDigest_iff _ _).mpr ⟨rfl, plain⟩
  rw [decodeLicenseKey, found]
  simp only [ascii, if_true, acc]

/-- What is minted is decoded to its payload if `json.loads` inverts `json.dumps` there, and what
is decoded was signed. -/
theorem license_keys_round_trip (pepper : String) :
    (∀ terms : Terms, loads limits (payloadBytes terms) = .ok (payload terms) →
      decodeLicenseKey hmac limits (encodeLicenseKey hmac pepper terms) pepper =
        .ok (payload terms)) ∧
    ∀ key value, decodeLicenseKey hmac limits key pepper = .ok value →
      ∃ payloadB64, key = payloadB64 ++ '.' :: signatureOf hmac pepper payloadB64 ∧
        readPayload limits payloadB64 = .ok value := by
  constructor
  · intro terms inverts
    rw [encodeLicenseKey, decodeLicenseKey_signed hmac limits (isAscii_b64encode _), readPayload,
      b64decode_b64encode]
    simp only [inverts]
    rfl
  · intro key value ret
    rw [decodeLicenseKey] at ret
    split at ret
    · cases ret
    rename_i payloadB64 signature found
    obtain ⟨shape, _⟩ := rsplitDot_eq_some.mp found
    split at ret
    · split at ret
      · cases ret
      · cases ret
      · rename_i acc
        obtain ⟨rfl, _⟩ := (Security.Csrf.compareDigest_iff _ _).mp acc
        exact ⟨payloadB64, shape, ret⟩
    · cases ret

theorem license_keys_round_trip_community :
    let terms : Terms := ⟨.community, 5, none, "Zoë", "2026-01-01T00:00:00", "2027-01-01T00:00:00"⟩
    decodeLicenseKey (fun _ _ => [7]) ⟨1, 1⟩ (encodeLicenseKey (fun _ _ => [7]) "pepper" terms)
      "pepper" = .ok (payload terms) :=
  (license_keys_round_trip _ _ "pepper").1 _ (by decide +kernel)

/-! ## Failures -/

/-- A payload, or the documented error. -/
def Documented (outcome : Except Failure Json) : Prop :=
  (∃ value, outcome = .ok value) ∨ ∃ message, outcome = .error (.licenseSigningError message)

theorem documented_error {failure : Failure} :
    Documented (.error failure) ↔ ∃ message, failure = .licenseSigningError message := by
  simp [Documented]

/-- The text is no JSON, or it is an object, and its nesting is within the limit of the reader. -/
def ObjectAtMost (payloadB64 : List Char) : Prop :=
  ∀ bytes, b64decode payloadB64 = some bytes → loads limits bytes ≠ .error .recursionError ∧
    ∀ value, loads limits bytes = .ok value → ∃ members, value = .obj members

theorem readPayload_documented_iff (payloadB64 : List Char) :
    Documented (readPayload limits payloadB64) ↔ ObjectAtMost limits payloadB64 := by
  unfold readPayload ObjectAtMost
  cases b64decode payloadB64 with
  | none => exact iff_of_true (documented_error.mpr ⟨_, rfl⟩) nofun
  | some bytes =>
    simp only [Option.some.injEq, forall_eq']
    cases loads limits bytes with
    | error failure => cases failure <;> simp [documented_error]
    | ok value =>
      cases value with
      | obj members =>
        refine iff_of_true ?_ ⟨nofun, fun _ same => ⟨members, (Except.ok.inj same).symm⟩⟩
        dsimp only
        split
        · exact .inl ⟨_, rfl⟩
        · exact documented_error.mpr ⟨_, rfl⟩
      | _ => simp [documented_error]

/-- The digest and the comparison need ASCII, and what a right signature covers is read without a
look at its type. -/
theorem decoding_documented_iff (key : List Char) (pepper : String) :
    Documented (decodeLicenseKey hmac limits key pepper) ↔
      ∀ payloadB64 signature, rsplitDot key = some (payloadB64, signature) →
        isAscii payloadB64 = true ∧ isAscii signature = true ∧
          (signature = signatureOf hmac pepper payloadB64 → ObjectAtMost limits payloadB64) := by
  unfold decodeLicenseKey
  cases rsplitDot key with
  | none => exact iff_of_true (documented_error.mpr ⟨_, rfl⟩) nofun
  | some found =>
    obtain ⟨payloadB64, signature⟩ := found
    have plain : isAscii (signatureOf hmac pepper payloadB64) = true := (hexdigest_plain _).2
    simp only [Option.some.injEq, Prod.mk.injEq, and_imp, forall_eq', forall_apply_eq_imp_iff]
    by_cases ascii : isAscii payloadB64 = true
    · by_cases comparable : isAscii signature = true
      · by_cases same : signature = signatureOf hmac pepper payloadB64
        · subst same
          simp [compareDigest, ascii, plain, readPayload_documented_iff]
        · have differs := beq_false_of_ne same
          simp [compareDigest, ascii, comparable, plain, same, differs, documented_error]
      · simp [compareDigest, ascii, comparable, documented_error]
    · simp [ascii, documented_error]

theorem accented_key_raises :
    decodeLicenseKey (fun _ _ => []) ⟨1, 1⟩ ['é', '.'] "pepper" = .error .unicodeEncodeError ∧
      ¬ Documented (decodeLicenseKey (fun _ _ => []) ⟨1, 1⟩ ['é', '.'] "pepper") := by
  have raised : decodeLicenseKey (fun _ _ => []) ⟨1, 1⟩ ['é', '.'] "pepper" =
      .error .unicodeEncodeError := rfl
  refine ⟨raised, ?_⟩
  rw [raised, documented_error]
  exact nofun

end Keys

end Portcullis.Auth.LicenseKeys
