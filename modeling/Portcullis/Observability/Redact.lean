import Portcullis.Lib.Json
import Portcullis.Lib.Pattern
import Portcullis.Lib.PyStr

/-!
# Redaction of audit details

`app/observability/redact.py`.  A value under a secret key is hidden where a nested object
holds the key.  For a key of the detail itself only the strings are hidden that stand under it
directly or in lists: every other scalar that the recursion reaches is shown.
-/

namespace Portcullis.Observability.Redact

open Lib Lib.Json Lib.Pattern

/-! ## Patterns -/

/-- `re.IGNORECASE` on text that is not ASCII: three letters have further forms. -/
def sameLetter (letter char : Char) : Bool :=
  char.toLower == letter.toLower ||
    match letter.toLower with
    | 'i' => char.toNat == 0x130 || char.toNat == 0x131
    | 's' => char.toNat == 0x17F
    | 'k' => char.toNat == 0x212A
    | _ => false

def word (letters : String) : List Piece := letters.toList.map fun letter => one (sameLetter letter)

/-- `[_-]?`. -/
def dash : Piece := optional fun char => char == '_' || char == '-'

/-- The alternatives of `_SECRET_KEY_RE`. -/
def secretKeys : List (List Piece) :=
  [word "password", word "passwd", word "secret", word "token", word "api" ++ dash :: word "key",
    word "auth", word "authorization", word "bearer", word "cookie", word "session",
    word "private" ++ dash :: word "key", word "client" ++ dash :: word "secret",
    word "access" ++ dash :: word "token", word "refresh" ++ dash :: word "token", word "ssn",
    word "credit" ++ dash :: word "card", word "card" ++ dash :: word "number"]

/-- `_SECRET_KEY_RE.search(key)`. -/
def secretKey (key : String) : Bool := secretKeys.any (search · key.toList)

def keyChar (char : Char) : Bool := char.isAlphanum || char == '-' || char == '_'

def tokenChar (char : Char) : Bool :=
  char.isAlphanum || "-._~+/=".toList.contains char ||
    -- the letters that IGNORECASE adds to the ranges
    [0x130, 0x131, 0x17F, 0x212A].contains char.toNat

def localChar (char : Char) : Bool := char.isAlphanum || "._%+-".toList.contains char

def domainChar (char : Char) : Bool := char.isAlphanum || char == '.' || char == '-'

def apiKey : List Piece :=
  literal "pk_" ++ atLeast 8 keyChar :: literal "_" ++ [atLeast 20 keyChar]

def bearer : List Piece := word "Bearer" ++ [atLeast 1 PyStr.isSpace, atLeast 10 tokenChar]

def accessKeyId : List Piece :=
  literal "AKIA" ++ [exactly 16 fun char => char.isDigit || char.isUpper]

def privateKey : List Piece :=
  literal "-----BEGIN " ++ atLeast 0 (fun char => char.isUpper || char == ' ') ::
    literal "PRIVATE KEY-----"

def email : List Piece :=
  atLeast 1 localChar :: literal "@" ++ [atLeast 1 domainChar] ++ literal "." ++
    [atLeast 2 Char.isAlpha]

/-! ## Redaction -/

def redacted : List Char := "[REDACTED]".toList

/-- The replacement of an address: its first group is dropped. -/
def keepDomain (taken : List Nat) (text : List Char) : List Char :=
  "***@".toList ++ (text.take taken.sum).drop (taken.headD 0 + 1)

def redactString (text : List Char) : List Char :=
  sub email keepDomain ([apiKey, bearer, accessKeyId, privateKey].foldl
      (fun text pattern => sub pattern (fun _ _ => redacted) text) text)

/-- The bound on a string that is kept whole. -/
def keptChars : Nat := 2000

def redactText (text : String) : String :=
  if keptChars < text.length then
    String.ofList (redactString (text.toList.take keptChars)) ++ "...[truncated " ++
      toString (text.length - keptChars) ++ " chars]"
  else String.ofList (redactString text.toList)

example : redactText "mail bob@example.org with Bearer abcdefghij, AKIA0123456789ABCDEF" =
    "mail ***@example.org with [REDACTED], [REDACTED]" := by decide +kernel

mutual
/-- `redact_value`. -/
def redactValue (key : Option String) (depth : Nat) (value : Json) : Json :=
  if 6 < depth then .str (String.ofList redacted)
  else
    match value with
    | .obj members => .obj (redactMembers (depth + 1) members)
    | .arr items => .arr (redactItems key (depth + 1) items)
    | .str text =>
      if key.any secretKey then .str (String.ofList redacted) else .str (redactText text)
    | value => value

def redactMembers (depth : Nat) : Members → Members
  | [] => []
  | (key, value) :: rest =>
    (key, if secretKey key then .str (String.ofList redacted)
      else redactValue (some key) depth value) :: redactMembers depth rest

def redactItems (key : Option String) (depth : Nat) : List Json → List Json
  | [] => []
  | item :: rest => redactValue key depth item :: redactItems key depth rest
end

/-- `redact_detail`.  The keys of the detail itself are not looked at here. -/
def redactDetail (detail : Json) : Json :=
  if detail.truthy then
    match detail with
    | .obj members => .obj (members.map fun member =>
        (member.1, redactValue (some member.1) 0 member.2))
    | value => .obj [("value", redactValue none 0 value)]
  else .obj []

theorem redactDetail_obj (members : Members) : redactDetail (.obj members) =
    .obj (members.map fun member => (member.1, redactValue (some member.1) 0 member.2)) := by
  cases members with
  | nil => rfl
  | cons member rest => rfl

/-! ## What the values under secret keys decide -/

def scalar : Json → Bool
  | .arr _ => false
  | .obj _ => false
  | _ => true

mutual
/-- Two values of one shape whose scalars are the same except beneath secret keys. -/
def Varies (beneath : Bool) : Json → Json → Prop
  | .obj members, .obj others => VariesMembers beneath members others
  | .arr items, .arr others => VariesItems beneath items others
  | value, other => scalar value ∧ scalar other ∧ (beneath = true ∨ value = other)

def VariesMembers (beneath : Bool) : Members → Members → Prop
  | [], [] => True
  | (key, value) :: rest, (otherKey, other) :: others =>
    key = otherKey ∧ Varies (beneath || secretKey key) value other ∧
      VariesMembers beneath rest others
  | _, _ => False

def VariesItems (beneath : Bool) : List Json → List Json → Prop
  | [], [] => True
  | item :: rest, other :: others => Varies beneath item other ∧ VariesItems beneath rest others
  | _, _ => False
end

mutual
/-- A scalar that is within the depth limit and under no secret key of a nested object. -/
def exposed (depth : Nat) (value : Json) : Bool :=
  if 6 < depth then false
  else
    match value with
    | .obj members => exposedMembers (depth + 1) members
    | .arr items => exposedItems (depth + 1) items
    | _ => true

def exposedMembers (depth : Nat) : Members → Bool
  | [] => false
  | (key, value) :: rest =>
    (!secretKey key && exposed depth value) || exposedMembers depth rest

def exposedItems (depth : Nat) : List Json → Bool
  | [] => false
  | item :: rest => exposed depth item || exposedItems depth rest
end

variable {depth : Nat} {value : Json}

theorem redactValue_deep (deep : 6 < depth) (key : Option String) (value : Json) :
    redactValue key depth value = .str (String.ofList redacted) := by
  cases value <;> exact if_pos deep

theorem exposed_deep (deep : 6 < depth) (value : Json) : exposed depth value = false := by
  cases value <;> exact if_pos deep

theorem shallow_of_exposed (seen : exposed depth value = true) : ¬ 6 < depth := by
  intro deep
  rw [exposed_deep deep] at seen
  cases seen

theorem exposed_scalar (shallow : ¬ 6 < depth) (plain : scalar value = true) :
    exposed depth value = true := by
  cases value with
  | arr items => cases plain
  | obj members => cases plain
  | _ => exact if_neg shallow

theorem varies_scalar {beneath : Bool} {other : Json} (plain : scalar value = true)
    (varies : Varies beneath value other) : beneath = true ∨ value = other := by
  cases value with
  | arr items => cases plain
  | obj members => cases plain
  | _ => exact varies.2.2

theorem redactValue_scalar {key : Option String} {beneath : Bool} {other : Json}
    (plain : scalar value = true) (varies : Varies beneath value other)
    (hidden : beneath = true → exposed depth value = false) :
    redactValue key depth value = redactValue key depth other := by
  by_cases deep : 6 < depth
  · rw [redactValue_deep deep, redactValue_deep deep]
  rcases varies_scalar plain varies with below | same
  · rw [exposed_scalar deep plain] at hidden
    cases hidden below
  · rw [same]

mutual
theorem redactValue_varies (key : Option String) (depth : Nat) (beneath : Bool) :
    ∀ value other : Json, Varies beneath value other →
      (beneath = true → exposed depth value = false) →
        redactValue key depth value = redactValue key depth other
  | .obj members, .obj others, varies, hidden => by
    by_cases deep : 6 < depth
    · rw [redactValue_deep deep, redactValue_deep deep]
    · rw [exposed, if_neg deep] at hidden
      rw [redactValue, redactValue, if_neg deep, if_neg deep,
        redactMembers_varies (depth + 1) beneath members others varies hidden]
  | .arr items, .arr others, varies, hidden => by
    by_cases deep : 6 < depth
    · rw [redactValue_deep deep, redactValue_deep deep]
    · rw [exposed, if_neg deep] at hidden
      rw [redactValue, redactValue, if_neg deep, if_neg deep,
        redactItems_varies key (depth + 1) beneath items others varies hidden]
  | .null, _, varies, hidden | .bool _, _, varies, hidden | .int _, _, varies, hidden
  | .decimal _ _, _, varies, hidden | .nan, _, varies, hidden | .infinity _, _, varies, hidden
  | .str _, _, varies, hidden => redactValue_scalar rfl varies hidden

theorem redactMembers_varies (depth : Nat) (beneath : Bool) :
    ∀ members others : Members, VariesMembers beneath members others →
      (beneath = true → exposedMembers depth members = false) →
        redactMembers depth members = redactMembers depth others
  | [], [], _, _ => rfl
  | (key, value) :: rest, (_, other) :: others, ⟨rfl, varies, later⟩, hidden => by
    simp only [exposedMembers, Bool.or_eq_false_iff, Bool.and_eq_false_iff] at hidden
    rw [redactMembers, redactMembers,
      redactMembers_varies depth beneath rest others later fun below => (hidden below).2]
    cases secret : secretKey key with
    | true => rfl
    | false =>
      rw [secret, Bool.or_false] at varies
      rw [redactValue_varies (some key) depth beneath value other varies
        fun below => (hidden below).1.resolve_left (by simp [secret])]

theorem redactItems_varies (key : Option String) (depth : Nat) (beneath : Bool) :
    ∀ items others : List Json, VariesItems beneath items others →
      (beneath = true → exposedItems depth items = false) →
        redactItems key depth items = redactItems key depth others
  | [], [], _, _ => rfl
  | item :: rest, other :: others, ⟨varies, later⟩, hidden => by
    simp only [exposedItems, Bool.or_eq_false_iff] at hidden
    rw [redactItems, redactItems,
      redactValue_varies key depth beneath item other varies fun below => (hidden below).1,
      redactItems_varies key depth beneath rest others later fun below => (hidden below).2]
end

mutual
theorem varies_refl (beneath : Bool) : ∀ value : Json, Varies beneath value value
  | .obj members => variesMembers_refl beneath members
  | .arr items => variesItems_refl beneath items
  | .null | .bool _ | .int _ | .decimal _ _ | .nan | .infinity _ | .str _ =>
    ⟨rfl, rfl, .inr rfl⟩

theorem variesMembers_refl (beneath : Bool) : ∀ members : Members,
    VariesMembers beneath members members
  | [] => trivial
  | (_, value) :: rest => ⟨rfl, varies_refl _ value, variesMembers_refl beneath rest⟩

theorem variesItems_refl (beneath : Bool) : ∀ items : List Json, VariesItems beneath items items
  | [] => trivial
  | item :: rest => ⟨varies_refl beneath item, variesItems_refl beneath rest⟩
end

theorem scalar_shown (key : Option String) (plain : scalar value = true)
    (seen : exposed depth value = true) :
    ∃ other, Varies true value other ∧
      redactValue key depth value ≠ redactValue key depth other := by
  have shallow := shallow_of_exposed seen
  have number : ∀ count : Int, redactValue key depth (.int count) = .int count := fun count =>
    if_neg shallow
  have varied : ∀ count : Int, Varies true value (.int count) := by
    intro count
    cases value with
    | arr items => cases plain
    | obj members => cases plain
    | _ => exact ⟨rfl, rfl, .inl rfl⟩
  by_cases zero : redactValue key depth value = .int 0
  · exact ⟨.int 1, varied 1, by rw [zero, number]; decide⟩
  · exact ⟨.int 0, varied 0, by rwa [number]⟩

mutual
theorem exposed_shown (key : Option String) (depth : Nat) : ∀ value : Json,
    exposed depth value = true → ∃ other, Varies true value other ∧
        redactValue key depth value ≠ redactValue key depth other
  | .obj members, seen => by
    have shallow := shallow_of_exposed seen
    rw [exposed, if_neg shallow] at seen
    obtain ⟨others, varies, differ⟩ := exposedMembers_shown (depth + 1) members seen
    refine ⟨.obj others, varies, ?_⟩
    rw [redactValue, redactValue, if_neg shallow, if_neg shallow]
    exact fun same => differ (Json.obj.inj same)
  | .arr items, seen => by
    have shallow := shallow_of_exposed seen
    rw [exposed, if_neg shallow] at seen
    obtain ⟨others, varies, differ⟩ := exposedItems_shown key (depth + 1) items seen
    refine ⟨.arr others, varies, ?_⟩
    rw [redactValue, redactValue, if_neg shallow, if_neg shallow]
    exact fun same => differ (Json.arr.inj same)
  | .null, seen | .bool _, seen | .int _, seen | .decimal _ _, seen | .nan, seen
  | .infinity _, seen | .str _, seen => scalar_shown key rfl seen

theorem exposedMembers_shown (depth : Nat) : ∀ members : Members,
    exposedMembers depth members = true → ∃ others, VariesMembers true members others ∧
        redactMembers depth members ≠ redactMembers depth others
  | (key, value) :: rest, seen => by
    rw [exposedMembers, Bool.or_eq_true, Bool.and_eq_true, Bool.not_eq_true'] at seen
    rcases seen with ⟨free, seen⟩ | later
    · obtain ⟨other, varies, differ⟩ := exposed_shown (some key) depth value seen
      refine ⟨(key, other) :: rest, ⟨rfl, varies, variesMembers_refl true rest⟩, ?_⟩
      rw [redactMembers, redactMembers, free]
      exact fun same => differ (Prod.mk.inj (List.cons.inj same).1).2
    · obtain ⟨others, varies, differ⟩ := exposedMembers_shown depth rest later
      refine ⟨(key, value) :: others, ⟨rfl, varies_refl _ value, varies⟩, ?_⟩
      rw [redactMembers, redactMembers]
      exact fun same => differ (List.cons.inj same).2

theorem exposedItems_shown (key : Option String) (depth : Nat) : ∀ items : List Json,
    exposedItems depth items = true → ∃ others, VariesItems true items others ∧
        redactItems key depth items ≠ redactItems key depth others
  | item :: rest, seen => by
    rw [exposedItems, Bool.or_eq_true] at seen
    rcases seen with seen | later
    · obtain ⟨other, varies, differ⟩ := exposed_shown key depth item seen
      refine ⟨other :: rest, ⟨varies, variesItems_refl true rest⟩, ?_⟩
      rw [redactItems, redactItems]
      exact fun same => differ (List.cons.inj same).1
    · obtain ⟨others, varies, differ⟩ := exposedItems_shown key depth rest later
      refine ⟨item :: others, ⟨varies_refl true item, varies⟩, ?_⟩
      rw [redactItems, redactItems]
      exact fun same => differ (List.cons.inj same).2
end

/-- The values under secret keys decide nothing of the result just if no scalar under a secret
key of the detail itself is within the depth limit and outside the secret keys of nested
objects. -/
theorem secrets_decide_nothing_iff (detail : Members) : (∀ other, VariesMembers false detail other →
      redactDetail (.obj detail) = redactDetail (.obj other)) ↔
      ∀ member ∈ detail, secretKey member.1 = true → exposed 0 member.2 = false := by
  simp only [redactDetail_obj, Json.obj.injEq]
  induction detail with
  | nil =>
    refine ⟨fun _ => nofun, fun _ other varies => ?_⟩
    cases other with
    | nil => rfl
    | cons member rest => exact varies.elim
  | cons member rest ih =>
    obtain ⟨key, value⟩ := member
    rw [List.forall_mem_cons, ← ih]
    constructor
    · intro alike
      refine ⟨fun secret => ?_, fun other varies => ?_⟩
      · by_contra seen
        obtain ⟨other, varies, differ⟩ := exposed_shown (some key) 0 value (by simpa using seen)
        have same := alike ((key, other) :: rest)
          ⟨rfl, by rwa [secret], variesMembers_refl false rest⟩
        exact differ (Prod.mk.inj (List.cons.inj same).1).2
      · exact (List.cons.inj (alike ((key, value) :: other) ⟨rfl, varies_refl _ value, varies⟩)).2
    · rintro ⟨hidden, alike⟩ (_ | ⟨⟨otherKey, other⟩, others⟩) varies
      · exact varies.elim
      · obtain ⟨rfl, varies, later⟩ := varies
        rw [List.map_cons, List.map_cons, alike others later,
          redactValue_varies (some key) 0 _ value other varies hidden]

/-- A number under a secret key of the detail. -/
theorem numeric_secret_shown : VariesMembers false [("password", .int 1)] [("password", .int 2)] ∧
      redactDetail (.obj [("password", .int 1)]) ≠ redactDetail (.obj [("password", .int 2)]) := by
  have secret : secretKey "password" = true := by decide +kernel
  refine ⟨⟨rfl, ⟨rfl, rfl, .inl (by rw [secret]; rfl)⟩, trivial⟩, ?_⟩
  decide +kernel

end Portcullis.Observability.Redact
