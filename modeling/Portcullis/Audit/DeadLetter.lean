import Portcullis.Lib.JsonReading
import Portcullis.Lib.PyStr
import Portcullis.Repositories.Audit

/-!
# The dead-letter file

`spill_to_dlq` of `app/observability/audit_dlq.py` writes what `record_event` could not store as
a line of JSON.  `scripts/audit_dlq_replay.py` reads the lines back into `create`, in one
transaction, and truncates the file only after the commit.
-/

namespace Portcullis.Audit.DeadLetter

open Lib Lib.Json Models List
open Lib.PyStr (strip)
open Repositories.Audit (AuditEvent detailOrEmpty)

/-! ## Spilling -/

def nullable (value : Option String) : Json := value.elim .null .str

/-- The event as `record_event` hands it over, with the time of the spill. -/
def record (event : AuditEvent) (spilledAt : String) : Json :=
  .obj [("event_type", .str event.eventType.value), ("outcome", .str event.outcome),
    ("tenant_id", nullable (event.tenantId.map Uuid.str)),
    ("subject_id", nullable event.subjectId),
    ("subject_type", nullable (event.subjectType.map SubjectType.value)),
    ("server_slug", nullable event.serverSlug), ("tool_name", nullable event.toolName),
    ("rpc_method", nullable event.rpcMethod), ("client_ip", nullable event.clientIp),
    ("request_id", nullable event.requestId), ("detail", event.detail.getD .null),
    ("dlq_spilled_at", .str spilledAt)]

def maxDlqLineBytes : Nat := 64 * 1024

def truncatedDetail : Json := .obj [("_truncated", .str "detail exceeded DLQ line cap")]

section Files

variable (float : Int → Int → String)

/-- The text is ASCII: it has as many bytes as characters. -/
def dlqLine (event : AuditEvent) (spilledAt : String) : List Char :=
  let line := render defaultSeparators float (record event spilledAt)
  if maxDlqLineBytes < line.length then
    render defaultSeparators float
      (record { event with detail := some truncatedDetail } spilledAt)
  else line

def spillToDlq (file : List Char) (spill : AuditEvent × String) : List Char :=
  file ++ (dlqLine float spill.1 spill.2 ++ ['\n'])

/-! ## Replay -/

/-- The empty line between `\r` and `\n` is skipped like every blank line. -/
def fileLines (file : List Char) : List (List Char) :=
  file.splitOnP fun char => char == '\n' || char == '\r'

/-- A text column; the driver takes strings only. -/
def column : Option Json → Option (Option String)
  | none | some .null => some none
  | some (.str value) => some (some value)
  | some _ => none

/-- Converted if it counts as true. -/
def converted {Value : Type} (convert : String → Option Value) :
    Option Json → Option (Option Value)
  | none => some none
  | some (.str value) => if value = "" then some none else (convert value).map some
  | some value => if value.truthy then none else some none

def eventTypeOf (text : String) : Option AuditEventType :=
  [.authFailure, .platformAdminGranted, .rbacDeny, .toolCall, .tenantProvisioned].find?
    fun eventType : AuditEventType => eventType.value = text

def subjectTypeOf (text : String) : Option SubjectType :=
  [.apiKey, .oauthSubject].find? fun subjectType : SubjectType => subjectType.value = text

variable (limits : Limits) (uuidOf : String → Option Uuid)

/-- What a line makes of `create`; `none` if it does not decode. -/
def eventOf (line : List Char) : Option AuditEvent :=
  match parseText limits line with
  | .error _ => none
  | .ok value =>
    match resolve .last value with
    | .obj members => do
      let tenantId ← converted uuidOf (get "tenant_id" members)
      let subjectType ← converted subjectTypeOf (get "subject_type" members)
      let eventType ← (← column (get "event_type" members)).bind eventTypeOf
      let outcome ← ← column (some ((get "outcome" members).getD (.str "error")))
      let subjectId ← column (get "subject_id" members)
      let serverSlug ← column (get "server_slug" members)
      let toolName ← column (get "tool_name" members)
      let rpcMethod ← column (get "rpc_method" members)
      let clientIp ← column (get "client_ip" members)
      let requestId ← column (get "request_id" members)
      let detail := some (detailOrEmpty (get "detail" members))
      some { eventType, outcome, tenantId, subjectId, subjectType, serverSlug, toolName,
             rpcMethod, clientIp, requestId, detail }
    | _ => none

variable (accepts commits : List AuditEvent → Bool)

/-- The calls of `create` and whether they were committed; `accepts` says of the calls so far
whether the last one succeeds. -/
def replayLines (calls : List AuditEvent) : List (List Char) → List AuditEvent × Bool
  | [] => (calls, commits calls)
  | line :: rest =>
    if strip line = [] then replayLines calls rest
    else
      match eventOf limits uuidOf (strip line) with
      | none => (calls, false)
      | some event =>
        if accepts (calls ++ [event]) then replayLines (calls ++ [event]) rest
        else (calls ++ [event], false)

structure Outcome where
  calls : List AuditEvent
  committed : Bool
  file : List Char

def main (truncate : Bool) (file : List Char) : Outcome :=
  let replayed := replayLines limits uuidOf accepts commits [] (fileLines file)
  { calls := replayed.1
    committed := replayed.2
    file := if replayed.2 && truncate && !replayed.1.isEmpty then [] else file }

/-! ## Lines -/

/-- The detail is an object, as after the redaction, of values that JSON has; its integers and
its nesting are such that it can be read, and the line is within the cap. -/
structure Spillable (event : AuditEvent) (spilledAt : String) : Prop where
  detail : ∃ members, event.detail = some (.obj members)
  native : Native float (event.detail.getD .null)
  fits : Fits limits 0 (record event spilledAt)
  short : (render defaultSeparators float (record event spilledAt)).length ≤ maxDlqLineBytes

variable {float limits uuidOf accepts commits}

theorem native_nullable (value : Option String) : Native float (nullable value) := by
  cases value <;> trivial

theorem native_record {event : AuditEvent} (spilledAt : String)
    (native : Native float (event.detail.getD .null)) : Native float (record event spilledAt) := by
  have distinct : ["event_type", "outcome", "tenant_id", "subject_id", "subject_type",
    "server_slug", "tool_name", "rpc_method", "client_ip", "request_id", "detail",
    "dlq_spilled_at"].Nodup := by decide
  exact ⟨distinct, trivial, trivial, native_nullable _, native_nullable _, native_nullable _,
    native_nullable _, native_nullable _, native_nullable _, native_nullable _,
    native_nullable _, native, trivial, trivial⟩

theorem column_str (value : String) : column (some (.str value)) = some (some value) := rfl

theorem column_nullable (value : Option String) : column (some (nullable value)) = some value := by
  cases value <;> rfl

theorem converted_nullable {Value : Type} {convert : String → Option Value}
    {print : Value → String} (inverse : ∀ value, convert (print value) = some value)
    (printed : ∀ value, print value ≠ "") (value : Option Value) :
    converted convert (some (nullable (value.map print))) = some value := by
  cases value with
  | none => rfl
  | some value =>
    refine (if_neg (printed value)).trans ?_
    rw [inverse value]
    rfl

theorem converted_tenant (inverse : ∀ id : Uuid, uuidOf id.str = some id) (id : Option Uuid) :
    converted uuidOf (some (nullable (id.map Uuid.str))) = some id := by
  refine converted_nullable inverse (fun id empty => ?_) id
  have length := id.length_str
  rw [empty] at length
  cases length

theorem converted_subject (subjectType : Option SubjectType) :
    converted subjectTypeOf (some (nullable (subjectType.map SubjectType.value))) =
      some subjectType :=
  converted_nullable (by rintro (_ | _) <;> rfl) (by rintro (_ | _) <;> decide) subjectType

theorem eventTypeOf_value (eventType : AuditEventType) :
    eventTypeOf eventType.value = some eventType := by
  cases eventType <;> rfl

namespace Spillable

variable {event : AuditEvent} {spilledAt : String}

theorem dlqLine_eq (spillable : Spillable float limits event spilledAt) :
    dlqLine float event spilledAt = render defaultSeparators float (record event spilledAt) :=
  if_neg (not_lt.mpr spillable.short)

theorem eventOf_line (spillable : Spillable float limits event spilledAt)
    (inverse : ∀ id : Uuid, uuidOf id.str = some id) :
    eventOf limits uuidOf (dlqLine float event spilledAt) = some event := by
  have native := native_record spilledAt spillable.native
  obtain ⟨members, detail⟩ := spillable.detail
  have kept : detailOrEmpty (some (.obj members)) = .obj members := by cases members <;> rfl
  rw [spillable.dlqLine_eq, eventOf, parseText_render spaced_default spillable.fits native]
  simp only [resolve_native .last _ native]
  simp [record, Json.get, converted_tenant inverse, converted_subject, eventTypeOf_value,
    column_nullable, column_str, detail, kept]
  rw [← detail]

/-- A line has no end of a line inside and no blank at its ends. -/
theorem framed (spillable : Spillable float limits event spilledAt) :
    (∀ char ∈ dlqLine float event spilledAt, (char == '\n' || char == '\r') = false) ∧
      strip (dlqLine float event spilledAt) = dlqLine float event spilledAt ∧
        dlqLine float event spilledAt ≠ [] := by
  have shown := shown_render spaced_default _ (native_record spilledAt spillable.native)
  rw [spillable.dlqLine_eq]
  refine ⟨fun char inside => ?_, ?_, ?_⟩
  · rw [Bool.or_eq_false_iff]
    have visible := (shown char inside).1
    constructor <;> refine beq_false_of_ne ?_ <;> rintro rfl <;> revert visible <;> decide
  · rw [record, render, strip, dropWhile_cons_of_neg (by decide), reverse_cons,
      reverse_append]
    rw [reverse_singleton, singleton_append, cons_append,
      dropWhile_cons_of_neg (by decide)]
    simp
  · exact cons_ne_nil _ _

end Spillable

theorem replayLines_spilled (inverse : ∀ id : Uuid, uuidOf id.str = some id)
    (acc : ∀ calls, accepts calls = true) (spills : List (AuditEvent × String)) :
    ∀ calls, (∀ spill ∈ spills, Spillable float limits spill.1 spill.2) →
      replayLines limits uuidOf accepts commits calls
          (fileLines ((spills.map fun spill => dlqLine float spill.1 spill.2 ++ ['\n']).flatten)) =
        (calls ++ spills.map Prod.fst, commits (calls ++ spills.map Prod.fst)) := by
  induction spills with
  | nil =>
    intro calls _
    rw [map_nil, map_nil, append_nil]
    rfl
  | cons spill rest ih =>
    intro calls all
    obtain ⟨spillable, later⟩ := forall_mem_cons.mp all
    obtain ⟨unbroken, stripped, ne⟩ := spillable.framed
    rw [map_cons, flatten_cons, append_assoc, singleton_append, fileLines,
      splitOnP_append_cons_of_forall_mem unbroken _ rfl, replayLines, stripped,
      if_neg ne, spillable.eventOf_line inverse]
    dsimp only
    rw [if_pos (acc _)]
    refine (ih _ later).trans ?_
    rw [map_cons, append_assoc, singleton_append]

/-- A replay that commits has decoded every line that is not blank, and `create` has accepted
each of its calls. -/
theorem replayLines_committed (lines : List (List Char)) : ∀ calls,
    (replayLines limits uuidOf accepts commits calls lines).2 = true →
      (∀ line ∈ lines, strip line ≠ [] → eventOf limits uuidOf (strip line) ≠ none) ∧
        ∃ more, (replayLines limits uuidOf accepts commits calls lines).1 = calls ++ more ∧
          ∀ count < more.length, accepts (calls ++ more.take (count + 1)) = true := by
  induction lines with
  | nil => exact fun calls _ => ⟨nofun, [], (append_nil calls).symm, nofun⟩
  | cons line rest ih =>
    intro calls committed
    rw [replayLines] at committed ⊢
    split at committed
    · rename_i blank
      rw [if_pos blank]
      obtain ⟨decoded, called⟩ := ih calls committed
      exact ⟨forall_mem_cons.mpr ⟨fun given => absurd blank given, decoded⟩, called⟩
    · rename_i given
      rw [if_neg given]
      split at committed
      · cases committed
      rename_i event found
      split at committed
      · rename_i acc
        obtain ⟨decoded, more, called, all⟩ := ih _ committed
        refine ⟨forall_mem_cons.mpr ⟨fun _ => by simp [found], decoded⟩, event :: more, ?_, ?_⟩
        · simp only [if_pos acc, called]
          rw [append_assoc, singleton_append]
        · intro count small
          cases count with
          | zero => simpa using acc
          | succ count =>
            have := all count (by simpa using small)
            rwa [append_assoc] at this
      · cases committed

end Files

end Portcullis.Audit.DeadLetter
