import Portcullis.Limits.RedisBucket

/-!
# Route templates of the management API

`app/gateway/management_rate_limit.py` replaces the variable parts of a path before the path
names a bucket.  UUIDs are replaced everywhere.  The branch for the third segment of a path to a
server, a role or a key stands under a guard that only later segments pass, so that slugs stay
what they are.
-/

namespace Portcullis.Gateway.ManagementRoutes

open Lib Lib.PyStr Limits.RedisBucket List

def isHex (char : Char) : Bool :=
  ('0' ≤ char && char ≤ '9') || ('a' ≤ char && char ≤ 'f') || ('A' ≤ char && char ≤ 'F')

/-- `re.fullmatch(uuid_re, part)`. -/
def isUuidText (part : List Char) : Bool :=
  let groups := split '-' part
  decide (groups.map List.length = [8, 4, 4, 4, 12]) && groups.all fun group => group.all isHex

def idTemplate : List Char := "\x7bid\x7d".toList

def slugTemplate : List Char := "\x7bslug\x7d".toList

def bindingTemplate : List Char := "\x7bbinding\x7d".toList

/-- The collections whose paths are meant to be collapsed. -/
def collections : List String := ["servers", "roles", "api-keys"]

/-- One turn of the loop; `first` and `second` are `parts[0]` and `parts[1]`. -/
def normalizedPart (first second : Option (List Char)) (index : Nat) (part : List Char) :
    List Char :=
  if isUuidText part then idTemplate
  else if 3 ≤ index ∧ first = some "v1".toList ∧
      second ∈ collections.map (fun name => some name.toList) then
    if index = 2 then
      if second = some "servers".toList then slugTemplate else idTemplate
    else if index = 3 ∧ second = some "roles".toList then bindingTemplate
    else part
  else part

def pathParts (path : List Char) : List (List Char) :=
  (split '/' path).filter fun part => !part.isEmpty

/-- `_normalize_management_route`. -/
def normalizeManagementRoute (path : String) : String :=
  let parts := pathParts path.toList
  String.ofList ('/' :: join ['/'] (parts.mapIdx fun index part =>
    normalizedPart parts[0]? parts[1]? index part))

/-- A segment that the loop writes as an id. -/
def WrittenAsId (segment : List Char) : Prop :=
  isUuidText segment = true ∨ segment = idTemplate

instance (segment : List Char) : Decidable (WrittenAsId segment) :=
  inferInstanceAs (Decidable (_ ∨ _))

/-- A path with something below one of the collections. -/
def pathBelow (collection segment remainder : String) : String :=
  "/v1/" ++ collection ++ "/" ++ segment ++ remainder

/-- The third segment of such a path: it ends with the next slash. -/
def thirdSegment (segment remainder : String) : List Char :=
  segment.toList ++ remainder.toList.takeWhile (· ≠ '/')

/-! ## The loop on such a path -/

/-- What the loop makes of a segment that it does not look at by its place. -/
def written (segment : List Char) : List Char :=
  if isUuidText segment then idTemplate else segment

/-- The branch for the third segment is never taken: its guard asks for a later one. -/
theorem normalizedPart_early (first second : Option (List Char)) {index : Nat} (early : index < 3)
    (part : List Char) : normalizedPart first second index part = written part := by
  have guarded : ¬ (3 ≤ index ∧ first = some "v1".toList ∧
      second ∈ collections.map fun name => some name.toList) := fun late => by omega
  rw [normalizedPart, written, if_neg guarded]

theorem written_eq_iff (left right : List Char) :
    written left = written right ↔ left = right ∨ WrittenAsId left ∧ WrittenAsId right := by
  by_cases leftId : isUuidText left = true
  · by_cases rightId : isUuidText right = true
    · simp [written, WrittenAsId, leftId, rightId]
    · have apart : left ≠ right := fun same => rightId (same ▸ leftId)
      simp [written, WrittenAsId, leftId, rightId, apart, eq_comm]
  · by_cases rightId : isUuidText right = true
    · have apart : left ≠ right := fun same => leftId (same ▸ rightId)
      simp [written, WrittenAsId, leftId, rightId, apart]
    · simp only [written, WrittenAsId, leftId, rightId, Bool.false_eq_true, false_or]
      exact ⟨.inl, fun either => either.elim id fun both => both.1.trans both.2.symm⟩

section Path

variable {collection segment : String} (listed : collection ∈ collections) (full : segment ≠ "")
  (plain : '/' ∉ segment.toList)

include listed full plain

theorem pathParts_below (remainder : String) :
    pathParts (pathBelow collection segment remainder).toList =
      "v1".toList :: collection.toList :: thirdSegment segment remainder ::
        ((split '/' remainder.toList).tail.filter fun part => !part.isEmpty) := by
  obtain ⟨others, rest⟩ := exists_split '/' remainder.toList
  have third := split_append plain rest
  have occupied : (thirdSegment segment remainder).isEmpty = false := by
    cases chars : segment.toList with
    | nil => exact absurd (String.toList_eq_nil_iff.mp chars) full
    | cons first others => rw [thirdSegment, chars]; rfl
  have named : '/' ∉ collection.toList ∧ collection.toList.isEmpty = false := by
    revert listed
    simp only [collections, mem_cons, not_mem_nil, or_false]
    rintro (rfl | rfl | rfl)
    · decide
    · decide
    · decide
  have second : split '/' (collection.toList ++ '/' :: (segment.toList ++ remainder.toList)) =
      collection.toList :: thirdSegment segment remainder :: others := by
    have below := split_append named.1 (split_separator '/' (segment.toList ++ remainder.toList))
    rw [below, append_nil, third]
    rfl
  have whole : (pathBelow collection segment remainder).toList =
      '/' :: ("v1".toList ++ '/' :: (collection.toList ++ '/' ::
        (segment.toList ++ remainder.toList))) := by
    simp [pathBelow]
  have first : split '/' ("v1".toList ++ '/' :: (collection.toList ++ '/' ::
      (segment.toList ++ remainder.toList))) =
        "v1".toList :: collection.toList :: thirdSegment segment remainder :: others := by
    have below := split_append (show '/' ∉ "v1".toList by decide) (split_separator '/'
      (collection.toList ++ '/' :: (segment.toList ++ remainder.toList)))
    rw [below, append_nil, second]
  rw [pathParts, whole, split_separator, first, rest]
  simp [named.2, occupied]

omit full plain in
/-- The template of such a path: what follows the third segment does not depend on it. -/
theorem normalize_below (remainder : String) :
    ∃ tail, ∀ segment, segment ≠ "" → '/' ∉ segment.toList →
      (normalizeManagementRoute (pathBelow collection segment remainder)).toList =
        '/' :: (written "v1".toList ++ ('/' :: (written collection.toList ++ ('/' ::
          (written (thirdSegment segment remainder) ++ tail))))) := by
  let later := ((split '/' remainder.toList).tail.filter fun part => !part.isEmpty).mapIdx
    fun index part => normalizedPart (some "v1".toList) (some collection.toList) (index + 3) part
  refine ⟨later.flatMap fun part => '/' :: part, ?_⟩
  intro segment full plain
  rw [normalizeManagementRoute, pathParts_below listed full plain]
  simp only [String.toList_ofList, mapIdx_cons, List.getElem?_cons_zero,
    List.getElem?_cons_succ, normalizedPart_early _ _ (show 0 < 3 by omega),
    normalizedPart_early _ _ (show 0 + 1 < 3 by omega),
    normalizedPart_early _ _ (show 0 + 1 + 1 < 3 by omega), join_cons, flatMap_cons]
  simp [later]

end Path

/-- Two paths that differ in the third segment have one template just if both segments are UUIDs
(or spell the template of one). -/
theorem route_collapses_iff (collection : String) (listed : collection ∈ collections)
    (left right remainder : String) (leftFull : left ≠ "") (rightFull : right ≠ "")
    (leftPlain : '/' ∉ left.toList) (rightPlain : '/' ∉ right.toList) :
    normalizeManagementRoute (pathBelow collection left remainder) =
        normalizeManagementRoute (pathBelow collection right remainder) ↔
      left = right ∨ WrittenAsId (thirdSegment left remainder) ∧
        WrittenAsId (thirdSegment right remainder) := by
  obtain ⟨tail, template⟩ := normalize_below listed remainder
  rw [← String.toList_inj, template left leftFull leftPlain, template right rightFull rightPlain]
  simp only [List.cons.injEq, true_and, append_cancel_left_eq, append_cancel_right_eq]
  rw [written_eq_iff, thirdSegment, thirdSegment, append_cancel_right_eq, String.toList_inj]

theorem route_collapses_two_uuids :
    normalizeManagementRoute (pathBelow "roles" "0f8fad5b-d9cb-469f-a165-70867728950e" "/rules") =
      normalizeManagementRoute
        (pathBelow "roles" "7c9e6679-7425-40de-944b-e07fc1f90ae7" "/rules") :=
  (route_collapses_iff "roles" (by decide) "0f8fad5b-d9cb-469f-a165-70867728950e"
    "7c9e6679-7425-40de-944b-e07fc1f90ae7" "/rules" (by decide) (by decide) (by decide)
    (by decide)).mpr (.inr (by decide +kernel))

/-- Every slug has a template and a bucket of its own. -/
theorem slug_keeps_its_bucket :
    normalizeManagementRoute "/v1/servers/abc-123/health" = "/v1/servers/abc-123/health" ∧
      normalizeManagementRoute "/v1/servers/abc-124/health" = "/v1/servers/abc-124/health" ∧
      checkKey ⟨2#128⟩ "agent-1" "management_api"
          (normalizeManagementRoute "/v1/servers/abc-123/health") .tool ≠
        checkKey ⟨2#128⟩ "agent-1" "management_api"
          (normalizeManagementRoute "/v1/servers/abc-124/health") .tool := by
  decide +kernel

end Portcullis.Gateway.ManagementRoutes
