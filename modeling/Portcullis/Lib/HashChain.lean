import Mathlib.Data.List.Induction
import Mathlib.Tactic

/-!
# Hash chains with optional links

A row stores the hash of the row before it and the hash of its own payload, either of
which may be missing.  The payload spells a missing link as the empty text, so that a
chain is bound to its newest hash as long as no hash is empty.
-/

namespace Portcullis.Lib.HashChain

open List

structure Scheme (Row Payload : Type) where
  prevHash : Row → Option String
  entryHash : Row → Option String
  payload : Row → Payload
  hash : Payload → String

namespace Scheme

variable {Row Payload : Type} (scheme : Scheme Row Payload)

/-- A stored hash is the hash of the payload. -/
def Sealed (row : Row) : Prop :=
  ∀ stored, scheme.entryHash row = some stored → scheme.hash (scheme.payload row) = stored

/-- Rows, oldest first, that continue a chain whose newest hash is `prev`. -/
def Linked : Option String → List Row → Prop
  | _, [] => True
  | prev, row :: rest =>
    scheme.prevHash row = prev ∧ scheme.Sealed row ∧ Linked (scheme.entryHash row) rest

def newest : Option String → List Row → Option String
  | prev, [] => prev
  | _, row :: rest => newest (scheme.entryHash row) rest

variable (prev : Option String) (rows : List Row)

theorem newest_append (left right : List Row) :
    scheme.newest prev (left ++ right) = scheme.newest (scheme.newest prev left) right := by
  induction left generalizing prev with
  | nil => rfl
  | cons row rest ih => exact ih (scheme.entryHash row)

theorem newest_concat (row : Row) : scheme.newest prev (rows ++ [row]) = scheme.entryHash row := by
  rw [newest_append]
  rfl

theorem linked_append (left right : List Row) : scheme.Linked prev (left ++ right) ↔
      scheme.Linked prev left ∧ scheme.Linked (scheme.newest prev left) right := by
  induction left generalizing prev with
  | nil => simp [Linked, newest]
  | cons row rest ih => simp only [cons_append, Linked, newest, ih, and_assoc]

theorem linked_concat (row : Row) : scheme.Linked prev (rows ++ [row]) ↔
      scheme.Linked prev rows ∧ scheme.prevHash row = scheme.newest prev rows ∧
        scheme.Sealed row := by
  rw [linked_append]
  simp [Linked]

theorem sealed_of_linked (linked : scheme.Linked prev rows) : ∀ row ∈ rows, scheme.Sealed row := by
  induction rows generalizing prev with
  | nil =>
    intro row mem
    cases mem
  | cons first rest ih =>
    intro row mem
    rcases mem_cons.mp mem with rfl | later
    · exact linked.2.1
    · exact ih _ linked.2.2 row later

theorem linked_none_iff_of_linked (linked : scheme.Linked prev rows) :
    scheme.Linked none rows ↔ ∀ row ∈ rows.head?, scheme.prevHash row = none := by
  cases rows with
  | nil => simp [Linked]
  | cons row rest =>
    obtain ⟨_, sealed, continued⟩ := linked
    simp [Linked, sealed, continued]

theorem linked_map_iff {Edit : Type} (before after : Edit → Row)
    (samePrev : ∀ edit, scheme.prevHash (after edit) = scheme.prevHash (before edit))
    (sameEntry : ∀ edit, scheme.entryHash (after edit) = scheme.entryHash (before edit))
    (edits : List Edit) : ∀ prev : Option String, scheme.Linked prev (edits.map before) →
        (scheme.Linked prev (edits.map after) ↔ ∀ edit ∈ edits, scheme.Sealed (after edit)) := by
  induction edits with
  | nil =>
    intro prev _
    simp [Linked]
  | cons edit rest ih =>
    intro prev linked
    obtain ⟨link, _, continued⟩ := linked
    have restIff := ih _ continued
    rw [← sameEntry edit] at restIff
    simp only [map_cons, Linked, forall_mem_cons, samePrev, link, restIff, true_and]

section Binding

variable (prevText : Payload → String)
  (spelled : ∀ row, prevText (scheme.payload row) = (scheme.prevHash row).getD "")
  (nonempty : ∀ payload, scheme.hash payload ≠ "")

include nonempty in
theorem newest_ne_empty (rows : List Row) (linked : scheme.Linked none rows) :
    scheme.newest none rows ≠ some "" := by
  induction rows using List.reverseRecOn with
  | nil => simp [newest]
  | append_singleton rows row _ =>
    rw [newest_concat]
    intro empty
    have sealed := ((scheme.linked_concat none rows row).mp linked).2.2
    exact nonempty _ (sealed "" empty)

theorem eq_of_getD_empty {left right : Option String} (leftFull : left ≠ some "")
    (rightFull : right ≠ some "") (same : left.getD "" = right.getD "") : left = right := by
  cases left with
  | none =>
    cases right with
    | none => rfl
    | some text => exact absurd (congrArg some same.symm) rightFull
  | some text =>
    cases right with
    | none => exact absurd (congrArg some same) leftFull
    | some other => exact congrArg some same

include spelled nonempty in
theorem payloads_eq_of_newest_eq (left right : List Row)
    (leftLinked : scheme.Linked none left) (rightLinked : scheme.Linked none right)
    (leftHashed : ∀ row ∈ left, (scheme.entryHash row).isSome = true)
    (rightHashed : ∀ row ∈ right, (scheme.entryHash row).isSome = true)
    (collisionFree : ∀ first ∈ left, ∀ second ∈ right,
      scheme.hash (scheme.payload first) = scheme.hash (scheme.payload second) →
        scheme.payload first = scheme.payload second)
    (same : scheme.newest none left = scheme.newest none right) :
    left.map scheme.payload = right.map scheme.payload := by
  -- from the newest row backwards: equal hashes give equal payloads, hence equal links
  induction left using List.reverseRecOn generalizing right with
  | nil =>
    cases right using List.reverseRecOn with
    | nil => rfl
    | append_singleton rows row =>
      rw [newest_concat] at same
      have hashed := rightHashed row (by simp)
      rw [← same] at hashed
      cases hashed
  | append_singleton rows row ih =>
    cases right using List.reverseRecOn with
    | nil =>
      rw [newest_concat] at same
      have hashed := leftHashed row (by simp)
      rw [same] at hashed
      cases hashed
    | append_singleton others other =>
      rw [newest_concat, newest_concat] at same
      obtain ⟨rowsLinked, rowLink, rowSealed⟩ :=
        (scheme.linked_concat none rows row).mp leftLinked
      obtain ⟨othersLinked, otherLink, otherSealed⟩ :=
        (scheme.linked_concat none others other).mp rightLinked
      obtain ⟨stored, storedEq⟩ := Option.isSome_iff_exists.mp (leftHashed row (by simp))
      have payloadEq := collisionFree row (by simp) other (by simp)
        ((rowSealed stored storedEq).trans (otherSealed stored (same.symm.trans storedEq)).symm)
      have linkText : (scheme.newest none rows).getD "" =
          (scheme.newest none others).getD "" := by
        rw [← rowLink, ← otherLink, ← spelled, ← spelled, payloadEq]
      have linkEq := eq_of_getD_empty (scheme.newest_ne_empty nonempty rows rowsLinked)
        (scheme.newest_ne_empty nonempty others othersLinked) linkText
      have restEq := ih others rowsLinked othersLinked
        (fun one mem => leftHashed one (mem_append_left _ mem))
        (fun one mem => rightHashed one (mem_append_left _ mem))
        (fun first firstMember second secondMember =>
          collisionFree first (mem_append_left _ firstMember) second
            (mem_append_left _ secondMember)) linkEq
      rw [map_append, map_append, restEq, map_singleton,
        map_singleton, payloadEq]

end Binding

end Scheme

end Portcullis.Lib.HashChain
