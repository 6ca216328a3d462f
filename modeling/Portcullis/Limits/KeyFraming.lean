import Portcullis.Limits.RedisBucket

/-!
# The frame of a rate-limit key

Every part of a key is sanitised before it is joined, so the colons of a key are the
separators that `RateLimiter.check` wrote and their number tells the scope.
-/

namespace Portcullis.Limits.KeyFraming

open Lib Lib.PyStr Limits.Policies Limits.RedisBucket List

def Clean (chars : List Char) : Prop :=
  ∀ char ∈ chars, char ≠ ':' ∧ char ≠ '\r' ∧ char ≠ '\n'

instance (chars : List Char) : Decidable (Clean chars) := List.decidableBAll _ _

theorem clean_str (uuid : Uuid) : Clean uuid.str.toList := by
  intro char mem
  rw [Uuid.str, String.toList_ofList] at mem
  rcases Uuid.mem_hyphenate _ _ mem with rfl | digit
  · decide
  · obtain ⟨nibble, small, rfl⟩ := Uuid.mem_hexDigits _ _ _ digit
    interval_cases nibble <;> decide

structure Part (chars : List Char) : Prop where
  nonempty : chars ≠ []
  short : chars.length ≤ 200
  clean : Clean chars

theorem part_sanitizeSegment (value : String) {maxLen : Nat} (bound : maxLen ≤ 200) :
    Part (sanitizeSegment value maxLen).toList := by
  have cleaned : Clean (replaceChar '\r' '_' (replaceChar '\n' '_'
      (replaceChar ':' '_' value.toList))) := by
    intro char mem
    simp only [replaceChar, map_map, mem_map, Function.comp_apply] at mem
    obtain ⟨original, _, rfl⟩ := mem
    split_ifs <;> simp_all
  unfold sanitizeSegment
  dsimp only
  split
  · exact ⟨by decide, by decide, by decide⟩
  · rename_i first rest taken
    rw [String.toList_ofList]
    refine ⟨cons_ne_nil _ _, ?_, ?_⟩
    · rw [← taken]
      exact (length_take_le _ _).trans bound
    · rw [← taken]
      exact fun char mem => cleaned char (mem_of_mem_take mem)

theorem part_of_mem_segments (subject slug tool : String) (scope : Scope) :
    ∀ segment ∈ segments subject slug tool scope, Part segment :=
  forall_mem_segments ⟨by decide, by decide, by decide⟩
    (fun value _ bound => part_sanitizeSegment value bound) _ _ _ _

theorem mem_intercalate {parts : List (List Char)} {char : Char}
    (mem : char ∈ [':'].intercalate parts) : char = ':' ∨ ∃ part ∈ parts, char ∈ part := by
  induction parts with
  | nil => simp at mem
  | cons part rest ih =>
    cases rest with
    | nil => exact .inr ⟨part, mem_cons_self, by simpa using mem⟩
    | cons next rest =>
      rw [intercalate_cons_cons, mem_append, mem_append] at mem
      rcases mem with (here | colon) | later
      · exact .inr ⟨part, mem_cons_self, here⟩
      · exact .inl (mem_singleton.mp colon)
      · exact (ih later).imp id fun ⟨other, hi, found⟩ =>
          ⟨other, mem_cons_of_mem _ hi, found⟩

theorem length_intercalate_le {parts : List (List Char)}
    (short : ∀ part ∈ parts, part.length ≤ 200) :
    ([':'].intercalate parts).length ≤ 201 * parts.length := by
  induction parts with
  | nil => simp
  | cons part rest ih =>
    have head := short part mem_cons_self
    have tail := ih fun other hi => short other (mem_cons_of_mem _ hi)
    cases rest with
    | nil => simp; omega
    | cons next rest =>
      rw [intercalate_cons_cons]
      simp only [length_append, length_cons, length_nil] at tail ⊢
      omega

section Key

variable (tenant : Uuid) (subject slug tool : String) (scope : Scope)

/-- The parts of a key: a fixed word, the tenant and what the scope adds. -/
def frame : List (List Char) :=
  "rl".toList :: tenant.str.toList :: segments subject slug tool scope

theorem part_of_mem_frame :
    ∀ part ∈ frame tenant subject slug tool scope, Part part := by
  intro part mem
  simp only [frame, mem_cons] at mem
  rcases mem with same | same | mem
  · rw [same]
    exact ⟨by decide, by decide, by decide⟩
  · have length : part.length = 36 := same ▸ Uuid.length_str tenant
    refine ⟨ne_nil_of_length_pos (by omega), by omega, ?_⟩
    rw [same]
    exact clean_str tenant
  · exact part_of_mem_segments _ _ _ _ part mem

theorem checkKey_eq_intercalate :
    (checkKey tenant subject slug tool scope).toList =
      [':'].intercalate (frame tenant subject slug tool scope) := by
  have lead : "rl:".toList = "rl".toList ++ [':'] := by decide
  rw [toList_checkKey, lead, frame]
  cases shape : segments subject slug tool scope with
  | nil => exact absurd shape (segments_ne_nil _ _ _ _)
  | cons first rest =>
    simp only [intercalate_cons_cons, append_assoc, singleton_append]

def Counts : Scope → Nat → Prop
  | .subject, count => count = 3
  | .server, count => count = 4
  | .tool, count => count = 5
  | .global, count => count = 3 ∨ count = 4

theorem counts_frame :
    Counts scope (frame tenant subject slug tool scope).length := by
  cases scope with
  | global =>
    simp only [frame, segments]
    split
    · exact .inr rfl
    · exact .inl rfl
  | _ => rfl

/-- The colons of a key delimit its parts, none of them empty; no line break is in it, its
length is bounded, and keys of different scopes besides the global one are different. -/
theorem checkKey_framed : ∃ parts : List (List Char),
    (checkKey tenant subject slug tool scope).toList.splitOn ':' =
        "rl".toList :: tenant.str.toList :: parts ∧
      Counts scope (parts.length + 2) ∧
      (∀ part ∈ "rl".toList :: tenant.str.toList :: parts, part ≠ []) ∧
      (∀ char ∈ (checkKey tenant subject slug tool scope).toList,
        char ≠ '\r' ∧ char ≠ '\n') ∧
      (checkKey tenant subject slug tool scope).length ≤ 1005 ∧
      ∀ otherTenant otherSubject otherSlug otherTool otherScope,
        scope ≠ otherScope → scope ≠ .global → otherScope ≠ .global →
          checkKey tenant subject slug tool scope ≠
            checkKey otherTenant otherSubject otherSlug otherTool otherScope := by
  have parts := part_of_mem_frame tenant subject slug tool scope
  have counts := counts_frame tenant subject slug tool scope
  have joined := checkKey_eq_intercalate tenant subject slug tool scope
  refine ⟨segments subject slug tool scope, ?_, counts,
    fun part mem => (parts part mem).nonempty, fun char mem => ?_, ?_, ?_⟩
  · rw [joined]
    exact splitOn_intercalate _
      (fun part mem colon => ((parts part mem).clean _ colon).1 rfl) (cons_ne_nil _ _)
  · rw [joined] at mem
    rcases mem_intercalate mem with rfl | ⟨part, hi, found⟩
    · decide
    · exact ((parts part hi).clean char found).2
  · have bound := length_intercalate_le fun part mem => (parts part mem).short
    rw [← joined, String.length_toList] at bound
    have few : (frame tenant subject slug tool scope).length ≤ 5 := by
      cases scope <;> simp only [Counts] at counts <;> omega
    omega
  · intro otherTenant otherSubject otherSlug otherTool otherScope apart notGlobal otherNotGlobal
      same
    have equal := congrArg List.length ((checkKey_eq_iff _ _ _ _ _ _ _ _ _ _).mp same).2
    cases scope <;> cases otherScope <;> simp_all [segments]

end Key

end Portcullis.Limits.KeyFraming
