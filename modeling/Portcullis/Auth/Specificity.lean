import Portcullis.Auth.Rbac

/-!
# Specificity of a pattern and the length of the names it matches

A match of a pattern without brackets gives each `*` an extent of the name.  Length of the
name, specificity of the pattern, its question marks and the extents then balance.
-/

namespace Portcullis.Auth.Specificity

open Lib.Glob Auth.Rbac List

/-- A way of matching the name: what each `*` of the pattern stands for, in order. -/
inductive Spans : List Char → List Char → List (List Char) → Prop where
  | nil : Spans [] [] []
  | star {pattern name extents} (extent : List Char) (later : Spans pattern name extents) :
      Spans ('*' :: pattern) (extent ++ name) (extent :: extents)
  | any {pattern name extents} (char : Char) (later : Spans pattern name extents) :
      Spans ('?' :: pattern) (char :: name) extents
  | lit {pattern name extents} {char : Char} (hs : char ≠ '*') (ha : char ≠ '?')
      (later : Spans pattern name extents) : Spans (char :: pattern) (char :: name) extents

theorem exists_spans {pattern : List Char} (ho : '[' ∉ pattern) {name : List Char}
    (hm : matchTokens (translate pattern) name = true) :
    ∃ extents, Spans pattern name extents := by
  induction pattern generalizing name with
  | nil =>
    cases name with
    | nil => exact ⟨[], .nil⟩
    | cons first rest => cases hm
  | cons char pattern ih =>
    obtain ⟨notOpen, ho2⟩ := not_or.mp (mem_cons.not.mp ho)
    by_cases hs : char = '*'
    · subst hs
      rw [translate_star, matchTokens] at hm
      obtain ⟨suffix, ⟨extent, rfl⟩, acc⟩ := anySuffix_elim _ _ hm
      obtain ⟨extents, later⟩ := ih ho2 acc
      exact ⟨extent :: extents, .star extent later⟩
    by_cases ha : char = '?'
    · subst ha
      rw [translate_any] at hm
      cases name with
      | nil => simp [matchTokens] at hm
      | cons first rest =>
        obtain ⟨extents, later⟩ := ih ho2 (by simpa [matchTokens] using hm)
        exact ⟨extents, .any first later⟩
    · rw [translate_lit char pattern hs ha (Ne.symm notOpen)] at hm
      cases name with
      | nil => simp [matchTokens] at hm
      | cons first rest =>
        simp only [matchTokens, Bool.and_eq_true, beq_iff_eq] at hm
        obtain ⟨rfl, acc⟩ := hm
        obtain ⟨extents, later⟩ := ih ho2 acc
        exact ⟨extents, .lit hs ha later⟩

/-- Every character of the name is a literal of the pattern, under a `?` or in an extent. -/
theorem Spans.length_eq {pattern name : List Char} {extents : List (List Char)}
    (spans : Spans pattern name extents) (ho : '[' ∉ pattern) (hc : ']' ∉ pattern) :
    name.length = pattern.countP (!isWildcard ·) + pattern.count '?' + extents.flatten.length := by
  induction spans with
  | nil => rfl
  | star extent later ih =>
    have hb := ih (by simp_all) (by simp_all)
    simp [isWildcard] at hb ⊢
    omega
  | any char later ih =>
    have hb := ih (by simp_all) (by simp_all)
    simp [isWildcard] at hb ⊢
    omega
  | @lit _ _ _ char hs ha later ih =>
    have hb := ih (by simp_all) (by simp_all)
    simp only [mem_cons, not_or] at ho hc
    have literal : isWildcard char = false := by
      simp [isWildcard, hs, ha, Ne.symm ho.1, Ne.symm hc.1]
    rw [countP_cons_of_pos (by simp [literal]), count_cons_of_ne ha,
      length_cons]
    omega

theorem Spans.eq_filter {pattern name : List Char} {extents : List (List Char)}
    (spans : Spans pattern name extents) (noAny : '?' ∉ pattern) (empty : extents.flatten = []) :
    pattern.filter (· ≠ '*') = name := by
  induction spans with
  | nil => rfl
  | star extent later ih => simp_all
  | any char later ih => simp at noAny
  | lit hs ha later ih => simp_all

/-- Specificity is at most the length of a matched name, and equal to it just if the pattern
has no `?` and every `*` stands for the empty string: without its stars the pattern is the
name. -/
theorem patternSpecificity_vs_length {pattern name : String} (ho : '[' ∉ pattern.toList)
    (hc : ']' ∉ pattern.toList) (hm : fnmatchcase name pattern = true) :
    patternSpecificity pattern ≤ name.length ∧
      (∃ extents, Spans pattern.toList name.toList extents) ∧
      ∀ extents, Spans pattern.toList name.toList extents →
        (patternSpecificity pattern = name.length ↔
          '?' ∉ pattern.toList ∧ ∀ extent ∈ extents, extent = []) ∧
        (patternSpecificity pattern = name.length →
          pattern.toList.filter (· ≠ '*') = name.toList) := by
  obtain ⟨some, found⟩ := exists_spans ho hm
  have hbs : ∀ extents, Spans pattern.toList name.toList extents → name.length =
      patternSpecificity pattern + pattern.toList.count '?' + extents.flatten.length := by
    intro extents spans
    rw [← String.length_toList]
    exact spans.length_eq ho hc
  have hb := hbs some found
  refine ⟨by omega, ⟨some, found⟩, fun extents spans => ?_⟩
  have hb := hbs extents spans
  have exact : patternSpecificity pattern = name.length ↔
      '?' ∉ pattern.toList ∧ ∀ extent ∈ extents, extent = [] := by
    rw [← count_eq_zero, ← flatten_eq_nil_iff, ← length_eq_zero_iff]
    omega
  refine ⟨exact, fun equal => ?_⟩
  obtain ⟨noAny, empty⟩ := exact.mp equal
  exact spans.eq_filter noAny (flatten_eq_nil_iff.mpr empty)

theorem patternSpecificity_vs_length_sample :
    patternSpecificity "server_*" ≤ "server_list".length :=
  (patternSpecificity_vs_length (by decide) (by decide)
    (by decide : fnmatchcase "server_list" "server_*" = true)).1

end Portcullis.Auth.Specificity
