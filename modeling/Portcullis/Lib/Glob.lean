import Mathlib.Tactic

/-!
# Shell globbing as `fnmatch.fnmatchcase` performs it

A pattern is cut into tokens the way `fnmatch.translate` does: `*` and `?` are
wildcards, `[seq]` and `[!seq]` are character classes with ranges, a `[` that is
never closed is the character itself, and a `]` right after the opening (or
after `!`) belongs to the class.  The length theorems at the end bound what a
pattern without brackets can pin down in the names it matches.
-/

namespace Portcullis.Lib.Glob

open List

inductive Token where
  | star
  | any
  | lit (char : Char)
  | cls (negated : Bool) (ranges : List (Char × Char))
  deriving DecidableEq, Repr

/-- Ranges denoted by a class body.  A hyphen between two characters spans them;
a hyphen in first or last place, or right after a range, is itself. -/
def classRanges : List Char → List (Char × Char)
  | low :: '-' :: high :: rest => (low, high) :: classRanges rest
  | char :: rest => (char, char) :: classRanges rest
  | [] => []

def splitAtClose : List Char → Option (List Char × List Char)
  | [] => none
  | ']' :: rest => some ([], rest)
  | char :: rest =>
    (splitAtClose rest).map fun found => (char :: found.1, found.2)

/-- Body of a class whose opening bracket and negation mark have been read: a
`]` in first place is a member, not the end. -/
def classMembers : List Char → Option (List Char × List Char)
  | ']' :: rest => (splitAtClose rest).map fun found => (']' :: found.1, found.2)
  | chars => splitAtClose chars

/-- Negation mark, members and remaining text of a class, after its `[`. -/
def classBody : List Char → Option (Bool × List Char × List Char)
  | '!' :: rest => (classMembers rest).map fun found => (true, found.1, found.2)
  | chars => (classMembers chars).map fun found => (false, found.1, found.2)

/-- One unit of fuel is spent per token; the pattern length is always enough. -/
def tokensWithin : Nat → List Char → List Token
  | 0, _ => []
  | _ + 1, [] => []
  | fuel + 1, char :: rest =>
    if char = '*' then .star :: tokensWithin fuel rest
    else if char = '?' then .any :: tokensWithin fuel rest
    else if char = '[' then
      match classBody rest with
      | none => .lit '[' :: tokensWithin fuel rest
      | some (negated, members, remaining) =>
        .cls negated (classRanges members) :: tokensWithin fuel remaining
    else .lit char :: tokensWithin fuel rest

def translate (pattern : List Char) : List Token :=
  tokensWithin pattern.length pattern

def inRanges (char : Char) (ranges : List (Char × Char)) : Bool :=
  ranges.any fun range => decide (range.1 ≤ char) && decide (char ≤ range.2)

/-- Some suffix of the text, the text itself included, is accepted. -/
def anySuffix (accepts : List Char → Bool) : List Char → Bool
  | [] => accepts []
  | char :: rest => accepts (char :: rest) || anySuffix accepts rest

def matchTokens : List Token → List Char → Bool
  | [], [] => true
  | [], _ :: _ => false
  | .star :: tokens, text => anySuffix (matchTokens tokens) text
  | _ :: _, [] => false
  | .any :: tokens, _ :: rest => matchTokens tokens rest
  | .lit char :: tokens, first :: rest => first == char && matchTokens tokens rest
  | .cls negated ranges :: tokens, first :: rest =>
    (inRanges first ranges != negated) && matchTokens tokens rest

/-- `fnmatch.fnmatchcase(name, pattern)`. -/
def fnmatchcase (name pattern : String) : Bool :=
  matchTokens (translate pattern.toList) name.toList

/-! ## Equations for patterns without an opening bracket -/

theorem translate_star (rest : List Char) : translate ('*' :: rest) = .star :: translate rest := by
  simp [translate, tokensWithin]

theorem translate_any (rest : List Char) : translate ('?' :: rest) = .any :: translate rest := by
  simp [translate, tokensWithin]

theorem translate_lit (char : Char) (rest : List Char) (notStar : char ≠ '*')
    (notAny : char ≠ '?') (notOpen : char ≠ '[') :
    translate (char :: rest) = .lit char :: translate rest := by
  simp [translate, tokensWithin, notStar, notAny, notOpen]

theorem translate_plain (text : List Char)
    (plain : ∀ char ∈ text, char ≠ '*' ∧ char ≠ '?' ∧ char ≠ '[') :
    translate text = text.map .lit := by
  induction text with
  | nil => rfl
  | cons char rest ih =>
    obtain ⟨notStar, notAny, notOpen⟩ := plain char (by simp)
    rw [translate_lit char rest notStar notAny notOpen,
      ih fun other mem => plain other (by simp [mem])]
    rfl

theorem matchTokens_lits (text name : List Char) :
    matchTokens (text.map .lit) name = true ↔ name = text := by
  induction text generalizing name with
  | nil => cases name <;> simp [matchTokens]
  | cons char rest ih =>
    cases name with
    | nil => simp [matchTokens]
    | cons first remaining =>
      simp [matchTokens, ih]

theorem fnmatchcase_iff_eq (name pattern : String)
    (plain : ∀ char ∈ pattern.toList, char ≠ '*' ∧ char ≠ '?' ∧ char ≠ '[') :
    fnmatchcase name pattern = true ↔ name = pattern := by
  rw [fnmatchcase, translate_plain pattern.toList plain, matchTokens_lits, String.toList_inj]

theorem fnmatchcase_star (name : String) : fnmatchcase name "*" = true := by
  have stars : translate "*".toList = [.star] := by decide
  rw [fnmatchcase, stars, matchTokens]
  induction name.toList with
  | nil => rfl
  | cons char rest ih =>
    rw [anySuffix, ih, Bool.or_true]

/-! ## What a match says about the length of the name -/

/-- Number of tokens that consume exactly one character. -/
def width : List Token → Nat
  | [] => 0
  | .star :: tokens => width tokens
  | _ :: tokens => width tokens + 1

theorem anySuffix_elim (accepts : List Char → Bool) (text : List Char)
    (acc : anySuffix accepts text = true) :
    ∃ suffix, suffix <:+ text ∧ accepts suffix = true := by
  induction text with
  | nil => exact ⟨[], suffix_refl _, acc⟩
  | cons char rest ih =>
    simp only [anySuffix, Bool.or_eq_true] at acc
    rcases acc with here | later
    · exact ⟨char :: rest, suffix_refl _, here⟩
    · obtain ⟨suffix, isSuffix, accepts⟩ := ih later
      exact ⟨suffix, isSuffix.trans (suffix_cons _ _), accepts⟩

theorem width_le_length (tokens : List Token) (text : List Char)
    (matched : matchTokens tokens text = true) : width tokens ≤ text.length := by
  induction tokens generalizing text with
  | nil => simp [width]
  | cons token tokens ih =>
    cases token with
    | star =>
      obtain ⟨suffix, isSuffix, accepts⟩ :=
        anySuffix_elim (matchTokens tokens) text (by
          cases text <;> simpa [matchTokens] using matched)
      exact (ih suffix accepts).trans isSuffix.length_le
    | any =>
      cases text with
      | nil => simp [matchTokens] at matched
      | cons first rest =>
        simpa [width] using ih rest matched
    | lit char =>
      cases text with
      | nil => simp [matchTokens] at matched
      | cons first rest =>
        simp only [matchTokens, Bool.and_eq_true] at matched
        simpa [width] using ih rest matched.2
    | cls negated ranges =>
      cases text with
      | nil => simp [matchTokens] at matched
      | cons first rest =>
        simp only [matchTokens, Bool.and_eq_true] at matched
        simpa [width] using ih rest matched.2

/-- Without an opening bracket every character of the pattern other than `*`
consumes one character of the name. -/
theorem width_translate (pattern : List Char) (noOpen : ∀ char ∈ pattern, char ≠ '[') :
    width (translate pattern) = pattern.countP fun char => char ≠ '*' := by
  induction pattern with
  | nil => rfl
  | cons char rest ih =>
    have restNoOpen : ∀ other ∈ rest, other ≠ '[' := fun other mem =>
      noOpen other (by simp [mem])
    have restWidth := ih restNoOpen
    by_cases isStar : char = '*'
    · subst isStar
      rw [translate_star, width, restWidth]
      simp
    · by_cases isAny : char = '?'
      · subst isAny
        rw [translate_any, width, restWidth]
        · simp
        · simp
      · rw [translate_lit char rest isStar isAny (noOpen char (by simp)), width, restWidth]
        · simp [isStar]
        · simp

end Portcullis.Lib.Glob
