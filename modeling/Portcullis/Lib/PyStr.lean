import Mathlib.Data.List.TakeWhile
import Mathlib.Tactic

/-!
# Python string operations

Strings are sequences of Unicode scalar values.  The operations below follow the
documented behaviour of `str`; the full Unicode case table is not reproduced, it
is a parameter of which only the ASCII part is fixed.
-/

namespace Portcullis.Lib.PyStr

open List

/-- The characters `str.strip()` removes. -/
def isSpace (char : Char) : Bool :=
  let code := char.toNat
  (9 ≤ code && code ≤ 13) || (28 ≤ code && code ≤ 32) || code == 0x85 ||
    code == 0xA0 || code == 0x1680 || (0x2000 ≤ code && code ≤ 0x200A) ||
    code == 0x2028 || code == 0x2029 || code == 0x202F || code == 0x205F ||
    code == 0x3000

def strip (chars : List Char) : List Char :=
  ((chars.dropWhile isSpace).reverse.dropWhile isSpace).reverse

/-- `s.removeprefix(lead)`. -/
def removePrefix (lead text : List Char) : List Char :=
  if lead.isPrefixOf text then text.drop lead.length else text

variable (removed : Char) (chars : List Char)

/-- `s.replace(removed, "")` for a one-character string. -/
def removeChar (chars : List Char) : List Char :=
  chars.filter fun char => decide (char ≠ removed)

/-- `s.replace(old, new)` for one-character strings. -/
def replaceChar (old new : Char) (chars : List Char) : List Char :=
  chars.map fun char => if char = old then new else char

/-- `s.split(sep, 1)` when the separator occurs. -/
def splitOnce (separator : Char) : List Char → Option (List Char × List Char)
  | [] => none
  | char :: rest =>
    if char = separator then some ([], rest)
    else (splitOnce separator rest).map fun found => (char :: found.1, found.2)

theorem splitOnce_eq_some {separator : Char} {text front back : List Char} :
    splitOnce separator text = some (front, back) ↔
      text = front ++ separator :: back ∧ separator ∉ front := by
  induction text generalizing front with
  | nil => simp [splitOnce]
  | cons char rest ih =>
    rw [splitOnce]
    split
    · rename_i same
      subst same
      cases front with
      | nil => simp
      | cons first tail =>
        simp only [Option.some.injEq, Prod.mk.injEq, cons_append, List.cons.injEq,
          mem_cons, not_or, reduceCtorEq, false_and, false_iff]
        exact fun ⟨⟨same, _⟩, other, _⟩ => other same
    · rename_i other
      cases front with
      | nil => simp [other]
      | cons first tail =>
        simp only [Option.map_eq_some_iff, Prod.exists, Prod.mk.injEq, List.cons.injEq,
          cons_append, mem_cons, not_or]
        constructor
        · rintro ⟨_, _, found, ⟨rfl, rfl⟩, rfl⟩
          obtain ⟨shape, absent⟩ := ih.mp found
          exact ⟨⟨rfl, shape⟩, Ne.symm other, absent⟩
        · rintro ⟨⟨rfl, shape⟩, _, absent⟩
          exact ⟨tail, back, ih.mpr ⟨shape, absent⟩, ⟨rfl, rfl⟩, rfl⟩

/-- `text.split(separator)`. -/
def split (separator : Char) : List Char → List (List Char)
  | [] => [[]]
  | char :: rest =>
    if char = separator then [] :: split separator rest
    else match split separator rest with
      | [] => [[char]]
      | first :: others => (char :: first) :: others

theorem split_separator (separator : Char) (rest : List Char) :
    split separator (separator :: rest) = [] :: split separator rest := by
  rw [split, if_pos rfl]

theorem exists_split (separator : Char) (text : List Char) :
    ∃ others, split separator text = text.takeWhile (· ≠ separator) :: others := by
  induction text with
  | nil => exact ⟨[], rfl⟩
  | cons char rest ih =>
    obtain ⟨others, found⟩ := ih
    by_cases here : char = separator
    · exact ⟨split separator rest, by simp [split, here]⟩
    · exact ⟨others, by simp [split, here, found]⟩

theorem split_append {separator : Char} {word text first : List Char} {others : List (List Char)}
    (plain : separator ∉ word) (found : split separator text = first :: others) :
    split separator (word ++ text) = (word ++ first) :: others := by
  induction word with
  | nil => exact found
  | cons char rest ih =>
    have ne : char ≠ separator := fun same => plain (same ▸ mem_cons_self)
    have onward := ih fun mem => plain (mem_cons_of_mem _ mem)
    rw [cons_append, split, if_neg ne, onward]
    rfl

/-- `separator.join(pieces)`. -/
def join (separator : List Char) : List (List Char) → List Char
  | [] => []
  | [piece] => piece
  | piece :: next :: others => piece ++ separator ++ join separator (next :: others)

theorem join_cons (separator piece : List Char) (others : List (List Char)) :
    join separator (piece :: others) = piece ++ others.flatMap fun other => separator ++ other := by
  induction others generalizing piece with
  | nil => simp [join]
  | cons next rest ih => rw [join, ih, flatMap_cons, append_assoc, append_assoc]

/-- `needle in text`. -/
def occursIn (needle text : List Char) : Bool :=
  text.tails.any fun suffix => needle.isPrefixOf suffix

/-- `text.isdigit()` on Latin-1 text, where three superscripts count as digits. -/
def isDigitText (text : List Char) : Bool :=
  !text.isEmpty && text.all fun char =>
    char.isDigit || char.toNat == 0xB2 || char.toNat == 0xB3 || char.toNat == 0xB9

/-- Decimal digits with single underscores between them. -/
def intDigits : Nat → Bool → List Char → Option Nat
  | value, afterDigit, [] => if afterDigit then some value else none
  | value, afterDigit, char :: rest =>
    if char.isDigit then intDigits (value * 10 + (char.toNat - 48)) true rest
    else if char = '_' ∧ afterDigit then intDigits value false rest
    else none

/-- The number of digits beyond which `int(text)` raises. -/
def maxStrDigits : Nat := 4300

/-- `int(text)`; `none` is the `ValueError`.  Digits are ASCII digits. -/
def parseInt (chars : List Char) : Option Int :=
  let text := strip chars
  let (negative, body) := match text with
    | '-' :: rest => (true, rest)
    | '+' :: rest => (false, rest)
    | _ => (false, text)
  if maxStrDigits < body.countP (·.isDigit) then none
  else (intDigits 0 false body).map fun value => if negative then -value else value

/-- Unicode upper-casing, character by character; one character may become
several.  On ASCII it is the usual map. -/
structure CaseMap where
  upper : Char → List Char
  ascii : ∀ char : Char, char.toNat < 128 → upper char = [char.toUpper]

def CaseMap.upperAll (unicode : CaseMap) (chars : List Char) : List Char :=
  chars.flatMap unicode.upper

/-- The case map of texts that are ASCII only. -/
def asciiCase : CaseMap where
  upper char := [char.toUpper]
  ascii _ _ := rfl

theorem strip_of_no_space (noSpace : ∀ char ∈ chars, isSpace char = false) :
    strip chars = chars := by
  have unchanged : ∀ text : List Char, (∀ char ∈ text, isSpace char = false) →
      text.dropWhile isSpace = text := by
    intro text textNoSpace
    cases text with
    | nil => rfl
    | cons first rest => simp [textNoSpace first (by simp)]
  rw [strip, unchanged chars noSpace, unchanged chars.reverse (by simpa using noSpace),
    reverse_reverse]

theorem strip_eq_nil_iff : strip chars = [] ↔ ∀ char ∈ chars, isSpace char = true := by
  rw [strip, reverse_eq_nil_iff, dropWhile_eq_nil_iff]
  constructor
  · intro trailing
    by_contra visible
    have started : chars.dropWhile isSpace ≠ [] :=
      fun none => visible (dropWhile_eq_nil_iff.mp none)
    have first := head_dropWhile_not isSpace started
    have spaced := trailing _ (mem_reverse.mpr (head_mem started))
    simp [first] at spaced
  · intro blank char mem
    exact blank char ((dropWhile_sublist isSpace).subset (mem_reverse.mp mem))

theorem removeChar_of_not_mem (absent : removed ∉ chars) : removeChar removed chars = chars := by
  apply filter_eq_self.mpr
  intro char mem
  have ne : char ≠ removed := by
    intro same
    rw [same] at mem
    exact absent mem
  simpa using ne

theorem not_mem_replaceChar {old new : Char} (ne : new ≠ old) (chars : List Char) :
    old ∉ replaceChar old new chars := by
  intro mem
  obtain ⟨char, _, replaced⟩ := mem_map.mp mem
  split at replaced
  · exact ne replaced
  · rename_i other
    exact other replaced

theorem mem_replaceChar {old new char : Char} {chars : List Char}
    (mem : char ∈ replaceChar old new chars) : char ∈ chars ∨ char = new := by
  obtain ⟨original, originalIn, replaced⟩ := mem_map.mp mem
  split at replaced
  · exact .inr replaced.symm
  · exact .inl (replaced ▸ originalIn)

theorem not_mem_removeChar : removed ∉ removeChar removed chars := by
  simp [removeChar]

theorem removeChar_append (left right : List Char) : removeChar removed (left ++ right) =
      removeChar removed left ++ removeChar removed right :=
  filter_append ..

end Portcullis.Lib.PyStr
