import Mathlib.Data.List.Basic

/-!
# Regular expressions without alternation

A pattern is a sequence of repeated character classes.  `matchAt` is the match of a greedy,
backtracking engine at the front of a text: every piece first takes as many characters as it
can and gives them back one by one.
-/

namespace Portcullis.Lib.Pattern

/-- A class with its repetition; `most = none` is unbounded. -/
structure Piece where
  accepts : Char → Bool
  least : Nat
  most : Option Nat

def one (accepts : Char → Bool) : Piece := ⟨accepts, 1, some 1⟩

def optional (accepts : Char → Bool) : Piece := ⟨accepts, 0, some 1⟩

def atLeast (least : Nat) (accepts : Char → Bool) : Piece := ⟨accepts, least, none⟩

def exactly (count : Nat) (accepts : Char → Bool) : Piece := ⟨accepts, count, some count⟩

def literal (word : String) : List Piece := word.toList.map fun char => one (· == char)

/-- The widths that a piece can take at the front of a text, the largest first. -/
def widths (piece : Piece) (text : List Char) : List Nat :=
  let reach := (text.takeWhile piece.accepts).length
  let reach := piece.most.elim reach (min reach)
  (List.range (reach + 1)).reverse.filter (piece.least ≤ ·)

/-- The widths of the pieces in the match at the front of a text. -/
def matchAt : List Piece → List Char → Option (List Nat)
  | [], _ => some []
  | piece :: rest, text => (widths piece text).findSome? fun width =>
    (matchAt rest (text.drop width)).map (width :: ·)

/-- `re.search` finds a match. -/
def search (pattern : List Piece) (text : List Char) : Bool :=
  text.tails.any fun rest => (matchAt pattern rest).isSome

/-- `re.sub`, for a pattern that never matches the empty text.  A match is replaced by what
`replace` makes of its pieces; `skip` characters of it are still to be passed over. -/
def subFrom (pattern : List Piece) (replace : List Nat → List Char → List Char) :
    Nat → List Char → List Char
  | _, [] => []
  | skip + 1, _ :: rest => subFrom pattern replace skip rest
  | 0, char :: rest =>
    match matchAt pattern (char :: rest) with
    | none => char :: subFrom pattern replace 0 rest
    | some taken => replace taken (char :: rest) ++ subFrom pattern replace (taken.sum - 1) rest

def sub (pattern : List Piece) (replace : List Nat → List Char → List Char)
    (text : List Char) : List Char :=
  subFrom pattern replace 0 text

end Portcullis.Lib.Pattern
