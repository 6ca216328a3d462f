import Mathlib.Tactic

/-!
# UUIDs and their textual form

A UUID is a 128-bit number.  `Uuid.str` is the canonical lower-case text of 32
hexadecimal digits in groups of 8, 4, 4, 4 and 12.  The text determines the
UUID, has 36 characters, and contains no colon.
-/

namespace Portcullis.Lib

open List

structure Uuid where
  bits : BitVec 128
  deriving DecidableEq, Repr

namespace Uuid

instance : Nonempty Uuid := ⟨⟨0⟩⟩

def hexDigit (nibble : Nat) : Char :=
  if nibble < 10 then Char.ofNat (48 + nibble) else Char.ofNat (87 + nibble)

/-- The low `width` hexadecimal digits, most significant first. -/
def hexDigits : Nat → Nat → List Char
  | 0, _ => []
  | width + 1, value => hexDigits width (value / 16) ++ [hexDigit (value % 16)]

/-- Hyphens after the 8th, 12th, 16th and 20th digit. -/
def hyphenate (digits : List Char) : List Char :=
  digits.take 8 ++ '-' :: (digits.drop 8).take 4 ++
    '-' :: (digits.drop 12).take 4 ++ '-' :: (digits.drop 16).take 4 ++
    '-' :: digits.drop 20

/-- `str(uuid)`. -/
def str (uuid : Uuid) : String :=
  String.ofList (hyphenate (hexDigits 32 uuid.bits.toNat))

theorem hexDigit_injective (left right : Nat) (leftSmall : left < 16)
    (rightSmall : right < 16) (same : hexDigit left = hexDigit right) :
    left = right := by
  revert same
  interval_cases left <;> interval_cases right <;> decide

theorem hexDigit_ne (nibble : Nat) (small : nibble < 16) :
    hexDigit nibble ≠ '-' ∧ hexDigit nibble ≠ ':' := by
  interval_cases nibble <;> decide

theorem length_hexDigits (width value : Nat) : (hexDigits width value).length = width := by
  induction width generalizing value with
  | zero => rfl
  | succ width ih => simp [hexDigits, ih]

theorem hexDigits_ne (width value : Nat) :
    ∀ char ∈ hexDigits width value, char ≠ '-' ∧ char ≠ ':' := by
  induction width generalizing value with
  | zero => simp [hexDigits]
  | succ width ih =>
    intro char mem
    simp only [hexDigits, mem_append, mem_singleton] at mem
    rcases mem with prev | rfl
    · exact ih (value / 16) char prev
    · exact hexDigit_ne (value % 16) (Nat.mod_lt _ (by norm_num))

theorem hexDigits_injective (width left right : Nat)
    (leftSmall : left < 16 ^ width) (rightSmall : right < 16 ^ width)
    (same : hexDigits width left = hexDigits width right) : left = right := by
  induction width generalizing left right with
  | zero => simp at leftSmall rightSmall; omega
  | succ width ih =>
    simp only [hexDigits] at same
    obtain ⟨highSame, lowSame⟩ := append_inj' same rfl
    rw [pow_succ] at leftSmall rightSmall
    have high := ih (left / 16) (right / 16)
      (Nat.div_lt_of_lt_mul (by omega)) (Nat.div_lt_of_lt_mul (by omega)) highSame
    have low := hexDigit_injective (left % 16) (right % 16)
      (Nat.mod_lt _ (by norm_num)) (Nat.mod_lt _ (by norm_num))
      (singleton_inj.mp lowSame)
    omega

theorem filter_hyphenate (digits : List Char) (noHyphen : ∀ char ∈ digits, char ≠ '-') :
    (hyphenate digits).filter (fun char => decide (char ≠ '-')) = digits := by
  have keep : ∀ part : List Char, (∀ char ∈ part, char ∈ digits) →
      part.filter (fun char => decide (char ≠ '-')) = part := by
    intro part inside
    apply filter_eq_self.mpr
    intro char mem
    simpa using noHyphen char (inside char mem)
  have dropped : ∀ start, ∀ char ∈ digits.drop start, char ∈ digits :=
    fun start char mem => mem_of_mem_drop mem
  simp only [hyphenate, filter_append, filter_cons]
  rw [keep (digits.take 8) fun char mem => mem_of_mem_take mem,
    keep ((digits.drop 8).take 4) fun char mem =>
      dropped 8 char (mem_of_mem_take mem),
    keep ((digits.drop 12).take 4) fun char mem =>
      dropped 12 char (mem_of_mem_take mem),
    keep ((digits.drop 16).take 4) fun char mem =>
      dropped 16 char (mem_of_mem_take mem),
    keep (digits.drop 20) (dropped 20)]
  have regroup : ∀ start, (digits.drop start).take 4 ++ digits.drop (start + 4) =
      digits.drop start := by
    intro start
    rw [← drop_drop]
    exact take_append_drop 4 (digits.drop start)
  simp only [ne_eq, not_true_eq_false, decide_false, Bool.false_eq_true, if_false,
    append_assoc]
  rw [regroup 16, regroup 12, regroup 8, take_append_drop]

theorem toNat_lt (uuid : Uuid) : uuid.bits.toNat < 16 ^ 32 :=
  lt_of_lt_of_eq uuid.bits.isLt (by norm_num)

theorem str_injective (left right : Uuid) (same : left.str = right.str) : left = right := by
  have chars : hyphenate (hexDigits 32 left.bits.toNat) =
      hyphenate (hexDigits 32 right.bits.toNat) := by
    simpa [str] using congrArg String.toList same
  have digits := congrArg (List.filter fun char => decide (char ≠ '-')) chars
  rw [filter_hyphenate _ fun char mem => (hexDigits_ne _ _ char mem).1,
    filter_hyphenate _ fun char mem => (hexDigits_ne _ _ char mem).1] at digits
  have value := hexDigits_injective 32 left.bits.toNat right.bits.toNat
    (toNat_lt left) (toNat_lt right) digits
  have bits : left.bits = right.bits := BitVec.eq_of_toNat_eq value
  cases left
  cases right
  simpa using bits

theorem mem_hexDigits (width value : Nat) (char : Char) (mem : char ∈ hexDigits width value) :
    ∃ nibble < 16, char = hexDigit nibble := by
  induction width generalizing value with
  | zero => simp [hexDigits] at mem
  | succ width ih =>
    simp only [hexDigits, mem_append, mem_singleton] at mem
    rcases mem with prev | rfl
    · exact ih (value / 16) prev
    · exact ⟨value % 16, Nat.mod_lt _ (by norm_num), rfl⟩

theorem mem_hyphenate (digits : List Char) (char : Char) (mem : char ∈ hyphenate digits) :
    char = '-' ∨ char ∈ digits := by
  simp only [hyphenate, mem_append, mem_cons] at mem
  grind [mem_of_mem_take, mem_of_mem_drop]

theorem nul_notMem_str (uuid : Uuid) : '\x00' ∉ uuid.str.toList := by
  intro mem
  rw [str, String.toList_ofList] at mem
  rcases mem_hyphenate _ _ mem with no | digit
  · revert no
    decide
  · obtain ⟨nibble, small, same⟩ := mem_hexDigits _ _ _ digit
    revert same
    interval_cases nibble <;> decide

theorem length_str (uuid : Uuid) : uuid.str.toList.length = 36 := by
  simp [str, hyphenate, length_hexDigits]

end Uuid

end Portcullis.Lib
