import Portcullis.Lib.Encoding

/-!
# URL-safe base64

`base64.urlsafe_b64encode`, and the decoder behind `urlsafe_b64decode`, which passes over what
is no data character and stops at a complete padding.  Encoding with the padding stripped and
decoding with the padding restored from the length are inverse.
-/

namespace Portcullis.Lib.Base64

open Encoding List

def alphabet : List Char :=
  "ABCDEFGHIJKLMNOPQRSTUVWXYZabcdefghijklmnopqrstuvwxyz0123456789-_".toList

def digit (value : Nat) : Char := alphabet.getD value 'A'

/-- The value of a data character; `+` and `/` count like the characters that stand for them. -/
def sextet (char : Char) : Option Nat :=
  if char = '+' then some 62 else if char = '/' then some 63 else alphabet.findIdx? (· == char)

def digits : Bytes → List Char
  | [] => []
  | [a] => [digit (a.toNat / 4), digit (a.toNat % 4 * 16)]
  | [a, b] =>
    [digit (a.toNat / 4), digit (a.toNat % 4 * 16 + b.toNat / 16), digit (b.toNat % 16 * 4)]
  | a :: b :: c :: rest =>
    digit (a.toNat / 4) :: digit (a.toNat % 4 * 16 + b.toNat / 16) ::
      digit (b.toNat % 16 * 4 + c.toNat / 64) :: digit (c.toNat % 64) :: digits rest

/-- What brings a length to a multiple of four. -/
def padding (length : Nat) : List Char := List.replicate ((4 - length % 4) % 4) '='

def urlsafeB64encode (bytes : Bytes) : List Char :=
  digits bytes ++ padding (digits bytes).length

/-- The loop of `binascii.a2b_base64`: `left` holds the bits of the current group of four data
characters that no byte has been made of.  `none` is `binascii.Error`. -/
def decodeFrom (quad left pads : Nat) : List Char → Option Bytes
  | [] => if quad = 0 then some [] else none
  | char :: rest =>
    if char = '=' then
      if quad < 2 then decodeFrom quad left pads rest
      else if 4 ≤ quad + (pads + 1) then some []
      else decodeFrom quad left (pads + 1) rest
    else
      match sextet char with
      | none => decodeFrom quad left pads rest
      | some value =>
        match quad with
        | 0 => decodeFrom 1 value 0 rest
        | 1 => (decodeFrom 2 (value % 16) 0 rest).map ((left * 4 + value / 16).toUInt8 :: ·)
        | 2 => (decodeFrom 3 (value % 4) 0 rest).map ((left * 16 + value / 4).toUInt8 :: ·)
        | _ => (decodeFrom 0 0 0 rest).map ((left * 64 + value).toUInt8 :: ·)

def urlsafeB64decode (text : List Char) : Option Bytes := decodeFrom 0 0 0 text

theorem digit_spec {value : Nat} (small : value < 64) :
    digit value ≠ '=' ∧ digit value ≠ '.' ∧ (digit value).toNat < 128 ∧
      sextet (digit value) = some value := by
  have every : ∀ value < 64, digit value ≠ '=' ∧ digit value ≠ '.' ∧
      (digit value).toNat < 128 ∧ sextet (digit value) = some value := by decide +kernel
  exact every value small

theorem digits_induction {motive : Bytes → Prop} (none : motive []) (one : ∀ a, motive [a])
    (two : ∀ a b, motive [a, b]) (more : ∀ a b c rest, motive rest → motive (a :: b :: c :: rest)) :
    ∀ bytes, motive bytes
  | [] => none
  | [a] => one a
  | [a, b] => two a b
  | a :: b :: c :: rest => more a b c rest (digits_induction none one two more rest)

theorem digits_plain (bytes : Bytes) :
    ∀ char ∈ digits bytes, char ≠ '=' ∧ char ≠ '.' ∧ char.toNat < 128 := by
  have known : ∀ {value : Nat}, value < 64 →
      digit value ≠ '=' ∧ digit value ≠ '.' ∧ (digit value).toNat < 128 := fun small =>
    ⟨(digit_spec small).1, (digit_spec small).2.1, (digit_spec small).2.2.1⟩
  have byte : ∀ value : UInt8, value.toNat < 256 := fun value => value.toNat_lt
  induction bytes using digits_induction with
  | none => exact nofun
  | one a =>
    have := byte a
    simp only [digits, forall_mem_cons]
    exact ⟨known (by omega), known (by omega), nofun⟩
  | two a b =>
    have := byte a
    have := byte b
    simp only [digits, forall_mem_cons]
    exact ⟨known (by omega), known (by omega), known (by omega), nofun⟩
  | more a b c rest ih =>
    have := byte a
    have := byte b
    have := byte c
    simp only [digits, forall_mem_cons]
    exact ⟨known (by omega), known (by omega), known (by omega), known (by omega), ih⟩

theorem decodeFrom_digit {value : Nat} (small : value < 64) (quad left pads : Nat)
    (rest : List Char) :
    decodeFrom quad left pads (digit value :: rest) =
      match quad with
      | 0 => decodeFrom 1 value 0 rest
      | 1 => (decodeFrom 2 (value % 16) 0 rest).map ((left * 4 + value / 16).toUInt8 :: ·)
      | 2 => (decodeFrom 3 (value % 4) 0 rest).map ((left * 16 + value / 4).toUInt8 :: ·)
      | _ => (decodeFrom 0 0 0 rest).map ((left * 64 + value).toUInt8 :: ·) := by
  obtain ⟨plain, _, _, known⟩ := digit_spec small
  rw [decodeFrom, if_neg plain, known]

theorem toUInt8_eq {value : Nat} {byte : UInt8} (same : value = byte.toNat) :
    value.toUInt8 = byte := by
  rw [same]
  exact UInt8.ofNat_toNat

section Group

variable {high low : Nat} (byte : UInt8) (left pads : Nat) (rest : List Char)

theorem decodeFrom_first (highSmall : high < 64) (lowSmall : low < 64)
    (same : high * 4 + low / 16 = byte.toNat) :
    decodeFrom 0 left pads (digit high :: digit low :: rest) =
      (decodeFrom 2 (low % 16) 0 rest).map (byte :: ·) := by
  rw [← toUInt8_eq same, decodeFrom_digit highSmall]
  exact decodeFrom_digit lowSmall 1 high 0 rest

theorem decodeFrom_second (small : low < 64) (same : left * 16 + low / 4 = byte.toNat) :
    decodeFrom 2 left pads (digit low :: rest) =
      (decodeFrom 3 (low % 4) 0 rest).map (byte :: ·) := by
  rw [← toUInt8_eq same]
  exact decodeFrom_digit small 2 left pads rest

theorem decodeFrom_third (small : low < 64) (same : left * 64 + low = byte.toNat) :
    decodeFrom 3 left pads (digit low :: rest) = (decodeFrom 0 0 0 rest).map (byte :: ·) := by
  rw [← toUInt8_eq same]
  exact decodeFrom_digit small 3 left pads rest

end Group

theorem decode_digits (bytes : Bytes) :
    urlsafeB64decode (digits bytes ++ padding (digits bytes).length) = some bytes := by
  have small : ∀ value : UInt8, value.toNat < 256 := fun value => value.toNat_lt
  unfold urlsafeB64decode
  induction bytes using digits_induction with
  | none => rfl
  | one a =>
    have := small a
    simp only [digits, cons_append, nil_append]
    rw [decodeFrom_first a _ _ _ (by omega) (by omega) (by omega)]
    rfl
  | two a b =>
    have := small a
    have := small b
    simp only [digits, cons_append, nil_append]
    rw [decodeFrom_first a _ _ _ (by omega) (by omega) (by omega),
      decodeFrom_second b _ _ _ (by omega) (by omega)]
    rfl
  | more a b c rest ih =>
    have := small a
    have := small b
    have := small c
    have length : padding (digits (a :: b :: c :: rest)).length = padding (digits rest).length := by
      simp only [padding, digits, length_cons]
      congr 1
      omega
    rw [length]
    simp only [digits, cons_append]
    rw [decodeFrom_first a _ _ _ (by omega) (by omega) (by omega),
      decodeFrom_second b _ _ _ (by omega) (by omega),
      decodeFrom_third c _ _ _ (by omega) (by omega), ih]
    rfl

end Portcullis.Lib.Base64
