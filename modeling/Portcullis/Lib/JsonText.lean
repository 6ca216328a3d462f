import Portcullis.Lib.Json

/-!
# JSON as text

`json.dumps` with its default `ensure_ascii`.  The text of a number that is no integer is
the `repr` of a double and a parameter.  Values with one text are alike: a text is read from
the left, and where a value ends is seen from the text itself or from the delimiter after it.
-/

namespace Portcullis.Lib.Json

open Encoding List

/-- `separators` of `json.dumps`. -/
structure Separators where
  item : List Char
  key : List Char

def defaultSeparators : Separators := ⟨[',', ' '], [':', ' ']⟩

def hexDigit (value : Nat) : Char := Char.ofNat (if value < 10 then 48 + value else 87 + value)

/-- `\uXXXX` of a code unit. -/
def unicodeEscape (unit : Nat) : List Char :=
  ['\\', 'u', hexDigit (unit / 4096 % 16), hexDigit (unit / 256 % 16), hexDigit (unit / 16 % 16),
    hexDigit (unit % 16)]

def escapeChar (char : Char) : List Char :=
  if char = '"' then ['\\', '"']
  else if char = '\\' then ['\\', '\\']
  else if char = '\n' then ['\\', 'n']
  else if char = '\r' then ['\\', 'r']
  else if char = '\t' then ['\\', 't']
  else if char.toNat = 12 then ['\\', 'f']
  else if char.toNat = 8 then ['\\', 'b']
  else if 32 ≤ char.toNat ∧ char.toNat ≤ 126 then [char]
  else if char.toNat < 65536 then unicodeEscape char.toNat
  else
    -- outside the basic plane: a pair of surrogates
    unicodeEscape (0xD800 + (char.toNat - 65536) / 1024) ++
      unicodeEscape (0xDC00 + (char.toNat - 65536) % 1024)

def quoted (text : String) : List Char :=
  '"' :: (text.toList.flatMap escapeChar ++ ['"'])

variable (separators : Separators) (float : Int → Int → String)

mutual
def render : Json → List Char
  | .null => ['n', 'u', 'l', 'l']
  | .bool value => if value then ['t', 'r', 'u', 'e'] else ['f', 'a', 'l', 's', 'e']
  | .int value => (toString value).toList
  | .decimal mantissa exponent => (float mantissa exponent).toList
  | .nan => ['N', 'a', 'N']
  | .infinity negative =>
    (if negative then ['-'] else []) ++ ['I', 'n', 'f', 'i', 'n', 'i', 't', 'y']
  | .str value => quoted value
  | .arr items => '[' :: (separators.item.intercalate (renderItems items) ++ [']'])
  | .obj members => '{' :: (separators.item.intercalate (renderMembers members) ++ ['}'])

def renderItems : List Json → List (List Char)
  | [] => []
  | item :: rest => render item :: renderItems rest

def renderMembers : Members → List (List Char)
  | [] => []
  | (key, value) :: rest =>
    (quoted key ++ separators.key ++ render value) :: renderMembers rest
end

/-- `json.dumps(value, sort_keys=True)`. -/
def dumpsSorted (value : Json) : String :=
  String.ofList (render defaultSeparators float value.sortKeys)

example : dumpsSorted (fun _ _ => "") (.obj [("b", .int (-1)), ("a", .arr [.null, .str "é"])]) =
    "\x7b\"a\": [null, \"\\u00e9\"], \"b\": -1\x7d" := by decide +kernel

theorem dumpsSorted_obj (members : Members) :
    ∃ inner, (dumpsSorted float (.obj members)).toList = '{' :: (inner ++ ['}']) := by
  have opened : (dumpsSorted float (.obj members)).toList = render defaultSeparators float
        (.obj (Ranked.sortOn Prod.fst (sortMembers members))) := by
    rw [dumpsSorted, String.toList_ofList, sortKeys]
  rw [opened, render]
  exact ⟨defaultSeparators.item.intercalate _, rfl⟩

/-! ## Strings -/

section Escapes

theorem escapeChar_cases (char : Char) :
    (escapeChar char = [char] ∧ char ≠ '"' ∧ char ≠ '\\' ∧ ¬ char.toNat < 32) ∨
      (∃ mark, escapeChar char = ['\\', mark] ∧ escapes mark = some char) ∨
      (escapeChar char = unicodeEscape char.toNat ∧ char.toNat < 65536) ∨
      (escapeChar char = unicodeEscape (0xD800 + (char.toNat - 65536) / 1024) ++
          unicodeEscape (0xDC00 + (char.toNat - 65536) % 1024) ∧ 65536 ≤ char.toNat) := by
  have ofNat : ∀ {value : Nat}, char.toNat = value → some (Char.ofNat value) = some char := by
    rintro value rfl
    rw [Char.ofNat_toNat]
  generalize written : escapeChar char = text
  unfold escapeChar at written
  split_ifs at written with quote slash line carriage tab feed back printable small <;>
    subst written
  · exact .inr (.inl ⟨'"', rfl, by rw [quote]; decide⟩)
  · exact .inr (.inl ⟨'\\', rfl, by rw [slash]; decide⟩)
  · exact .inr (.inl ⟨'n', rfl, by rw [line]; decide⟩)
  · exact .inr (.inl ⟨'r', rfl, by rw [carriage]; decide⟩)
  · exact .inr (.inl ⟨'t', rfl, by rw [tab]; decide⟩)
  · exact .inr (.inl ⟨'f', rfl, (by decide : escapes 'f' = some (Char.ofNat 12)).trans
      (ofNat feed)⟩)
  · exact .inr (.inl ⟨'b', rfl, (by decide : escapes 'b' = some (Char.ofNat 8)).trans (ofNat back)⟩)
  · exact .inl ⟨rfl, quote, slash, by omega⟩
  · exact .inr (.inr (.inl ⟨rfl, small⟩))
  · exact .inr (.inr (.inr ⟨rfl, by omega⟩))

theorem escapes_ne_u {mark char : Char} (short : escapes mark = some char) : mark ≠ 'u' := by
  rintro rfl
  have unknown : escapes 'u' = none := by decide
  cases short

theorem toNat_scalar (char : Char) :
    (char.toNat < 0xD800 ∨ 0xDFFF < char.toNat) ∧ char.toNat < 0x110000 := by
  have valid : char.toNat.isValidChar := char.valid
  omega

theorem lex_cons (state : Lexing) (char : Char) (rest : List Char) :
    lex state (char :: rest) = (lexStep state char).1 ++
      match (lexStep state char).2 with
      | none => [.bad]
      | some next => lex next rest := by
  rw [lex]
  · rcases lexStep state char with ⟨emitted, next⟩
    cases next <;> rfl

theorem lex_silent (state next : Lexing) (char : Char) (rest : List Char)
    (stepped : lexStep state char = ([], some next)) :
    lex state (char :: rest) = lex next rest := by
  rw [lex_cons, stepped]
  rfl

theorem lex_token (token : Token) (char : Char) (rest : List Char)
    (started : start char = ([token], some .idle)) :
    lex .idle (char :: rest) = token :: lex .idle rest := by
  rw [lex_cons, lexStep, started]
  rfl

theorem hexValue_hexDigit (nibble : Nat) (small : nibble < 16) :
    hexValue (hexDigit nibble) = some nibble := by
  have every : ∀ digit < 16, hexValue (hexDigit digit) = some digit := by decide
  exact every nibble small

variable (read rest : List Char)

theorem lexStep_hex {char : Char} {nibble : Nat} (hex : hexValue char = some nibble)
    (high : Option Nat) (owed value : Nat) :
    lexStep (.unicode read high owed value) char =
      if owed = 1 then ([], closeUnicode read high (value * 16 + nibble))
      else ([], some (.unicode read high (owed - 1) (value * 16 + nibble))) := by
  unfold lexStep
  simp only [hex]

theorem lex_unicodeDigits (high : Option Nat) (unit : Nat) (small : unit < 0x10000)
    (next : Lexing) (closed : closeUnicode read high unit = some next) :
    lex (.unicode read high 4 0) (hexDigit (unit / 4096 % 16) :: hexDigit (unit / 256 % 16) ::
      hexDigit (unit / 16 % 16) :: hexDigit (unit % 16) :: rest) = lex next rest := by
  have digit : ∀ value, hexValue (hexDigit (value % 16)) = some (value % 16) := fun value =>
    hexValue_hexDigit _ (Nat.mod_lt value (by decide))
  have value : (((0 * 16 + unit / 4096 % 16) * 16 + unit / 256 % 16) * 16 +
      unit / 16 % 16) * 16 + unit % 16 = unit := by omega
  refine (lex_silent _ _ _ _ (lexStep_hex read (digit _) high 4 _)).trans ?_
  refine (lex_silent _ _ _ _ (lexStep_hex read (digit _) high 3 _)).trans ?_
  refine (lex_silent _ _ _ _ (lexStep_hex read (digit _) high 2 _)).trans ?_
  refine lex_silent _ _ _ _ ((lexStep_hex read (digit unit) high 1 _).trans ?_)
  rw [if_pos rfl, value, closed]

theorem lex_unicodeEscape (char : Char) (small : char.toNat < 0x10000) :
    lex (.inString read) (unicodeEscape char.toNat ++ rest) =
      lex (.inString (char :: read)) rest := by
  have scalar := toNat_scalar char
  have high : isHighSurrogate char.toNat = false := by simp [isHighSurrogate]; omega
  have low : isLowSurrogate char.toNat = false := by simp [isLowSurrogate]; omega
  have closed : closeUnicode read none char.toNat = some (.inString (char :: read)) := by
    simp [closeUnicode, high, low]
  simp only [unicodeEscape, cons_append, nil_append]
  rw [lex_silent _ (.escape read) _ _ rfl, lex_silent _ (.unicode read none 4 0) _ _ rfl,
    lex_unicodeDigits read rest none char.toNat small _ closed]

theorem lex_surrogatePair (char : Char) (large : 0x10000 ≤ char.toNat) :
    lex (.inString read) (unicodeEscape (0xD800 + (char.toNat - 0x10000) / 0x400) ++
        unicodeEscape (0xDC00 + (char.toNat - 0x10000) % 0x400) ++ rest) =
      lex (.inString (char :: read)) rest := by
  have scalar := toNat_scalar char
  generalize highEq : 0xD800 + (char.toNat - 0x10000) / 0x400 = high
  generalize lowEq : 0xDC00 + (char.toNat - 0x10000) % 0x400 = low
  have highRange : 0xD800 ≤ high ∧ high < 0xDC00 := by omega
  have lowRange : 0xDC00 ≤ low ∧ low < 0xE000 := by omega
  have joined : joinSurrogates high low = char.toNat := by
    unfold joinSurrogates
    omega
  have opened : closeUnicode read none high = some (.lowSlash read high) := by
    simp [closeUnicode, isHighSurrogate, highRange.1, highRange.2]
  have closed : closeUnicode read (some high) low = some (.inString (char :: read)) := by
    simp [closeUnicode, isLowSurrogate, lowRange.1, lowRange.2, joined]
  simp only [unicodeEscape, cons_append, nil_append]
  rw [lex_silent _ (.escape read) _ _ rfl, lex_silent _ (.unicode read none 4 0) _ _ rfl,
    lex_unicodeDigits read _ none high (by omega) _ opened,
    lex_silent _ (.lowMark read high) _ _ rfl,
    lex_silent _ (.unicode read (some high) 4 0) _ _ rfl,
    lex_unicodeDigits read rest (some high) low (by omega) _ closed]

theorem lex_escapeChar (char : Char) :
    lex (.inString read) (escapeChar char ++ rest) = lex (.inString (char :: read)) rest := by
  rcases escapeChar_cases char with ⟨text, quote, slash, shown⟩ | ⟨mark, text, meant⟩ |
    ⟨text, small⟩ | ⟨text, large⟩ <;> rw [text]
  · refine lex_silent _ _ _ _ ?_
    exact (if_neg quote).trans ((if_neg slash).trans (if_neg shown))
  · refine (lex_silent _ (.escape read) _ _ rfl).trans (lex_silent _ _ _ _ ?_)
    exact (if_neg (escapes_ne_u meant)).trans (by rw [meant]; rfl)
  · exact lex_unicodeEscape read rest char small
  · exact lex_surrogatePair read rest char large

theorem lex_escaped (chars : List Char) :
    lex (.inString read) (chars.flatMap escapeChar ++ '"' :: rest) =
      .text (String.ofList (read.reverse ++ chars)) :: lex .idle rest := by
  induction chars generalizing read with
  | nil =>
    rw [flatMap_nil, nil_append, append_nil, lex_cons]
    rfl
  | cons char more ih =>
    rw [flatMap_cons, append_assoc, lex_escapeChar, ih, reverse_cons,
      append_assoc]
    rfl

theorem lex_quoted (text : String) :
    lex .idle (quoted text ++ rest) = .text text :: lex .idle rest := by
  rw [quoted, cons_append, append_assoc, lex_silent _ (.inString []) _ _ rfl]
  refine (lex_escaped [] rest text.toList).trans ?_
  rw [reverse_nil, nil_append, String.ofList_toList]

theorem quoted_append {left right : String} {after other : List Char}
    (same : quoted left ++ after = quoted right ++ other) : left = right ∧ after = other := by
  have tokens := congrArg (lex .idle) same
  rw [lex_quoted, lex_quoted] at tokens
  obtain rfl : left = right := Token.text.inj (List.cons.inj tokens).1
  exact ⟨rfl, append_cancel_left same⟩

end Escapes

/-! ## Values with one text -/

/-- What `float.__repr__` writes, or `json.dumps` for a number out of range. -/
def IsFloatText (text : String) : Prop :=
  text = "Infinity" ∨ text = "-Infinity" ∨ (∀ char ∈ text.toList, char ∈ "0123456789+-.e".toList) ∧
      ∃ char ∈ text.toList, char = '.' ∨ char = 'e'

/-- The text of a number that is no integer. -/
def floatText : Json → Option (List Char)
  | .decimal mantissa exponent => some (float mantissa exponent).toList
  | .nan => some ['N', 'a', 'N']
  | .infinity negative =>
    some ((if negative then ['-'] else []) ++ ['I', 'n', 'f', 'i', 'n', 'i', 't', 'y'])
  | _ => none

/-- Equal up to the digits that a double is written with: two decimals that are one double
have one text. -/
inductive Alike : Json → Json → Prop
  | same (value : Json) : Alike value value
  | float {left right : Json} {text : List Char} (leftText : floatText float left = some text)
      (rightText : floatText float right = some text) : Alike left right
  | arr {left right : List Json} (items : List.Forall₂ Alike left right) :
      Alike (.arr left) (.arr right)
  | obj {left right : Members} (keys : left.map Prod.fst = right.map Prod.fst)
      (values : List.Forall₂ Alike (left.map Prod.snd) (right.map Prod.snd)) :
      Alike (.obj left) (.obj right)

/-- Equal for Python: the order of the keys of an object does not count. -/
def Equal (left right : Json) : Prop := Alike float left.sortKeys right.sortKeys

/-- No string, no array and no object. -/
def plain : Json → Bool
  | .str _ => false
  | .arr _ => false
  | .obj _ => false
  | _ => true

/-- Characters that no plain text has; a value is followed by one of the first three. -/
def delimiters : List Char := [',', ']', '}', '"', '[', '{']

def Delimited (after : List Char) : Prop := ∀ char ∈ after.head?, char ∈ delimiters

section Texts

variable {separators : Separators} {float : Int → Int → String}

theorem delimited_cons {char : Char} (known : char ∈ delimiters) (rest : List Char) :
    Delimited (char :: rest) := by
  intro head found
  rw [List.head?_cons, Option.mem_some_iff] at found
  exact found ▸ known

theorem takeWhile_undelimited {text after : List Char} (free : ∀ char ∈ text, char ∉ delimiters)
    (closed : Delimited after) : (text ++ after).takeWhile (· ∉ delimiters) = text := by
  rw [takeWhile_append_of_pos fun char inside => decide_eq_true (free char inside)]
  cases after with
  | nil => exact append_nil text
  | cons mark rest =>
    rw [takeWhile_cons_of_neg (by simpa using closed mark rfl), append_nil]

/-! ### Plain values -/

def integerChars : List Char := "-0123456789".toList

theorem mem_integerChars_of_isDigit {char : Char} (digit : char.isDigit = true) :
    char ∈ integerChars := by
  have named : ∀ value < 58, 48 ≤ value → Char.ofNat value ∈ integerChars := by decide
  rw [Char.isDigit, Bool.and_eq_true, decide_eq_true_eq, decide_eq_true_eq] at digit
  have least : 48 ≤ char.toNat := digit.1
  have most : char.toNat ≤ 57 := digit.2
  rw [← Char.ofNat_toNat char]
  exact named char.toNat (by omega) least

theorem integer_chars (value : Int) {char : Char} (mem : char ∈ (toString value).toList) :
    char ∈ integerChars := by
  have digits : ∀ number : Nat, char ∈ number.repr.toList → char ∈ integerChars := by
    intro number inside
    rw [Nat.repr_eq_ofList_toDigits, String.toList_ofList] at inside
    exact mem_integerChars_of_isDigit (Nat.isDigit_of_mem_toDigits (by decide) (by decide) inside)
  rw [Int.toString_eq_repr, Int.repr_eq_if] at mem
  split at mem
  · exact digits _ mem
  rw [String.toList_append, mem_append] at mem
  rcases mem with sign | number
  · rw [mem_singleton.mp sign]
    decide
  · exact digits _ number

theorem lexStep_delimiter {char : Char} (stop : char ∈ delimiters) {state : Lexing}
    {token : Token} (number : state.number = some token) :
    lexStep state char = (token :: (start char).1, (start char).2) := by
  simp only [delimiters, mem_cons, not_mem_nil, or_false] at stop
  cases state with
  | zero | digits | fraction | power =>
    cases number
    rcases stop with rfl | rfl | rfl | rfl | rfl | rfl <;> rfl
  | _ => cases number

theorem lex_append {after : List Char} (closed : Delimited after) (text : List Char) :
    ∀ state : Lexing, Token.bad ∉ lex state text →
      lex state (text ++ after) = lex state text ++ lex .idle after := by
  induction text with
  | nil =>
    intro state sound
    by_cases idle : state = .idle
    · rw [idle, lex]
      rfl
    have pending : lex state [] = [state.number.getD .bad] := by rw [lex]; exact idle
    rw [pending] at sound ⊢
    cases number : state.number with
    | none =>
      rw [number] at sound
      exact absurd mem_cons_self sound
    | some token =>
      cases after with
      | nil => rw [nil_append, pending, number, lex]; rfl
      | cons char rest =>
        rw [nil_append, lex_cons, lexStep_delimiter (closed char rfl) number,
          lex_cons .idle, lexStep]
        rfl
  | cons char rest ih =>
    intro state sound
    rw [lex_cons] at sound
    rw [cons_append, lex_cons, lex_cons, append_assoc]
    cases stepped : (lexStep state char).2 with
    | none => simp [stepped] at sound
    | some next =>
      simp only [stepped, mem_append, not_or] at sound
      simp only [ih next sound.2]

theorem digitChar_spec (digit : Nat) (small : digit < 10) :
    (Nat.digitChar digit).isDigit = true ∧ digitValue (Nat.digitChar digit) = digit ∧
      (digit ≠ 0 → Nat.digitChar digit ≠ '0') := by
  have every : ∀ digit < 10, (Nat.digitChar digit).isDigit = true ∧
      digitValue (Nat.digitChar digit) = digit ∧ (digit ≠ 0 → Nat.digitChar digit ≠ '0') := by
    decide
  exact every digit small

theorem lex_toDigits {state : Lexing} {negative : Bool} (number : Nat) (pos : 0 < number)
    (begins : ∀ char : Char, char.isDigit = true → char ≠ '0' →
      lexStep state char = ([], some (.digits negative (digitValue char) 1)))
    (rest : List Char) :
    lex state (Nat.toDigits 10 number ++ rest) =
      lex (.digits negative number (Nat.toDigits 10 number).length) rest := by
  induction number using Nat.strong_induction_on generalizing rest with
  | _ number ih =>
    have digit := digitChar_spec (number % 10) (Nat.mod_lt _ (by decide))
    by_cases small : number < 10
    · rw [Nat.mod_eq_of_lt small] at digit
      rw [Nat.toDigits_of_lt_base small]
      refine (lex_silent _ _ _ _ (begins _ digit.1 (digit.2.2 (by omega)))).trans ?_
      rw [digit.2.1]
      rfl
    · rw [Nat.toDigits_of_base_le (by decide) (not_lt.mp small), append_assoc,
        ih (number / 10) (by omega) (by omega)]
      refine (lex_silent _ (.digits negative (number / 10 * 10 + number % 10)
        ((Nat.toDigits 10 (number / 10)).length + 1)) _ _ ?_).trans ?_
      · unfold lexStep
        simp [Lexing.extend, digit.1, digit.2.1]
      · rw [Nat.div_add_mod' number 10, length_append]
        rfl

theorem lexStep_first {char : Char} (digit : char.isDigit = true) (nonzero : char ≠ '0') :
    lexStep .idle char = ([], some (.digits false (digitValue char) 1)) ∧
      lexStep .minus char = ([], some (.digits true (digitValue char) 1)) := by
  have mem := mem_integerChars_of_isDigit digit
  rw [show integerChars = ['-', '0', '1', '2', '3', '4', '5', '6', '7', '8', '9'] from by decide]
    at mem
  simp only [mem_cons, not_mem_nil, or_false] at mem
  rcases mem with rfl | rfl | rfl | rfl | rfl | rfl | rfl | rfl | rfl | rfl | rfl
  · exact absurd digit (by decide)
  · exact absurd rfl nonzero
  all_goals exact ⟨rfl, rfl⟩

theorem lex_integer (value : Int) : lex .idle (toString value).toList =
      [.integer value (Nat.toDigits 10 value.natAbs).length] := by
  have written : ∀ {state : Lexing} {negative : Bool} (number : Nat), 0 < number →
      (∀ char : Char, char.isDigit = true → char ≠ '0' →
        lexStep state char = ([], some (.digits negative (digitValue char) 1))) →
      lex state number.repr.toList =
        [.integer (signed negative number) (Nat.toDigits 10 number).length] := by
    intro state negative number pos begins
    rw [Nat.repr_eq_ofList_toDigits, String.toList_ofList]
    have := lex_toDigits number pos begins []
    rw [append_nil] at this
    rw [this, lex]
    · rfl
    · exact Lexing.noConfusion
  rw [Int.toString_eq_repr, Int.repr_eq_if]
  rcases lt_trichotomy value 0 with below | rfl | above
  · rw [if_neg (by omega), String.toList_append]
    refine (written (-value).toNat (by omega)
      (fun _ digit other => (lexStep_first digit other).2)).trans ?_
    rw [show (-value).toNat = value.natAbs by omega,
      show signed true value.natAbs = value by rw [signed, if_pos rfl]; omega]
  · rfl
  · rw [if_pos above.le, written value.toNat (by omega)
      (fun _ digit other => (lexStep_first digit other).1),
      show value.toNat = value.natAbs by omega,
      show signed false value.natAbs = value by rw [signed, if_neg nofun]; omega]

def words : List (List Char) := [['n', 'u', 'l', 'l'], ['t', 'r', 'u', 'e'],
  ['f', 'a', 'l', 's', 'e']]

local instance (priority := 2000) (p : Char → Prop) [DecidablePred p] (text : List Char) :
    Decidable (∀ char ∈ text, p char) := List.decidableBAll p text

/-- The plain value that has the text, unless it is a text of a float. -/
def readPlain (text : List Char) : Option Json :=
  if text ∈ words ∨ ∀ char ∈ text, char ∈ integerChars then
    match lex .idle text with
    | [.scalar value] => some value
    | [.integer value _] => some (.int value)
    | _ => none
  else none

section Floats

variable (separators) (floats : ∀ mantissa exponent, IsFloatText (float mantissa exponent))
include floats

theorem plain_spec {value : Json} (isPlain : plain value = true) :
    (render separators float value ≠ [] ∧
        ∀ char ∈ render separators float value, char ∉ delimiters) ∧
      (readPlain (render separators float value) = some value ∨
        readPlain (render separators float value) = none ∧
          floatText float value = some (render separators float value)) := by
  have fixed : ∀ text ∈ [['N', 'a', 'N'], "Infinity".toList, "-Infinity".toList],
      (text ≠ [] ∧ ∀ char ∈ text, char ∉ delimiters) ∧ readPlain text = none := by decide
  cases value with
  | null =>
    rw [render]
    exact ⟨by decide, .inl rfl⟩
  | bool value =>
    cases value <;> rw [render] <;> exact ⟨by decide, .inl rfl⟩
  | int value =>
    have digits : ∀ char ∈ (toString value).toList, char ∈ integerChars :=
      fun _ inside => integer_chars value inside
    have apart : ∀ char ∈ integerChars, char ∉ delimiters := by decide
    have read := lex_integer value
    rw [render]
    refine ⟨⟨fun empty => ?_, fun char inside => apart char (digits char inside)⟩, .inl ?_⟩
    · rw [empty] at read
      cases read
    · rw [readPlain, if_pos (.inr digits), read]
  | decimal mantissa exponent =>
    rcases floats mantissa exponent with same | same | ⟨chars, mark, inside, point⟩
    · have spec := fixed (float mantissa exponent).toList (by rw [same]; decide)
      exact ⟨spec.1, .inr ⟨spec.2, rfl⟩⟩
    · have spec := fixed (float mantissa exponent).toList (by rw [same]; decide)
      exact ⟨spec.1, .inr ⟨spec.2, rfl⟩⟩
    · have apart : ∀ char ∈ "0123456789+-.e".toList, char ∉ delimiters := by decide
      have foreign : ∀ word ∈ words, ¬ ∀ char ∈ word, char ∈ "0123456789+-.e".toList := by decide
      refine ⟨⟨ne_nil_of_mem inside, fun char mem => apart char (chars char mem)⟩,
        .inr ⟨if_neg ?_, rfl⟩⟩
      rintro (word | integer)
      · exact foreign _ word chars
      · have digit := integer mark inside
        rcases point with rfl | rfl <;> revert digit <;> decide
  | nan =>
    rw [render]
    exact ⟨(fixed _ (by decide)).1, .inr ⟨(fixed _ (by decide)).2, rfl⟩⟩
  | infinity negative =>
    rw [render]
    cases negative <;> exact ⟨(fixed _ (by decide)).1, .inr ⟨(fixed _ (by decide)).2, rfl⟩⟩
  | str value => cases isPlain
  | arr items => cases isPlain
  | obj members => cases isPlain

theorem plain_alike {left right : Json} (leftPlain : plain left = true)
    (rightPlain : plain right = true)
    (same : render separators float left = render separators float right) :
    Alike float left right := by
  have leftSpec := (plain_spec separators floats leftPlain).2
  have rightSpec := (plain_spec separators floats rightPlain).2
  rw [same] at leftSpec
  rcases leftSpec with leftRead | ⟨leftRead, leftText⟩ <;>
    rcases rightSpec with rightRead | ⟨rightRead, rightText⟩ <;>
    rw [leftRead] at rightRead
  · rw [Option.some.inj rightRead]
    exact .same right
  · cases rightRead
  · cases rightRead
  · exact .float leftText rightText

/-! ### All values -/

theorem takeWhile_render (value : Json) {after : List Char} (closed : Delimited after) :
    (render separators float value ++ after).takeWhile (· ∉ delimiters) =
      if plain value then render separators float value else [] := by
  by_cases isPlain : plain value = true
  · rw [if_pos isPlain]
    exact takeWhile_undelimited (plain_spec separators floats isPlain).1.2 closed
  cases value with
  | str value => rfl
  | arr items => rfl
  | obj members => rfl
  | _ => exact absurd rfl isPlain

theorem plain_eq {left right : Json} {after other : List Char} (closed : Delimited after)
    (otherClosed : Delimited other)
    (same : render separators float left ++ after = render separators float right ++ other) :
    plain left = plain right := by
  have stems := takeWhile_render separators floats left closed
  rw [same, takeWhile_render separators floats right otherClosed] at stems
  cases leftPlain : plain left <;> cases rightPlain : plain right
  · rfl
  · rw [if_pos rightPlain, if_neg (by simp [leftPlain])] at stems
    exact absurd stems (plain_spec separators floats rightPlain).1.1
  · rw [if_pos leftPlain, if_neg (by simp [rightPlain])] at stems
    exact absurd stems.symm (plain_spec separators floats leftPlain).1.1
  · rfl

theorem plain_append {left right : Json} {after other : List Char} (leftPlain : plain left = true)
    (closed : Delimited after) (otherClosed : Delimited other)
    (same : render separators float left ++ after = render separators float right ++ other) :
    Alike float left right ∧ after = other := by
  have rightPlain := (plain_eq separators floats closed otherClosed same).symm.trans leftPlain
  have stems := takeWhile_render separators floats left closed
  rw [same, takeWhile_render separators floats right otherClosed, if_pos rightPlain,
    if_pos leftPlain] at stems
  rw [stems] at same
  exact ⟨plain_alike separators floats leftPlain rightPlain stems.symm,
    append_cancel_left same⟩

theorem render_ne_closed (value : Json) (after rest : List Char) :
    render separators float value ++ after ≠ ']' :: rest := by
  intro same
  by_cases isPlain : plain value = true
  · obtain ⟨⟨ne, free⟩, -⟩ := plain_spec separators floats isPlain
    obtain ⟨char, text, rendered⟩ := exists_cons_of_ne_nil ne
    rw [rendered] at same free
    obtain ⟨rfl, -⟩ := List.cons.inj same
    exact free ']' mem_cons_self (by decide)
  · cases value with
    | str value => cases same
    | arr items => cases same
    | obj members => cases same
    | _ => exact isPlain rfl

end Floats

def following (separator : List Char) (texts : List (List Char)) (close : List Char) :
    List Char :=
  match texts with
  | [] => close
  | text :: rest => separator ++ (separator.intercalate (text :: rest) ++ close)

theorem intercalate_append (separator text : List Char) (texts : List (List Char))
    (close : List Char) :
    separator.intercalate (text :: texts) ++ close = text ++ following separator texts close := by
  cases texts with
  | nil => simp [following]
  | cons next rest =>
    rw [intercalate_cons_cons, following, append_assoc, append_assoc]

section Sequences

variable {separator : List Char} (separated : separator.head? = some ',')
include separated

theorem following_delimited (texts : List (List Char)) {close : List Char}
    (closed : Delimited close) : Delimited (following separator texts close) := by
  cases texts with
  | nil => exact closed
  | cons text rest =>
    obtain ⟨tail, rfl⟩ : ∃ tail, separator = ',' :: tail := List.head?_eq_some_iff.mp separated
    exact delimited_cons (by decide) _

theorem following_cases {texts others : List (List Char)} {mark : Char} (closing : mark ≠ ',')
    {after other : List Char}
    (same : following separator texts (mark :: after) =
      following separator others (mark :: other)) :
    (texts = [] ∧ others = [] ∧ after = other) ∨ separator.intercalate texts ++ mark :: after =
        separator.intercalate others ++ mark :: other := by
  obtain ⟨tail, rfl⟩ : ∃ tail, separator = ',' :: tail := List.head?_eq_some_iff.mp separated
  cases texts with
  | nil =>
    cases others with
    | nil => exact .inl ⟨rfl, rfl, (List.cons.inj same).2⟩
    | cons text rest => exact absurd (List.cons.inj same).1 closing
  | cons text rest =>
    cases others with
    | nil => exact absurd (List.cons.inj same).1.symm closing
    | cons otherText otherRest => exact .inr (append_cancel_left same)

/-- Where each element ends is seen from its text and the delimiter after it, and so is where the
sequence ends. -/
theorem sequence_append {Value : Type} {text : Value → List Char} {Same : Value → Value → Prop}
    {mark : Char} (closing : mark ≠ ',') (known : mark ∈ delimiters)
    (unclosed : ∀ value after rest, text value ++ after ≠ mark :: rest) (left : List Value) :
    ∀ (right : List Value) (after other : List Char),
      (∀ value ∈ left, ∀ second after other, Delimited after → Delimited other →
        text value ++ after = text second ++ other → Same value second ∧ after = other) →
      separator.intercalate (left.map text) ++ mark :: after =
          separator.intercalate (right.map text) ++ mark :: other →
        List.Forall₂ Same left right ∧ after = other := by
  induction left with
  | nil =>
    intro right after other _ same
    cases right with
    | nil => exact ⟨.nil, (List.cons.inj same).2⟩
    | cons second others =>
      rw [map_cons, intercalate_append] at same
      exact absurd same.symm (unclosed second _ _)
  | cons value rest ih =>
    intro right after other cancels same
    cases right with
    | nil =>
      rw [map_cons, intercalate_append] at same
      exact absurd same (unclosed value _ _)
    | cons second others =>
      obtain ⟨cancel, later⟩ := forall_mem_cons.mp cancels
      rw [map_cons, map_cons, intercalate_append, intercalate_append] at same
      obtain ⟨alike, onward⟩ := cancel second _ _
        (following_delimited separated _ (delimited_cons known after))
        (following_delimited separated _ (delimited_cons known other)) same
      rcases following_cases separated closing onward with ⟨ends, otherEnds, tail⟩ | more
      · rw [map_eq_nil_iff.mp ends, map_eq_nil_iff.mp otherEnds]
        exact ⟨.cons alike .nil, tail⟩
      · obtain ⟨items, tail⟩ := ih others after other later more
        exact ⟨.cons alike items, tail⟩

end Sequences

theorem renderItems_eq (items : List Json) :
    renderItems separators float items = items.map (render separators float) := by
  induction items with
  | nil => rfl
  | cons item rest ih => rw [renderItems, ih, map_cons]

def memberText (separators : Separators) (float : Int → Int → String) (member : String × Json) :
    List Char :=
  quoted member.1 ++ separators.key ++ render separators float member.2

theorem renderMembers_eq (members : Members) :
    renderMembers separators float members = members.map (memberText separators float) := by
  induction members with
  | nil => rfl
  | cons mem rest ih => rw [renderMembers, ih, map_cons, memberText]

theorem alike_obj {left right : Members}
    (members : List.Forall₂ (fun one two => one.1 = two.1 ∧ Alike float one.2 two.2) left right) :
    Alike float (.obj left) (.obj right) := by
  refine .obj ?_ ?_
  · rw [← List.forall₂_eq_eq_eq, List.forall₂_map_left_iff, List.forall₂_map_right_iff]
    exact members.imp fun _ _ => And.left
  · rw [List.forall₂_map_left_iff, List.forall₂_map_right_iff]
    exact members.imp fun _ _ => And.right

theorem render_append (separated : separators.item.head? = some ',')
    (floats : ∀ mantissa exponent, IsFloatText (float mantissa exponent)) (left : Json) :
    ∀ (right : Json) (after other : List Char), Delimited after → Delimited other →
      render separators float left ++ after = render separators float right ++ other →
        Alike float left right ∧ after = other := by
  intro right after other closed otherClosed same
  have kind := plain_eq separators floats closed otherClosed same
  cases left with
  | str left =>
    cases right <;> cases kind
    · obtain ⟨rfl, rest⟩ := quoted_append same
      exact ⟨.same _, rest⟩
    · cases same
    · cases same
  | arr left =>
    cases right <;> cases kind
    all_goals rw [render, render] at same
    · cases same
    · rename_i right
      rw [renderItems_eq, renderItems_eq] at same
      simp only [cons_append, append_assoc, List.cons.injEq,
        true_and] at same
      obtain ⟨items, rest⟩ := sequence_append separated (by decide) (by decide)
        (render_ne_closed separators floats) left right after other
        (fun value _ => render_append separated floats value) same
      exact ⟨.arr items, rest⟩
    · cases same
  | obj left =>
    cases right <;> cases kind
    all_goals rw [render, render] at same
    · cases same
    · cases same
    · rename_i right
      rw [renderMembers_eq, renderMembers_eq] at same
      simp only [cons_append, append_assoc, List.cons.injEq,
        true_and] at same
      have cancels : ∀ member ∈ left, ∀ second after other, Delimited after → Delimited other →
          memberText separators float member ++ after =
              memberText separators float second ++ other →
            (member.1 = second.1 ∧ Alike float member.2 second.2) ∧ after = other := by
        intro member inside second after other closed otherClosed same
        have smaller : sizeOf member.2 < sizeOf (Json.obj left) := by
          have := sizeOf_lt_of_mem inside
          obtain ⟨key, value⟩ := member
          simp at this ⊢
          omega
        simp only [memberText, append_assoc] at same
        obtain ⟨key, keyed⟩ := quoted_append same
        obtain ⟨alike, rest⟩ := render_append separated floats member.2 second.2 after other
          closed otherClosed (append_cancel_left keyed)
        exact ⟨⟨key, alike⟩, rest⟩
      obtain ⟨members, rest⟩ := sequence_append separated (by decide) (by decide)
        (fun _ _ _ closes => by cases closes) left right after other cancels same
      exact ⟨alike_obj members, rest⟩
  | _ => exact plain_append separators floats rfl closed otherClosed same
termination_by sizeOf left

theorem equal_of_dumpsSorted (floats : ∀ mantissa exponent, IsFloatText (float mantissa exponent))
    {left right : Json} (same : dumpsSorted float left = dumpsSorted float right) :
    Equal float left right := by
  have texts : render defaultSeparators float left.sortKeys ++ [] =
      render defaultSeparators float right.sortKeys ++ [] := by
    rw [append_nil, append_nil]
    exact String.ofList_inj.mp same
  exact (render_append rfl floats _ _ [] [] nofun nofun texts).1

end Texts

end Portcullis.Lib.Json
