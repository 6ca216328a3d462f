import Mathlib.Data.String.Basic
import Portcullis.Lib.Encoding
import Portcullis.Lib.Ranked

/-!
# JSON documents

The grammar `json.loads` accepts, read in two passes without backtracking: a lexer
that consumes one character at a time and a parser that keeps the open containers
on a stack.  A tree keeps every member of an object in textual order, so readers
that resolve repeated members differently can be compared on it.
-/

namespace Portcullis.Lib

open Lib.Encoding List

/-- A JSON tree.  A number with a fraction or an exponent is `mantissa * 10 ^ exponent`. -/
inductive Json where
  | null
  | bool (value : Bool)
  | int (value : Int)
  | decimal (mantissa exponent : Int)
  | nan
  | infinity (negative : Bool)
  | str (value : String)
  | arr (items : List Json)
  | obj (members : List (String × Json))

namespace Json

abbrev Members := List (String × Json)

mutual
def same : Json → Json → Bool
  | .null, .null => true
  | .bool left, .bool right => left == right
  | .int left, .int right => left == right
  | .decimal leftMantissa leftExponent, .decimal rightMantissa rightExponent =>
    leftMantissa == rightMantissa && leftExponent == rightExponent
  | .nan, .nan => true
  | .infinity left, .infinity right => left == right
  | .str left, .str right => left == right
  | .arr left, .arr right => sameItems left right
  | .obj left, .obj right => sameMembers left right
  | _, _ => false

def sameItems : List Json → List Json → Bool
  | [], [] => true
  | left :: leftRest, right :: rightRest => same left right && sameItems leftRest rightRest
  | _, _ => false

def sameMembers : Members → Members → Bool
  | [], [] => true
  | (leftKey, left) :: leftRest, (rightKey, right) :: rightRest =>
    leftKey == rightKey && same left right && sameMembers leftRest rightRest
  | _, _ => false
end

mutual
theorem same_iff : ∀ left right : Json, same left right = true ↔ left = right
  | .arr left, right => by
    cases right <;> simp [same, sameItems_iff left]
  | .obj left, right => by
    cases right <;> simp [same, sameMembers_iff left]
  | .null, right => by cases right <;> simp [same]
  | .bool _, right => by cases right <;> simp [same]
  | .int _, right => by cases right <;> simp [same]
  | .decimal _ _, right => by cases right <;> simp [same]
  | .nan, right => by cases right <;> simp [same]
  | .infinity _, right => by cases right <;> simp [same]
  | .str _, right => by cases right <;> simp [same]

theorem sameItems_iff : ∀ left right : List Json, sameItems left right = true ↔ left = right
  | [], right => by cases right <;> simp [sameItems]
  | item :: rest, right => by
    cases right with
    | nil => simp [sameItems]
    | cons other others => simp [sameItems, same_iff item, sameItems_iff rest]

theorem sameMembers_iff : ∀ left right : Members, sameMembers left right = true ↔ left = right
  | [], right => by cases right <;> simp [sameMembers]
  | (key, value) :: rest, right => by
    cases right with
    | nil => simp [sameMembers]
    | cons other others =>
      obtain ⟨otherKey, otherValue⟩ := other
      simp [sameMembers, same_iff value, sameMembers_iff rest, and_assoc]
end

instance : DecidableEq Json := fun left right =>
  decidable_of_iff _ (same_iff left right)

/-! ## Lexer -/

inductive Token where
  | openBrace
  | closeBrace
  | openBracket
  | closeBracket
  | colon
  | comma
  | text (value : String)
  | integer (value : Int) (digits : Nat)
  | scalar (value : Json)
  | bad

inductive Lexing where
  | idle
  | inString (read : List Char)
  | escape (read : List Char)
  | unicode (read : List Char) (high : Option Nat) (owed value : Nat)
  | lowSlash (read : List Char) (high : Nat)
  | lowMark (read : List Char) (high : Nat)
  | word (rest : List Char) (meaning : Json)
  | minus
  | zero (negative : Bool)
  | digits (negative : Bool) (value count : Nat)
  | point (negative : Bool) (value : Nat)
  | fraction (negative : Bool) (value scale : Nat)
  | mark (negative : Bool) (value scale : Nat)
  | sign (negative : Bool) (value scale : Nat) (below : Bool)
  | power (negative : Bool) (value scale : Nat) (below : Bool) (exponent : Nat)

def digitValue (char : Char) : Nat := char.toNat - 48

def hexValue (char : Char) : Option Nat :=
  if char.isDigit then some (char.toNat - 48)
  else if 'a' ≤ char ∧ char ≤ 'f' then some (char.toNat - 87)
  else if 'A' ≤ char ∧ char ≤ 'F' then some (char.toNat - 55)
  else none

def signed (negative : Bool) (value : Nat) : Int := if negative then -value else value

/-- The number that ends where it is followed by another character. -/
def Lexing.number : Lexing → Option Token
  | .zero _ => some (.integer 0 1)
  | .digits negative value count => some (.integer (signed negative value) count)
  | .fraction negative value scale => some (.scalar (.decimal (signed negative value) (-scale)))
  | .power negative value scale below exponent =>
    some (.scalar (.decimal (signed negative value) (signed below exponent - scale)))
  | _ => none

/-- The number continued by a character. -/
def Lexing.extend (state : Lexing) (char : Char) : Option Lexing :=
  match state with
  | .minus =>
    if char = '0' then some (.zero true)
    else if char.isDigit then some (.digits true (digitValue char) 1)
    else if char = 'I' then some (.word "nfinity".toList (.infinity true))
    else none
  | .zero negative =>
    if char = '.' then some (.point negative 0)
    else if char = 'e' ∨ char = 'E' then some (.mark negative 0 0)
    else none
  | .digits negative value count =>
    if char.isDigit then some (.digits negative (value * 10 + digitValue char) (count + 1))
    else if char = '.' then some (.point negative value)
    else if char = 'e' ∨ char = 'E' then some (.mark negative value 0)
    else none
  | .point negative value =>
    if char.isDigit then some (.fraction negative (value * 10 + digitValue char) 1)
    else none
  | .fraction negative value scale =>
    if char.isDigit then
      some (.fraction negative (value * 10 + digitValue char) (scale + 1))
    else if char = 'e' ∨ char = 'E' then some (.mark negative value scale)
    else none
  | .mark negative value scale =>
    if char = '+' then some (.sign negative value scale false)
    else if char = '-' then some (.sign negative value scale true)
    else if char.isDigit then some (.power negative value scale false (digitValue char))
    else none
  | .sign negative value scale below =>
    if char.isDigit then some (.power negative value scale below (digitValue char))
    else none
  | .power negative value scale below exponent =>
    if char.isDigit then
      some (.power negative value scale below (exponent * 10 + digitValue char))
    else none
  | _ => none

/-- A character between tokens; `none` is a character no token starts with. -/
def start (char : Char) : List Token × Option Lexing :=
  if char = ' ' ∨ char = '\t' ∨ char = '\n' ∨ char = '\r' then ([], some .idle)
  else if char = '\x7b' then ([.openBrace], some .idle)
  else if char = '\x7d' then ([.closeBrace], some .idle)
  else if char = '[' then ([.openBracket], some .idle)
  else if char = ']' then ([.closeBracket], some .idle)
  else if char = ':' then ([.colon], some .idle)
  else if char = ',' then ([.comma], some .idle)
  else if char = '"' then ([], some (.inString []))
  else if char = '-' then ([], some .minus)
  else if char = '0' then ([], some (.zero false))
  else if char.isDigit then ([], some (.digits false (digitValue char) 1))
  else if char = 'n' then ([], some (.word "ull".toList .null))
  else if char = 't' then ([], some (.word "rue".toList (.bool true)))
  else if char = 'f' then ([], some (.word "alse".toList (.bool false)))
  else if char = 'N' then ([], some (.word "aN".toList .nan))
  else if char = 'I' then ([], some (.word "nfinity".toList (.infinity false)))
  else ([], none)

def escapes (char : Char) : Option Char :=
  if char = '"' ∨ char = '\\' ∨ char = '/' then some char
  else if char = 'b' then some (Char.ofNat 8)
  else if char = 'f' then some (Char.ofNat 12)
  else if char = 'n' then some '\n'
  else if char = 'r' then some '\r'
  else if char = 't' then some '\t'
  else none

/-- The end of a `\uXXXX` escape.  Two escapes that form a surrogate pair are one
character; a lone surrogate is no Unicode scalar value and is refused here. -/
def closeUnicode (read : List Char) (high : Option Nat) (value : Nat) : Option Lexing :=
  match high with
  | none =>
    if isHighSurrogate value then some (.lowSlash read value)
    else if isLowSurrogate value then none
    else some (.inString (Char.ofNat value :: read))
  | some unit =>
    if isLowSurrogate value then
      some (.inString (Char.ofNat (joinSurrogates unit value) :: read))
    else none

def lexStep (state : Lexing) (char : Char) : List Token × Option Lexing :=
  match state with
  | .idle => start char
  | .inString read =>
    if char = '"' then ([.text (String.ofList read.reverse)], some .idle)
    else if char = '\\' then ([], some (.escape read))
    else if char.toNat < 0x20 then ([], none)
    else ([], some (.inString (char :: read)))
  | .escape read =>
    if char = 'u' then ([], some (.unicode read none 4 0))
    else ([], (escapes char).map fun meant => .inString (meant :: read))
  | .unicode read high owed value =>
    match hexValue char with
    | none => ([], none)
    | some nibble =>
      if owed = 1 then ([], closeUnicode read high (value * 16 + nibble))
      else ([], some (.unicode read high (owed - 1) (value * 16 + nibble)))
  | .lowSlash read high => ([], if char = '\\' then some (.lowMark read high) else none)
  | .lowMark read high => ([], if char = 'u' then some (.unicode read (some high) 4 0) else none)
  | .word rest meaning =>
    match rest with
    | [] => ([], none)
    | [last] => if char = last then ([.scalar meaning], some .idle) else ([], none)
    | next :: more => ([], if char = next then some (.word more meaning) else none)
  | _ =>
    match state.extend char with
    | some extended => ([], some extended)
    | none =>
      match state.number with
      | none => ([], none)
      | some number => (number :: (start char).1, (start char).2)

def lex : Lexing → List Char → List Token
  | .idle, [] => []
  | state, [] => [state.number.getD .bad]
  | state, char :: rest =>
    match lexStep state char with
    | (emitted, none) => emitted ++ [.bad]
    | (emitted, some next) => emitted ++ lex next rest

/-! ## Parser -/

/-- `ValueError` subclasses for a malformed document or encoding, the plain
`ValueError` of an overlong integer, and the recursion limit. -/
inductive JsonError where
  | decodeError
  | tooManyDigits (digits : Nat)
  | recursionError
  deriving DecidableEq, Repr

/-- An open container with what it holds so far, latest first. -/
inductive Frame where
  | inArr (items : List Json)
  | inObj (members : Members) (key : String)

inductive Mode where
  | value
  | firstItem
  | firstKey
  | key
  | colon
  | afterValue
  | done (value : Json)

structure Limits where
  depth : Nat
  digits : Nat

def complete (value : Json) : List Frame → Mode × List Frame
  | [] => (.done value, [])
  | .inArr items :: outer => (.afterValue, .inArr (value :: items) :: outer)
  | .inObj members key :: outer => (.afterValue, .inObj ((key, value) :: members) key :: outer)

def beginValue (token : Token) (stack : List Frame) : Option (Mode × List Frame) :=
  match token with
  | .openBracket => some (.firstItem, .inArr [] :: stack)
  | .openBrace => some (.firstKey, .inObj [] "" :: stack)
  | .text value => some (complete (.str value) stack)
  | .integer value _ => some (complete (.int value) stack)
  | .scalar value => some (complete value stack)
  | _ => none

def advance : Mode → List Frame → Token → Option (Mode × List Frame)
  | .value, stack, token => beginValue token stack
  | .firstItem, .inArr items :: outer, .closeBracket =>
    some (complete (.arr items.reverse) outer)
  | .firstItem, stack, token => beginValue token stack
  | .firstKey, .inObj members _ :: outer, .closeBrace =>
    some (complete (.obj members.reverse) outer)
  | .firstKey, .inObj members _ :: outer, .text key =>
    some (.colon, .inObj members key :: outer)
  | .key, .inObj members _ :: outer, .text key =>
    some (.colon, .inObj members key :: outer)
  | .colon, stack, .colon => some (.value, stack)
  | .afterValue, .inArr items :: outer, .comma => some (.value, .inArr items :: outer)
  | .afterValue, .inObj members key :: outer, .comma =>
    some (.key, .inObj members key :: outer)
  | .afterValue, .inArr items :: outer, .closeBracket =>
    some (complete (.arr items.reverse) outer)
  | .afterValue, .inObj members _ :: outer, .closeBrace =>
    some (complete (.obj members.reverse) outer)
  | _, _, _ => none

/-- A value that the limits do not admit, where a value may start. -/
def exceeds (limits : Limits) (mode : Mode) (stack : List Frame) (token : Token) :
    Option JsonError :=
  match mode with
  | .value | .firstItem =>
    match token with
    | .openBracket | .openBrace =>
      if limits.depth ≤ stack.length then some .recursionError else none
    | .integer _ digits =>
      if limits.digits < digits then some (.tooManyDigits digits) else none
    | _ => none
  | _ => none

def parseStep (limits : Limits) (mode : Mode) (stack : List Frame) (token : Token) :
    Except JsonError (Mode × List Frame) :=
  match exceeds limits mode stack token with
  | some failure => .error failure
  | none =>
    match advance mode stack token with
    | some next => .ok next
    | none => .error .decodeError

def parseTokens (limits : Limits) : Mode → List Frame → List Token → Except JsonError Json
  | .done value, _, [] => .ok value
  | _, _, [] => .error .decodeError
  | mode, stack, token :: rest =>
    match parseStep limits mode stack token with
    | .error failure => .error failure
    | .ok (next, nextStack) => parseTokens limits next nextStack rest

/-- The tree of a document, repeated members included. -/
def parseText (limits : Limits) (text : List Char) : Except JsonError Json :=
  parseTokens limits .value [] (lex .idle text)

def parseBytes (limits : Limits) (bytes : Bytes) : Except JsonError Json :=
  match decode bytes with
  | none => .error .decodeError
  | some text => parseText limits text

theorem parseStep_ok (limits : Limits) (mode : Mode) (stack : List Frame) (token : Token)
    (next : Mode × List Frame) (parsed : parseStep limits mode stack token = .ok next) :
    advance mode stack token = some next := by
  unfold parseStep at parsed
  split at parsed
  · cases parsed
  split at parsed
  · rename_i found advanced
    rw [advanced, Except.ok.inj parsed]
  · cases parsed

/-- Limits can refuse a document, but they do not change what it denotes. -/
theorem parseTokens_limits (left right : Limits) (tokens : List Token) :
    ∀ (mode : Mode) (stack : List Frame) (leftTree rightTree : Json),
      parseTokens left mode stack tokens = .ok leftTree →
        parseTokens right mode stack tokens = .ok rightTree → leftTree = rightTree := by
  induction tokens with
  | nil =>
    intro mode stack leftTree rightTree leftParsed rightParsed
    cases mode with
    | done value =>
      rw [← Except.ok.inj leftParsed, ← Except.ok.inj rightParsed]
    | _ => cases leftParsed
  | cons token rest ih =>
    intro mode stack leftTree rightTree leftParsed rightParsed
    rw [parseTokens] at leftParsed rightParsed
    split at leftParsed
    · cases leftParsed
    rename_i leftMode leftStack leftStep
    split at rightParsed
    · cases rightParsed
    rename_i rightMode rightStack rightStep
    have leftNext := parseStep_ok _ _ _ _ _ leftStep
    have rightNext := parseStep_ok _ _ _ _ _ rightStep
    rw [leftNext] at rightNext
    obtain ⟨sameMode, sameStack⟩ := Prod.mk.inj (Option.some.inj rightNext)
    subst sameMode sameStack
    exact ih leftMode leftStack leftTree rightTree leftParsed rightParsed

theorem parseBytes_limits (left right : Limits) (bytes : Bytes) (leftTree rightTree : Json)
    (leftParsed : parseBytes left bytes = .ok leftTree)
    (rightParsed : parseBytes right bytes = .ok rightTree) : leftTree = rightTree := by
  unfold parseBytes at leftParsed rightParsed
  cases decoded : decode bytes with
  | none =>
    rw [decoded] at leftParsed
    cases leftParsed
  | some text =>
    rw [decoded] at leftParsed rightParsed
    exact parseTokens_limits left right _ _ _ _ _ leftParsed rightParsed

/-! ## Repeated members -/

/-- Which of several members of one name a reader keeps. -/
inductive Pick where
  | first
  | last
  deriving DecidableEq, Repr

def get (key : String) (members : Members) : Option Json :=
  (members.find? fun member => member.1 = key).map Prod.snd

def firstMember (key : String) (members : Members) : Option Json := get key members

def lastMember (key : String) (members : Members) : Option Json := get key members.reverse

/-- Give a key a value; `keep` retains the value it has. -/
def assign (keep : Bool) (key : String) (value : Json) : Members → Members
  | [] => [(key, value)]
  | member :: rest =>
    if member.1 = key then (key, if keep then member.2 else value) :: rest
    else member :: assign keep key value rest

def dedupe (pick : Pick) (members : Members) : Members :=
  members.foldl (fun kept member => assign (pick == .first) member.1 member.2 kept) []

mutual
def resolve (pick : Pick) : Json → Json
  | .arr items => .arr (resolveItems pick items)
  | .obj members => .obj (dedupe pick (resolveMembers pick members))
  | .null => .null
  | .bool value => .bool value
  | .int value => .int value
  | .decimal mantissa exponent => .decimal mantissa exponent
  | .nan => .nan
  | .infinity negative => .infinity negative
  | .str value => .str value

def resolveItems (pick : Pick) : List Json → List Json
  | [] => []
  | item :: rest => resolve pick item :: resolveItems pick rest

def resolveMembers (pick : Pick) : Members → Members
  | [] => []
  | (key, value) :: rest => (key, resolve pick value) :: resolveMembers pick rest
end

theorem get_cons (key : String) (member : String × Json) (rest : Members) :
    get key (member :: rest) = if member.1 = key then some member.2 else get key rest := by
  by_cases same : member.1 = key
  · simp [get, same]
  · simp [get, same]

theorem get_assign (keep : Bool) (key target : String) (value : Json) (members : Members) :
    get target (assign keep key value members) =
      if key = target then
        some (if keep then (get key members).getD value else value)
      else get target members := by
  induction members with
  | nil =>
    rw [assign, get_cons]
    by_cases same : key = target
    · cases keep <;> simp [get]
    · simp [same]
  | cons member rest ih =>
    by_cases here : member.1 = key
    · rw [assign, if_pos here, get_cons]
      by_cases same : key = target
      · cases keep <;> simp [same, get_cons, here]
      · have elsewhere : ¬ member.1 = target := by rwa [here]
        simp [same, get_cons, elsewhere]
    · rw [assign, if_neg here, get_cons, get_cons, get_cons, ih, if_neg here]
      by_cases there : member.1 = target
      · have ne : ¬ key = target := by
          intro same
          exact here (there.trans same.symm)
        rw [if_pos there, if_neg ne, if_pos there]
      · rw [if_neg there, if_neg there]

def Replaced (key : String) (old new : Json) (members updated : Members) : Prop :=
  ∃ front back, get key front = none ∧ members = front ++ (key, old) :: back ∧
    updated = front ++ (key, new) :: back

theorem replaced_assign (key : String) (old new : Json) (members : Members)
    (found : get key members = some old) :
    Replaced key old new members (assign false key new members) := by
  induction members with
  | nil => cases found
  | cons member rest ih =>
    rw [get_cons] at found
    by_cases here : member.1 = key
    · rw [if_pos here] at found
      obtain rfl := Option.some.inj found
      subst here
      exact ⟨[], rest, rfl, rfl, by simp [assign]⟩
    · rw [if_neg here] at found
      obtain ⟨front, back, absent, split, updated⟩ := ih found
      refine ⟨member :: front, back, ?_, ?_, ?_⟩
      · rw [get_cons, if_neg here, absent]
      · rw [split, cons_append]
      · rw [assign, if_neg here, updated, cons_append]

theorem get_append (key : String) (front back : Members) :
    get key (front ++ back) = (get key front).or (get key back) := by
  induction front with
  | nil => simp [get]
  | cons mem rest ih =>
    rw [cons_append, get_cons, get_cons, ih]
    split <;> rfl

theorem get_foldl_last (key : String) (members : Members) : ∀ kept : Members,
    get key (members.foldl (fun kept member => assign false member.1 member.2 kept) kept) =
      (lastMember key members).or (get key kept) := by
  induction members with
  | nil =>
    intro kept
    rfl
  | cons member rest ih =>
    intro kept
    rw [foldl_cons, ih, get_assign, lastMember, lastMember, reverse_cons,
      get_append, get_cons]
    by_cases same : member.1 = key
    · cases get key rest.reverse <;> simp [same]
    · cases get key rest.reverse <;> simp [same, get]

theorem get_foldl_first (key : String) (members : Members) : ∀ kept : Members,
    get key (members.foldl (fun kept member => assign true member.1 member.2 kept) kept) =
      (get key kept).or (firstMember key members) := by
  induction members with
  | nil =>
    simp [firstMember, get]
  | cons member rest ih =>
    intro kept
    rw [foldl_cons, ih, get_assign, firstMember, firstMember, get_cons]
    by_cases same : member.1 = key
    · subst same
      cases get member.1 kept <;> simp
    · simp [same]

theorem get_dedupe_last (key : String) (members : Members) :
    get key (dedupe .last members) = lastMember key members := by
  refine (get_foldl_last key members []).trans ?_
  simp [get]

theorem get_dedupe_first (key : String) (members : Members) :
    get key (dedupe .first members) = firstMember key members :=
  get_foldl_first key members []

theorem resolveMembers_eq_map (pick : Pick) (members : Members) : resolveMembers pick members =
      members.map fun member => (member.1, resolve pick member.2) := by
  induction members with
  | nil => rfl
  | cons member rest ih => rw [resolveMembers, ih, map_cons]

theorem get_map_resolve (pick : Pick) (key : String) (members : Members) :
    get key (members.map fun member => (member.1, resolve pick member.2)) =
      (get key members).map (resolve pick) := by
  induction members with
  | nil => rfl
  | cons member rest ih =>
    rw [map_cons, get_cons, get_cons, ih]
    split <;> rfl

/-- The value a reader finds under a key of an object. -/
def pickMember (pick : Pick) (key : String) (members : Members) : Option Json :=
  match pick with
  | .first => firstMember key members
  | .last => lastMember key members

theorem get_resolved (pick : Pick) (key : String) (members : Members) :
    get key (dedupe pick (resolveMembers pick members)) =
      (pickMember pick key members).map (resolve pick) := by
  rw [resolveMembers_eq_map]
  cases pick with
  | first => rw [get_dedupe_first, firstMember, get_map_resolve, pickMember, firstMember]
  | last =>
    rw [get_dedupe_last, lastMember, ← map_reverse, get_map_resolve, pickMember, lastMember]

/-- A decimal that rounds to an infinite double. -/
def overflows (mantissa exponent : Int) : Bool :=
  let bound := 2 ^ 1024 - 2 ^ 970
  if 0 ≤ exponent then decide (bound ≤ mantissa.natAbs * 10 ^ exponent.toNat)
  else decide (bound * 10 ^ (-exponent).toNat ≤ mantissa.natAbs)

mutual
/-- `json.dumps(.., allow_nan=False)` accepts the tree. -/
def isFinite : Json → Bool
  | .arr items => itemsFinite items
  | .obj members => membersFinite members
  | .decimal mantissa exponent => !overflows mantissa exponent
  | .nan => false
  | .infinity _ => false
  | .null => true
  | .bool _ => true
  | .int _ => true
  | .str _ => true

def itemsFinite : List Json → Bool
  | [] => true
  | item :: rest => isFinite item && itemsFinite rest

def membersFinite : Members → Bool
  | [] => true
  | (_, value) :: rest => isFinite value && membersFinite rest
end

mutual
/-- The tree as `json.dumps(.., sort_keys=True)` writes it. -/
def sortKeys : Json → Json
  | .arr items => .arr (sortItems items)
  | .obj members => .obj (Ranked.sortOn Prod.fst (sortMembers members))
  | .null => .null
  | .bool value => .bool value
  | .int value => .int value
  | .decimal mantissa exponent => .decimal mantissa exponent
  | .nan => .nan
  | .infinity negative => .infinity negative
  | .str value => .str value

def sortItems : List Json → List Json
  | [] => []
  | item :: rest => sortKeys item :: sortItems rest

def sortMembers : Members → Members
  | [] => []
  | (key, value) :: rest => (key, sortKeys value) :: sortMembers rest
end

/-- The truth value of the decoded tree. -/
def truthy : Json → Bool
  | .null => false
  | .bool value => value
  | .int value => decide (value ≠ 0)
  | .decimal mantissa _ => decide (mantissa ≠ 0)
  | .nan => true
  | .infinity _ => true
  | .str value => decide (value ≠ "")
  | .arr items => !items.isEmpty
  | .obj members => !members.isEmpty

/-- `json.loads`: of repeated members the last one counts. -/
def loads (limits : Limits) (bytes : Bytes) : Except JsonError Json :=
  (parseBytes limits bytes).map (resolve .last)

end Json

end Portcullis.Lib
