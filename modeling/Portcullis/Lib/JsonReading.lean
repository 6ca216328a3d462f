import Portcullis.Lib.JsonText

/-!
# JSON texts read back

`json.loads` of what `json.dumps` writes is the value that was written, if the nesting and the
integers are within the limits of the reader, no key is repeated, and the text of each double
reads as that double.
-/

namespace Portcullis.Lib.Json

open Encoding List

/-! ## Values -/

/-- A separator is its mark and blanks. -/
structure Spaced (separators : Separators) : Prop where
  item : ∃ count, separators.item = ',' :: List.replicate count ' '
  key : ∃ count, separators.key = ':' :: List.replicate count ' '

theorem spaced_default : Spaced defaultSeparators := ⟨⟨1, rfl⟩, ⟨1, rfl⟩⟩

mutual
/-- Nesting and integers within the limits, in a value with `level` containers around it. -/
def Fits (limits : Limits) : Nat → Json → Prop
  | _, .int value => (Nat.toDigits 10 value.natAbs).length ≤ limits.digits
  | level, .arr items => level < limits.depth ∧ FitsItems limits (level + 1) items
  | level, .obj members => level < limits.depth ∧ FitsMembers limits (level + 1) members
  | _, _ => True

def FitsItems (limits : Limits) : Nat → List Json → Prop
  | _, [] => True
  | level, item :: rest => Fits limits level item ∧ FitsItems limits level rest

def FitsMembers (limits : Limits) : Nat → Members → Prop
  | _, [] => True
  | level, (_, value) :: rest => Fits limits level value ∧ FitsMembers limits level rest
end

mutual
/-- A value Python can have: a key stands once in a `dict`, and a double is the number that its
text reads as. -/
def Native (float : Int → Int → String) : Json → Prop
  | .decimal mantissa exponent => IsFloatText (float mantissa exponent) ∧
    lex .idle (float mantissa exponent).toList = [.scalar (.decimal mantissa exponent)]
  | .arr items => NativeItems float items
  | .obj members => (members.map Prod.fst).Nodup ∧ NativeMembers float members
  | _ => True

def NativeItems (float : Int → Int → String) : List Json → Prop
  | [] => True
  | item :: rest => Native float item ∧ NativeItems float rest

def NativeMembers (float : Int → Int → String) : Members → Prop
  | [] => True
  | (_, value) :: rest => Native float value ∧ NativeMembers float rest
end

section Values

variable {limits : Limits} {separators : Separators} {float : Int → Int → String}

theorem lex_blanks (count : Nat) (rest : List Char) :
    lex .idle (List.replicate count ' ' ++ rest) = lex .idle rest := by
  induction count with
  | zero => rfl
  | succ count ih => exact (lex_silent .idle .idle ' ' _ rfl).trans ih

variable {token : Token} {mode : Mode} {stack : List Frame}

theorem lex_separator {mark : Char} {separator : List Char}
    (started : start mark = ([token], some .idle))
    (spaced : ∃ count, separator = mark :: List.replicate count ' ') (rest : List Char) :
    lex .idle (separator ++ rest) = token :: lex .idle rest := by
  obtain ⟨count, rfl⟩ := spaced
  exact (lex_token token mark _ started).trans (congrArg _ (lex_blanks count rest))

theorem parseTokens_advance {next : Mode × List Frame}
    (within : exceeds limits mode stack token = none)
    (advanced : advance mode stack token = some next) (rest : List Token) :
    parseTokens limits mode stack (token :: rest) = parseTokens limits next.1 next.2 rest := by
  rw [parseTokens, parseStep, within, advanced]

/-- Where a value may start. -/
def Mode.Ready (mode : Mode) : Prop := mode = .value ∨ mode = .firstItem

theorem parseTokens_begin {next : Mode × List Frame} (ready : mode.Ready)
    (within : exceeds limits .value stack token = none) (begun : beginValue token stack = some next)
    (rest : List Token) :
    parseTokens limits mode stack (token :: rest) = parseTokens limits next.1 next.2 rest := by
  rcases ready with rfl | rfl
  · exact parseTokens_advance within begun rest
  have fine : exceeds limits .firstItem stack token = none := within
  refine parseTokens_advance fine ?_ rest
  cases token with
  | closeBracket => cases begun
  | _ => rcases stack with _ | ⟨_ | _, _⟩ <;> exact begun

theorem parseTokens_plain {value : Json} {text after : List Char} (ready : mode.Ready)
    (closed : Delimited after) (read : lex .idle text = [token]) (sound : token ≠ .bad)
    (within : exceeds limits .value stack token = none)
    (begun : beginValue token stack = some (complete value stack)) :
    parseTokens limits mode stack (lex .idle (text ++ after)) =
      parseTokens limits (complete value stack).1 (complete value stack).2 (lex .idle after) := by
  rw [lex_append closed text .idle (by rw [read, mem_singleton]; exact sound.symm), read]
  exact parseTokens_begin ready within begun _

theorem parseTokens_key (spaced : Spaced separators) {read : Members} {last key : String}
    (ready : mode = .firstKey ∨ mode = .key) (rest : List Char) :
    parseTokens limits mode (.inObj read last :: stack)
        (lex .idle (quoted key ++ (separators.key ++ rest))) =
      parseTokens limits .value (.inObj read key :: stack) (lex .idle rest) := by
  rw [lex_quoted, lex_separator rfl spaced.key]
  have keyed : parseTokens limits mode (.inObj read last :: stack)
      (.text key :: .colon :: lex .idle rest) =
        parseTokens limits .colon (.inObj read key :: stack) (.colon :: lex .idle rest) := by
    rcases ready with rfl | rfl <;> exact (parseTokens_advance rfl (by rw [advance]) _).trans rfl
  exact keyed.trans ((parseTokens_advance rfl rfl _).trans rfl)

theorem Spaced.delimited (spaced : Spaced separators) (texts : List (List Char)) {mark : Char}
    (known : mark ∈ delimiters) (rest : List Char) :
    Delimited (following separators.item texts (mark :: rest)) := by
  refine following_delimited ?_ texts (delimited_cons known rest)
  obtain ⟨count, same⟩ := spaced.item
  rw [same]
  rfl

mutual
theorem parseTokens_value (spaced : Spaced separators) : ∀ (value : Json)
    (stack : List Frame) {mode : Mode} {after : List Char}, mode.Ready → Delimited after →
      Fits limits stack.length value → Native float value →
        parseTokens limits mode stack (lex .idle (render separators float value ++ after)) =
          parseTokens limits (complete value stack).1 (complete value stack).2 (lex .idle after)
  | .null, _, _, _, ready, closed, _, _ | .bool true, _, _, _, ready, closed, _, _
  | .bool false, _, _, _, ready, closed, _, _ | .nan, _, _, _, ready, closed, _, _
  | .infinity true, _, _, _, ready, closed, _, _
  | .infinity false, _, _, _, ready, closed, _, _ =>
    parseTokens_plain ready closed rfl nofun rfl rfl
  | .int value, _, _, _, ready, closed, fits, _ =>
    parseTokens_plain ready closed (lex_integer value) nofun (if_neg (not_lt.mpr fits)) rfl
  | .decimal _ _, _, _, _, ready, closed, _, native =>
    parseTokens_plain ready closed native.2 nofun rfl rfl
  | .str value, _, _, after, ready, _, _, _ => by
    rw [render, lex_quoted]
    exact parseTokens_begin ready rfl rfl _
  | .arr items, stack, _, after, ready, _, fits, native => by
    rw [render, cons_append, append_assoc, lex_token .openBracket _ _ rfl]
    have within : exceeds limits .value stack .openBracket = none := if_neg (not_le.mpr fits.1)
    refine (parseTokens_begin ready within rfl _).trans ?_
    cases items with
    | nil =>
      refine (congrArg _ (lex_token .closeBracket ']' after rfl)).trans ?_
      exact parseTokens_advance rfl rfl _
    | cons item rest =>
      rw [renderItems, intercalate_append]
      refine (parseTokens_value spaced item (.inArr [] :: stack) (.inr rfl)
        (spaced.delimited _ (by decide) _) fits.2.1 native.1).trans ?_
      exact parseTokens_items spaced rest [item] stack after fits.2.2 native.2
  | .obj members, stack, _, after, ready, _, fits, native => by
    rw [render, cons_append, append_assoc, lex_token .openBrace _ _ rfl]
    have within : exceeds limits .value stack .openBrace = none := if_neg (not_le.mpr fits.1)
    refine (parseTokens_begin ready within rfl _).trans ?_
    cases members with
    | nil =>
      refine (congrArg _ (lex_token .closeBrace '}' after rfl)).trans ?_
      exact parseTokens_advance rfl rfl _
    | cons member rest =>
      rw [renderMembers, intercalate_append, append_assoc, append_assoc]
      refine (parseTokens_key spaced (.inl rfl) _).trans ?_
      refine (parseTokens_value spaced member.2 (.inObj [] member.1 :: stack) (.inl rfl)
        (spaced.delimited _ (by decide) _) fits.2.1 native.2.1).trans ?_
      exact parseTokens_members spaced rest [member] member.1 stack after fits.2.2 native.2.2

theorem parseTokens_items (spaced : Spaced separators) : ∀ (items read : List Json)
    (stack : List Frame) (after : List Char), FitsItems limits (stack.length + 1) items →
      NativeItems float items → parseTokens limits .afterValue (.inArr read :: stack) (lex .idle
            (following separators.item (renderItems separators float items) (']' :: after))) =
          parseTokens limits (complete (.arr (read.reverse ++ items)) stack).1
            (complete (.arr (read.reverse ++ items)) stack).2 (lex .idle after)
  | [], read, stack, after, _, _ => by
    rw [renderItems, following, lex_token .closeBracket ']' after rfl, append_nil]
    exact parseTokens_advance rfl rfl _
  | item :: rest, read, stack, after, fits, native => by
    rw [renderItems, following, lex_separator rfl spaced.item, intercalate_append]
    refine (parseTokens_advance rfl rfl _).trans ?_
    refine (parseTokens_value spaced item (.inArr read :: stack) (.inl rfl)
      (spaced.delimited _ (by decide) _) fits.1 native.1).trans ?_
    refine (parseTokens_items spaced rest (item :: read) stack after fits.2 native.2).trans ?_
    rw [reverse_cons, append_assoc]
    rfl

theorem parseTokens_members (spaced : Spaced separators) : ∀ (members read : Members)
    (last : String) (stack : List Frame) (after : List Char),
      FitsMembers limits (stack.length + 1) members → NativeMembers float members →
        parseTokens limits .afterValue (.inObj read last :: stack) (lex .idle
            (following separators.item (renderMembers separators float members) ('}' :: after))) =
          parseTokens limits (complete (.obj (read.reverse ++ members)) stack).1
            (complete (.obj (read.reverse ++ members)) stack).2 (lex .idle after)
  | [], read, _, stack, after, _, _ => by
    rw [renderMembers, following, lex_token .closeBrace '}' after rfl, append_nil]
    exact parseTokens_advance rfl rfl _
  | (key, value) :: rest, read, last, stack, after, fits, native => by
    rw [renderMembers, following, lex_separator rfl spaced.item, intercalate_append,
      append_assoc, append_assoc]
    refine (parseTokens_advance rfl rfl _).trans ?_
    refine (parseTokens_key spaced (.inr rfl) _).trans ?_
    refine (parseTokens_value spaced value (.inObj read key :: stack) (.inl rfl)
      (spaced.delimited _ (by decide) _) fits.1 native.1).trans ?_
    refine (parseTokens_members spaced rest ((key, value) :: read) key stack after fits.2
      native.2).trans ?_
    rw [reverse_cons, append_assoc]
    rfl
end

theorem parseText_render (spaced : Spaced separators) {value : Json}
    (fits : Fits limits 0 value) (native : Native float value) :
    parseText limits (render separators float value) = .ok value := by
  have read : parseTokens limits .value [] (lex .idle (render separators float value ++ [])) =
      .ok value := parseTokens_value spaced value [] (.inl rfl) nofun fits native
  rwa [append_nil] at read

/-! ## Repeated keys -/

theorem assign_absent {keep : Bool} {key : String} {value : Json} {members : Members}
    (absent : key ∉ members.map Prod.fst) :
    assign keep key value members = members ++ [(key, value)] := by
  induction members with
  | nil => rfl
  | cons mem rest ih =>
    rw [map_cons, mem_cons, not_or] at absent
    rw [assign, if_neg (Ne.symm absent.1), ih absent.2, cons_append]

theorem foldl_assign_distinct (keep : Bool) (members : Members) :
    ∀ kept : Members, ((kept ++ members).map Prod.fst).Nodup →
      members.foldl (fun kept member => assign keep member.1 member.2 kept) kept =
        kept ++ members := by
  induction members with
  | nil => exact fun kept _ => (append_nil kept).symm
  | cons member rest ih =>
    intro kept distinct
    have absent : member.1 ∉ kept.map Prod.fst := by
      rw [map_append, nodup_append] at distinct
      exact fun inside => distinct.2.2 _ inside _ mem_cons_self rfl
    rw [append_cons] at distinct ⊢
    rw [foldl_cons, assign_absent absent, ih _ distinct]

mutual
theorem resolve_native (pick : Pick) : ∀ value : Json, Native float value →
    resolve pick value = value
  | .arr items, native => by rw [resolve, resolveItems_native pick items native]
  | .obj members, native => by
    rw [resolve, resolveMembers_native pick members native.2, dedupe,
      foldl_assign_distinct _ members [] native.1, nil_append]
  | .null, _ | .bool _, _ | .int _, _ | .decimal _ _, _ | .nan, _ | .infinity _, _
  | .str _, _ => by rw [resolve]

theorem resolveItems_native (pick : Pick) : ∀ items : List Json, NativeItems float items →
    resolveItems pick items = items
  | [], _ => rfl
  | item :: rest, native => by
    rw [resolveItems, resolve_native pick item native.1, resolveItems_native pick rest native.2]

theorem resolveMembers_native (pick : Pick) : ∀ members : Members,
    NativeMembers float members → resolveMembers pick members = members
  | [], _ => rfl
  | (key, value) :: rest, native => by
    rw [resolveMembers, resolve_native pick value native.1,
      resolveMembers_native pick rest native.2]
end

/-! ## Characters of a text -/

/-- Printable ASCII: no control character, so no end of a line. -/
def Shown (text : List Char) : Prop := ∀ char ∈ text, 32 ≤ char.toNat ∧ char.toNat ≤ 126

instance (text : List Char) : Decidable (Shown text) := List.decidableBAll _ _

theorem shown_append {left right : List Char} :
    Shown (left ++ right) ↔ Shown left ∧ Shown right := forall_mem_append

theorem shown_cons {char : Char} {rest : List Char} :
    Shown (char :: rest) ↔ (32 ≤ char.toNat ∧ char.toNat ≤ 126) ∧ Shown rest :=
  forall_mem_cons

theorem shown_unicodeEscape (unit : Nat) : Shown (unicodeEscape unit) := by
  have digit : ∀ nibble < 16, 32 ≤ (hexDigit nibble).toNat ∧ (hexDigit nibble).toNat ≤ 126 := by
    decide
  have hex := fun value => digit (value % 16) (Nat.mod_lt value (by decide))
  simp only [unicodeEscape, shown_cons, hex, true_and]
  exact ⟨by decide, by decide, forall_mem_nil _⟩

theorem shown_escapeChar (char : Char) : Shown (escapeChar char) := by
  unfold escapeChar
  split_ifs with _ _ _ _ _ _ _ printable
  any_goals decide
  · exact shown_cons.mpr ⟨printable, nofun⟩
  · exact shown_unicodeEscape _
  · exact shown_append.mpr ⟨shown_unicodeEscape _, shown_unicodeEscape _⟩

theorem shown_quoted (text : String) : Shown (quoted text) := by
  refine shown_cons.mpr ⟨by decide, shown_append.mpr ⟨?_, by decide⟩⟩
  intro char inside
  obtain ⟨source, _, inside⟩ := mem_flatMap.mp inside
  exact shown_escapeChar source char inside

theorem shown_intercalate {separator : List Char} (shown : Shown separator) :
    ∀ {texts : List (List Char)}, (∀ text ∈ texts, Shown text) → Shown (separator.intercalate texts)
  | [], _ => nofun
  | [text], all => by
    rw [intercalate_singleton]
    exact all text mem_cons_self
  | text :: next :: more, all => by
    rw [intercalate_cons_cons]
    rw [forall_mem_cons] at all
    exact shown_append.mpr ⟨shown_append.mpr ⟨all.1, shown⟩, shown_intercalate shown all.2⟩

theorem shown_spaced {mark : Char} {separator : List Char} (visible : Shown [mark])
    (spaced : ∃ count, separator = mark :: List.replicate count ' ') : Shown separator := by
  obtain ⟨count, rfl⟩ := spaced
  refine shown_cons.mpr ⟨(shown_cons.mp visible).1, fun char inside => ?_⟩
  rw [eq_of_mem_replicate inside]
  decide

theorem shown_floatText {text : String} (written : IsFloatText text) : Shown text.toList := by
  rcases written with rfl | rfl | ⟨known, _⟩
  · decide
  · decide
  · have digits : Shown "0123456789+-.e".toList := by decide
    exact fun char inside => digits char (known char inside)

mutual
theorem shown_render (spaced : Spaced separators) : ∀ value : Json, Native float value →
    Shown (render separators float value)
  | .null, _ | .nan, _ | .bool true, _ | .bool false, _ | .infinity true, _
  | .infinity false, _ => by
    rw [render]
    decide
  | .int value, _ => fun char inside => by
    have digits : Shown integerChars := by decide
    exact digits char (integer_chars value inside)
  | .decimal _ _, native => shown_floatText native.1
  | .str value, _ => shown_quoted value
  | .arr items, native => by
    refine shown_cons.mpr ⟨by decide, shown_append.mpr ⟨?_, by decide⟩⟩
    exact shown_intercalate (shown_spaced (by decide) spaced.item)
      (shown_renderItems spaced items native)
  | .obj members, native => by
    refine shown_cons.mpr ⟨by decide, shown_append.mpr ⟨?_, by decide⟩⟩
    exact shown_intercalate (shown_spaced (by decide) spaced.item)
      (shown_renderMembers spaced members native.2)

theorem shown_renderItems (spaced : Spaced separators) : ∀ items : List Json,
    NativeItems float items → ∀ text ∈ renderItems separators float items, Shown text
  | [], _ => nofun
  | item :: rest, native => forall_mem_cons.mpr
    ⟨shown_render spaced item native.1, shown_renderItems spaced rest native.2⟩

theorem shown_renderMembers (spaced : Spaced separators) : ∀ members : Members,
    NativeMembers float members → ∀ text ∈ renderMembers separators float members, Shown text
  | [], _ => nofun
  | (key, value) :: rest, native => forall_mem_cons.mpr
    ⟨shown_append.mpr ⟨shown_append.mpr ⟨shown_quoted key, shown_spaced (by decide) spaced.key⟩,
      shown_render spaced value native.1⟩, shown_renderMembers spaced rest native.2⟩
end

end Values

end Portcullis.Lib.Json
