import Portcullis.Gateway.Session
import Portcullis.Lib.JsonReading

/-!
# Session records read back

The text `SessionStore.record` stores is read back by `SessionStore.lookup` as the same
three strings, whatever characters they contain; only a JSON reader that cannot open a
single object fails on it.
-/

namespace Portcullis.Gateway.SessionText

open Gateway.Session Lib Lib.Json

theorem unicodeEscape_eq (unit : Nat) : Session.unicodeEscape unit = Json.unicodeEscape unit := by
  have every : ∀ digit < 16, hexChar digit = Json.hexDigit digit := by decide
  have digit : ∀ value, hexChar (value % 16) = Json.hexDigit (value % 16) := fun value =>
    every _ (Nat.mod_lt value (by decide))
  simp only [Session.unicodeEscape, Json.unicodeEscape, digit]

theorem escapeChar_eq : Session.escapeChar = Json.escapeChar := by
  funext char
  simp only [Session.escapeChar, Json.escapeChar, unicodeEscape_eq]
  by_cases backspace : char.toNat = 8
  · simp [backspace]
  · rw [if_neg backspace, if_neg backspace]

theorem toList_quoted (text : String) : (Session.quoted text).toList = Json.quoted text := by
  simp [Session.quoted, Json.quoted, escapeChar_eq, String.toList_append]

section Record

variable (tenantId : Uuid) (subjectId serverSlug : String)

def payload : Json :=
  .obj [("tenant_id", .str tenantId.str), ("subject_id", .str subjectId),
    ("server_slug", .str serverSlug)]

theorem toList_payloadText : (payloadText tenantId subjectId serverSlug).toList =
      render defaultSeparators (fun _ _ => "") (payload tenantId subjectId serverSlug) := by
  have keys : Json.quoted "tenant_id" = "\"tenant_id\"".toList ∧
      Json.quoted "subject_id" = "\"subject_id\"".toList ∧
      Json.quoted "server_slug" = "\"server_slug\"".toList := by decide +kernel
  unfold payloadText payload
  generalize tenantId.str = tenant
  simp [render, renderMembers, toList_quoted, keys, defaultSeparators, String.toList_append,
    List.intercalate_cons_cons]

theorem parse_payloadText (limits : Limits) :
    parseText limits (payloadText tenantId subjectId serverSlug).toList =
      if limits.depth = 0 then .error .recursionError
      else .ok (.obj [("tenant_id", .str tenantId.str), ("subject_id", .str subjectId),
        ("server_slug", .str serverSlug)]) := by
  rw [toList_payloadText]
  by_cases flat : limits.depth = 0
  · rw [if_pos flat, payload, render, parseText, lex_token .openBrace _ _ rfl, parseTokens,
      parseStep]
    simp [exceeds, flat]
  · rw [if_neg flat]
    have distinct : ["tenant_id", "subject_id", "server_slug"].Nodup := by decide
    exact parseText_render spaced_default ⟨Nat.pos_of_ne_zero flat, trivial, trivial, trivial,
      trivial⟩ ⟨distinct, trivial, trivial, trivial, trivial⟩

end Record

end Portcullis.Gateway.SessionText
