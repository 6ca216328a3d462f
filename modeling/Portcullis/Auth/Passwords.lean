import Portcullis.Lib.PyStr

/-!
# Peppers and passwords

The pepper settings of `app/config.py` and the password service of
`app/auth/passwords.py`.  A pepper is a secret of the deployment that is appended to
what is hashed.
-/

namespace Portcullis.Auth.Passwords

/-- The settings require sixteen characters. -/
abbrev Pepper := { text : String // 16 ≤ text.length }

structure PepperSettings where
  apiKeyPepper : Pepper
  apiKeyPepperNext : Option Pepper

/-- `active_pepper`: the next pepper, if one is set. -/
def PepperSettings.activePepper (settings : PepperSettings) : Pepper :=
  settings.apiKeyPepperNext.getD settings.apiKeyPepper

theorem Pepper.val_ne_empty (pepper : Pepper) : pepper.val ≠ "" := by
  intro empty
  have long := pepper.property
  rw [empty] at long
  exact absurd long (by decide)

/-- Argon2 with random salts: a hash verifies the text it was made of and no other. -/
structure Hasher where
  hash : (salt : BitVec 128) → String → String
  verify : String → String → Bool
  exact : ∀ salt text other, verify (hash salt text) other = decide (text = other)

def plainHasher : Hasher where
  hash _ text := text
  verify passwordHash text := decide (passwordHash = text)
  exact _ _ _ := rfl

structure PasswordService where
  pepper : String
  fallback : Option String

/-- The constructor drops a fallback that is the pepper itself. -/
def passwordService (pepper : String) (fallbackPepper : Option String) : PasswordService :=
  ⟨pepper, if fallbackPepper ≠ some pepper then fallbackPepper else none⟩

/-- The service as every handler builds it. -/
def PepperSettings.passwords (settings : PepperSettings) : PasswordService :=
  passwordService settings.activePepper (some settings.apiKeyPepper)

variable (argon2 : Hasher)

def PasswordService.hashPassword (service : PasswordService) (salt : BitVec 128)
    (password : String) : String :=
  argon2.hash salt (password ++ service.pepper)

def PasswordService.verifyPassword (service : PasswordService) (password passwordHash : String) :
    Bool :=
  if argon2.verify passwordHash (password ++ service.pepper) then true
  else match service.fallback with
    | some fallback =>
      if fallback ≠ "" then argon2.verify passwordHash (password ++ fallback) else false
    | none => false

theorem Hasher.verify_peppered (salt : BitVec 128) (text : String) (pepper other : Pepper) :
    argon2.verify (argon2.hash salt (text ++ pepper)) (text ++ other) =
      decide (pepper = other) := by
  rw [argon2.exact, decide_eq_decide, ← String.toList_inj, String.toList_append,
    String.toList_append, List.append_cancel_left_eq, String.toList_inj, Subtype.ext_iff]

theorem verifyPassword_peppered (settings : PepperSettings) (salt : BitVec 128)
    (password : String) (pepper : Pepper) :
    settings.passwords.verifyPassword argon2 password (argon2.hash salt (password ++ pepper)) =
      decide (pepper = settings.activePepper ∨ pepper = settings.apiKeyPepper) := by
  unfold PasswordService.verifyPassword PepperSettings.passwords passwordService
  dsimp only
  rw [argon2.verify_peppered]
  by_cases same : settings.apiKeyPepper = settings.activePepper
  · simp [same]
  have kept : some settings.apiKeyPepper.val ≠ some settings.activePepper.val :=
    fun equal => same (Subtype.ext (Option.some.inj equal))
  rw [if_pos kept]
  dsimp only
  rw [if_pos settings.apiKeyPepper.val_ne_empty, argon2.verify_peppered]
  by_cases own : pepper = settings.activePepper <;> simp [own]

end Portcullis.Auth.Passwords
