import Portcullis.Models.Orm

/-!
# License entitlements

`require_license` of `app/auth/licenses.py`, given the license that is current for the
tenant.
-/

namespace Portcullis.Auth.Licenses

open Models

/-- The message of a `LicenseEntitlementError`. -/
structure EntitlementError where
  message : String
  deriving DecidableEq, Repr

def limitExceeded (kind : String) (requested limit : Int) : EntitlementError :=
  ⟨kind ++ " limit exceeded (" ++ toString requested ++ " > " ++ toString limit ++ ")"⟩

/-- A tenant without a license is not limited. -/
def requireLicense (license : Option License) (now : Instant) (users servers : Nat) :
    Except EntitlementError Unit :=
  match license with
  | none => .ok ()
  | some license =>
    if license.status ≠ .active then .error ⟨"license is not active"⟩
    else if license.expiresAt < now then .error ⟨"license expired"⟩
    else if license.seatLimit < users then
      .error (limitExceeded "seat" users license.seatLimit)
    else match license.serverLimit with
      | none => .ok ()
      | some limit =>
        if limit < servers then .error (limitExceeded "server" servers limit) else .ok ()

end Portcullis.Auth.Licenses
