import Portcullis.Auth.IssuedKeys

/-!
# The user behind a federated subject

A member row stores the subject of an identity provider and no user.  Every federated login
enters as the user of the address asserted at that login, so two logins of a subject are
logins of one user exactly if they assert one address.
-/

namespace Portcullis.Auth.FederatedIdentity

open Auth.Accounts
open Auth.Deprovisioning (sampleDraws sampleService)
open Auth.Federation Auth.Issuance
open Auth.IssuedKeys (laterDraws noDirectory sampleSsoLogin)
open Lib
open Lib.Transactions (commit_of_error commit_of_ok ok_of_map)
open Models

/-- A federated login: what the provider asserted and the id drawn for the key. -/
structure Login where
  subject : String
  email : String
  keyId : Uuid
  deriving DecidableEq, Repr

def loginOf : Federation.Operation → Option Login
  | .ssoLogin draws login => some ⟨login.subject, login.email, draws.keyId⟩
  | .clerkSync draws login => some ⟨login.subject, login.email, draws.keyId⟩
  | _ => none

/-- The database and the federated logins that were answered. -/
structure History where
  directory : Directory
  logins : List Login

def perform (service : Service) (history : History) (operation : Federation.Operation) :
    Except Failure History :=
  (Federation.perform service history.directory operation).map fun directory =>
    ⟨directory, history.logins ++ (loginOf operation).toList⟩

/-- The keys issued to logins of one subject have one owner. -/
def OneUserPerSubject (history : History) : Prop :=
  ∀ first ∈ history.logins, ∀ second ∈ history.logins, first.subject = second.subject →
    ∀ key ∈ history.directory.accounts.keys.rows, ∀ other ∈ history.directory.accounts.keys.rows,
        key.id = first.keyId → other.id = second.keyId → key.userId = other.userId

instance (history : History) : Decidable (OneUserPerSubject history) :=
  inferInstanceAs (Decidable (∀ first ∈ history.logins, ∀ second ∈ history.logins, _ →
    ∀ key ∈ history.directory.accounts.keys.rows,
      ∀ other ∈ history.directory.accounts.keys.rows, _ → _ → _))

/-- The logins of one subject asserted one address. -/
def OneEmailPerSubject (logins : List Login) : Prop :=
  ∀ first ∈ logins, ∀ second ∈ logins, first.subject = second.subject → first.email = second.email

/-- The key of a login is stored, and its owner is the user of the asserted address. -/
def Traced (accounts : Accounts) (login : Login) : Prop :=
  ∃ key ∈ accounts.keys.rows, key.id = login.keyId ∧
    ∃ user ∈ accounts.users.rows, key.userId = some user.id ∧
      user.tenantId = defaultTenantId ∧ user.email = login.email

section Steps

variable {service : Service} {before after : Accounts} {login : Login}

theorem Traced.kept (traced : Traced before login) (users : UsersKept before.users after.users)
    (keys : KeysKept before.keys after.keys) : Traced after login := by
  obtain ⟨key, keyIn, sameId, user, userIn, owned, tenant, email⟩ := traced
  obtain ⟨laterKey, laterKeyIn, sameKey⟩ := keys key keyIn
  obtain ⟨laterUser, laterUserIn, sameUser⟩ := users user userIn
  refine ⟨laterKey, laterKeyIn, sameKey.id.trans sameId, laterUser, laterUserIn, ?_,
    sameUser.tenantId.trans tenant, sameUser.email.trans email⟩
  rw [sameKey.userId, owned, sameUser.id]

theorem Traced.of_federatedTerms {draws : Draws} {subject email : String} {row : ApiKey}
    {user : User} (issued : Issued before after row user)
    (terms : FederatedTerms before draws subject email row user) :
    Traced after ⟨subject, email, draws.keyId⟩ := by
  obtain ⟨binding, address, _⟩ := terms
  exact ⟨row, issued.rowIn, binding.id, user, issued.member, issued.owner, binding.userTenant,
    address⟩

theorem traced_of_loginOf {operation : Federation.Operation} {row : ApiKey} {user : User}
    (issued : Issued before after row user) (terms : Terms before operation row user)
    (asserted : loginOf operation = some login) : Traced after login := by
  cases operation with
  | ssoLogin draws asks =>
    rw [← Option.some.inj asserted]
    exact .of_federatedTerms issued terms
  | clerkSync draws asks =>
    rw [← Option.some.inj asserted]
    exact .of_federatedTerms issued terms
  | _ => cases asserted

theorem loginOf_of_quiet {operation : Federation.Operation} (quiet : Quiet operation) :
    loginOf operation = none := by
  cases operation with
  | account operation => rfl
  | _ => exact quiet.elim

theorem perform_traced (history : History) (operation : Federation.Operation) (later : History)
    (did : perform service history operation = .ok later)
    (traced : ∀ login ∈ history.logins, Traced history.directory.accounts login) :
    ∀ login ∈ later.logins, Traced later.directory.accounts login := by
  obtain ⟨directory, ans, rfl⟩ := ok_of_map did
  intro login mem
  rcases perform_outcome ans with ⟨silent, quiet⟩ | ⟨row, user, issued, terms⟩
  · rw [loginOf_of_quiet quiet, Option.toList_none, List.append_nil] at mem
    exact (traced login mem).kept silent.users silent.keysKept
  · rcases List.mem_append.mp mem with prev | new
    · exact (traced login prev).kept issued.users issued.keysKept
    · exact traced_of_loginOf issued terms (Option.mem_toList.mp new)

end Steps

theorem oneUserPerSubject_iff {history : History}
    (traced : ∀ login ∈ history.logins, Traced history.directory.accounts login) :
    OneUserPerSubject history ↔ OneEmailPerSubject history.logins := by
  constructor
  · intro oneUser first firstIn second secondIn sameSubject
    obtain ⟨key, keyIn, keyId, user, userIn, owned, _, address⟩ := traced first firstIn
    obtain ⟨other, otherIn, otherId, owner, ownerIn, otherOwned, _, otherAddress⟩ :=
      traced second secondIn
    have sameOwner := oneUser first firstIn second secondIn sameSubject key keyIn other otherIn
      keyId otherId
    rw [owned, otherOwned] at sameOwner
    rw [← address, ← otherAddress, history.directory.accounts.users.eq_of_conflicts userIn
      ownerIn (.inl (Option.some.inj sameOwner))]
  · intro oneEmail first firstIn second secondIn sameSubject key keyIn other otherIn keyId otherId
    obtain ⟨firstKey, firstKeyIn, firstKeyId, user, userIn, owned, tenant, address⟩ :=
      traced first firstIn
    obtain ⟨secondKey, secondKeyIn, secondKeyId, owner, ownerIn, otherOwned, otherTenant,
      otherAddress⟩ := traced second secondIn
    have sameUser := history.directory.accounts.users.eq_of_conflicts userIn ownerIn
      (.inr ⟨tenant.trans otherTenant.symm, by
        rw [address, otherAddress, oneEmail first firstIn second secondIn sameSubject]⟩)
    rw [history.directory.accounts.keys.eq_of_conflicts keyIn firstKeyIn
        (.inl (keyId.trans firstKeyId.symm)),
      history.directory.accounts.keys.eq_of_conflicts otherIn secondKeyIn
        (.inl (otherId.trans secondKeyId.symm)), owned, otherOwned, sameUser]

theorem run_traced (service : Service) (start : Directory)
    (operations : List Federation.Operation) :
    ∀ login ∈ (Transactions.run (perform service) ⟨start, []⟩ operations).logins,
      Traced (Transactions.run (perform service) ⟨start, []⟩ operations).directory.accounts login :=
  Transactions.invariant_run perform_traced
    (fun _ mem => (List.not_mem_nil mem).elim) operations

/-- After any run the keys issued to logins of one subject have one owner exactly if those
logins asserted one address. -/
theorem one_user_per_subject_iff (service : Service) (start : Directory)
    (operations : List Federation.Operation) :
    OneUserPerSubject (Transactions.run (perform service) ⟨start, []⟩ operations) ↔
      OneEmailPerSubject (Transactions.run (perform service) ⟨start, []⟩ operations).logins :=
  oneUserPerSubject_iff (run_traced service start operations)

/-! ## A provider that keeps addresses -/

/-! ## A change of address -/

def lastDraws : Draws :=
  { sampleDraws with
    userId := ⟨22⟩
    memberId := ⟨23⟩
    keyId := ⟨24⟩
    keyText :=
      ⟨⟨List.replicate 8 'e', by decide, by decide⟩,
        ⟨List.replicate 43 'f', by decide, by decide⟩⟩ }

/-- A subject whose address becomes that of another account enters that account. -/
theorem subject_changes_user :
    ¬ ∀ (service : Service) (start : Directory) (operations : List Federation.Operation),
        OneUserPerSubject (Transactions.run (perform service) ⟨start, []⟩ operations) := by
  intro claim
  exact absurd (claim sampleService noDirectory
    [sampleSsoLogin sampleDraws "idp|1" "ada@example.com",
      sampleSsoLogin laterDraws "idp|2" "eve@example.com",
      sampleSsoLogin lastDraws "idp|1" "eve@example.com"]) (by decide +kernel)

end Portcullis.Auth.FederatedIdentity
