import Mathlib.Algebra.BigOperators.Group.List.Basic
import Mathlib.Logic.Function.Basic

/-!
# Amounts posted under keys

Amounts are posted to a list of accounts or to a table, and the sum under each key is what
every way of collecting them keeps.
-/

namespace Portcullis.Lib.Ledger

open List

variable {Key Amount : Type} [DecidableEq Key] [AddCommMonoid Amount]

variable (key : Key) (table : Key → Option Amount)

/-- The sum of what is posted under a key. -/
def sumAt (entries : List (Key × Amount)) : Amount :=
  (entries.map fun entry => if entry.1 = key then entry.2 else 0).sum

@[simp]
theorem sumAt_nil : sumAt key ([] : List (Key × Amount)) = 0 := rfl

@[simp]
theorem sumAt_cons (entry : Key × Amount) (rest : List (Key × Amount)) :
    sumAt key (entry :: rest) = (if entry.1 = key then entry.2 else 0) + sumAt key rest := by
  rw [sumAt, map_cons, sum_cons, sumAt]

@[simp]
theorem sumAt_append (first second : List (Key × Amount)) :
    sumAt key (first ++ second) = sumAt key first + sumAt key second := by
  rw [sumAt, map_append, sum_append, sumAt, sumAt]

/-! ## Collecting -/

/-- Add an amount to the account of a key, which is opened at zero if there is none. -/
def post (key : Key) (amount : Amount) : List (Key × Amount) → List (Key × Amount)
  | [] => [(key, 0 + amount)]
  | account :: rest =>
    if account.1 = key then (account.1, account.2 + amount) :: rest
    else account :: post key amount rest

theorem sumAt_post (target : Key) (amount : Amount) (accounts : List (Key × Amount)) :
    sumAt target (post key amount accounts) =
      sumAt target accounts + if key = target then amount else 0 := by
  induction accounts with
  | nil => simp [post]
  | cons account rest ih =>
    by_cases here : account.1 = key
    · rw [post, if_pos here, sumAt_cons, sumAt_cons, here]
      split
      · exact add_right_comm _ _ _
      · rw [add_zero]
    · rw [post, if_neg here, sumAt_cons, sumAt_cons, ih, add_assoc]

theorem length_post_le (amount : Amount) (accounts : List (Key × Amount)) :
    (post key amount accounts).length ≤ accounts.length + 1 := by
  induction accounts with
  | nil => exact Nat.le_refl 1
  | cons account rest ih =>
    rw [post]
    split
    · exact Nat.le_succ _
    · exact Nat.succ_le_succ ih

/-- The accounts after a list of postings, in the order in which they were opened. -/
def aggregate (entries : List (Key × Amount)) : List (Key × Amount) :=
  entries.foldl (fun accounts entry => post entry.1 entry.2 accounts) []

theorem sumAt_aggregate (entries : List (Key × Amount)) :
    sumAt key (aggregate entries) = sumAt key entries := by
  have collected : ∀ accounts : List (Key × Amount),
      sumAt key (entries.foldl (fun accounts entry => post entry.1 entry.2 accounts) accounts) =
        sumAt key accounts + sumAt key entries := by
    induction entries with
    | nil => simp
    | cons entry rest ih =>
      intro accounts
      rw [foldl_cons, ih, sumAt_post, sumAt_cons, add_assoc]
  rw [aggregate, collected, sumAt_nil, zero_add]

theorem mem_keys_post (target : Key) (amount : Amount) (accounts : List (Key × Amount)) :
    target ∈ (post key amount accounts).map Prod.fst ↔
      target ∈ accounts.map Prod.fst ∨ target = key := by
  induction accounts with
  | nil => simp [post]
  | cons account rest ih =>
    by_cases here : account.1 = key
    · rw [post, if_pos here]
      simp only [map_cons, mem_cons, here]
      tauto
    · rw [post, if_neg here, map_cons, map_cons, mem_cons, mem_cons, ih,
        or_assoc]

theorem mem_keys_aggregate (target : Key) (entries : List (Key × Amount)) :
    target ∈ (aggregate entries).map Prod.fst ↔ target ∈ entries.map Prod.fst := by
  have collected : ∀ accounts : List (Key × Amount),
      target ∈ (entries.foldl (fun accounts entry => post entry.1 entry.2 accounts)
          accounts).map Prod.fst ↔
        target ∈ accounts.map Prod.fst ∨ target ∈ entries.map Prod.fst := by
    induction entries with
    | nil => simp
    | cons entry rest ih =>
      intro accounts
      rw [foldl_cons, ih, mem_keys_post, map_cons, mem_cons, or_assoc]
  rw [aggregate, collected]
  simp

theorem length_aggregate_le (entries : List (Key × Amount)) :
    (aggregate entries).length ≤ entries.length := by
  have collected : ∀ accounts : List (Key × Amount),
      (entries.foldl (fun accounts entry => post entry.1 entry.2 accounts) accounts).length ≤
        accounts.length + entries.length := by
    induction entries with
    | nil => simp
    | cons entry rest ih =>
      intro accounts
      have opened := length_post_le entry.1 entry.2 accounts
      have later := ih (post entry.1 entry.2 accounts)
      rw [foldl_cons, length_cons]
      omega
  have whole := collected []
  rwa [length_nil, Nat.zero_add] at whole

/-! ## Tables -/

def total (key : Key) : Amount := (table key).getD 0

/-- Add an amount to a row, or insert the row with it. -/
def credit (key : Key) (amount : Amount) : Key → Option Amount :=
  Function.update table key
    (match table key with
      | none => some amount
      | some held => some (held + amount))

theorem total_credit (key target : Key) (amount : Amount) : total (credit table key amount) target =
      total table target + if key = target then amount else 0 := by
  by_cases same : key = target
  · subst same
    rw [total, credit, Function.update_self, if_pos rfl, total]
    cases table key with
    | none => exact (zero_add amount).symm
    | some held => rfl
  · rw [total, credit, Function.update_of_ne (Ne.symm same), if_neg same, add_zero, total]

end Portcullis.Lib.Ledger
