import Mathlib.Data.List.Sort
import Mathlib.Data.Prod.Lex
import Mathlib.Tactic

/-!
# Selection of the least-keyed entries of a list

A stable sort on a key, and the run of entries that share the key of the first
sorted entry.  The membership theorem says that this run is exactly the set of
entries no other entry beats, so everything decided from it is independent of
the order and the multiplicity of the input list.
-/

namespace Portcullis.Lib.Ranked

open List

universe u v

variable {α : Type u} {κ : Type v} [LinearOrder κ]

variable (key : α → κ) (entries : List α) (keep : α → Bool)

/-- Ascending stable sort on a key. -/
def sortOn (entries : List α) : List α :=
  entries.insertionSort (fun left right => key left ≤ key right)

def Least (entry : α) : Prop :=
  entry ∈ entries ∧ ∀ other ∈ entries, key entry ≤ key other

def leastRun (entries : List α) : List α :=
  match sortOn key entries with
  | [] => []
  | first :: rest =>
    (first :: rest).filter fun entry => decide (key entry = key first)

theorem mem_sortOn (entry : α) : entry ∈ sortOn key entries ↔ entry ∈ entries :=
  mem_insertionSort _

theorem sortOn_eq_nil_iff : sortOn key entries = [] ↔ entries = [] := by
  have permuted := perm_insertionSort (fun left right : α => key left ≤ key right) entries
  constructor
  · intro sortedNil
    rw [sortOn] at sortedNil
    rw [sortedNil] at permuted
    exact permuted.nil_eq.symm
  · intro entriesNil
    subst entriesNil
    rfl

theorem sortOn_pairwise : (sortOn key entries).Pairwise fun left right => key left ≤ key right := by
  exact pairwise_insertionSort _ entries

theorem sortOn_head_least (rest : List α) (first : α)
    (sorted : sortOn key entries = first :: rest) :
    Least key entries first := by
  have ordered := sortOn_pairwise key entries
  rw [sorted] at ordered
  refine ⟨(mem_sortOn key entries first).mp (by simp [sorted]), ?_⟩
  intro other mem
  have sortedMember := (mem_sortOn key entries other).mpr mem
  rw [sorted] at sortedMember
  rcases mem_cons.mp sortedMember with rfl | later
  · exact le_refl _
  · exact (pairwise_cons.mp ordered).1 other later

theorem least_key_unique (left right : α) (leftLeast : Least key entries left)
    (rightLeast : Least key entries right) : key left = key right :=
  le_antisymm (leftLeast.2 right rightLeast.1) (rightLeast.2 left leftLeast.1)

theorem mem_leastRun (entry : α) : entry ∈ leastRun key entries ↔ Least key entries entry := by
  unfold leastRun
  cases sorted : sortOn key entries with
  | nil =>
    have entriesNil := (sortOn_eq_nil_iff key entries).mp sorted
    simp [Least, entriesNil]
  | cons first rest =>
    have firstLeast := sortOn_head_least key entries rest first sorted
    rw [mem_filter, ← sorted, mem_sortOn, decide_eq_true_eq]
    constructor
    · rintro ⟨mem, sameKey⟩
      exact ⟨mem, fun other otherMember => by
        rw [sameKey]; exact firstLeast.2 other otherMember⟩
    · intro least
      exact ⟨least.1, least_key_unique key entries entry first least firstLeast⟩

theorem exists_least (entry : α) (mem : entry ∈ entries) : ∃ least, Least key entries least := by
  cases sorted : sortOn key entries with
  | nil =>
    have entriesNil := (sortOn_eq_nil_iff key entries).mp sorted
    rw [entriesNil] at mem
    exact absurd mem not_mem_nil
  | cons first rest => exact ⟨first, sortOn_head_least key entries rest first sorted⟩

/-! ## The first sorted entry -/

theorem head?_sortOn_cons (key : α → κ) (first : α) (rest : List α)
    (least : ∀ other ∈ rest, key first ≤ key other) :
    (sortOn key (first :: rest)).head? = some first := by
  have ins : sortOn key (first :: rest) =
    (sortOn key rest).orderedInsert (fun left right => key left ≤ key right) first := rfl
  rw [ins]
  cases sorted : sortOn key rest with
  | nil => rfl
  | cons second others =>
    have mem : second ∈ rest := (mem_sortOn key rest second).mp (by simp [sorted])
    rw [orderedInsert_cons, if_pos (least second mem)]
    rfl

/-! ## Entries that no selection takes -/

/-- The second list is the first with unwanted entries put in anywhere. -/
inductive Inserted (unwanted : α → Prop) : List α → List α → Prop where
  | nil : Inserted unwanted [] []
  | keep {short long : List α} (entry : α) :
      Inserted unwanted short long → Inserted unwanted (entry :: short) (entry :: long)
  | put {short long : List α} {entry : α} (dropped : unwanted entry) :
      Inserted unwanted short long → Inserted unwanted short (entry :: long)

theorem Inserted.filter_eq {unwanted : α → Prop} {short long : List α}
    (ins : Inserted unwanted short long) {keep : α → Bool}
    (drops : ∀ entry, unwanted entry → keep entry = false) :
    short.filter keep = long.filter keep := by
  induction ins with
  | nil => rfl
  | keep entry _ ih =>
    rw [filter_cons, filter_cons, ih]
  | put dropped _ ih =>
    rw [filter_cons_of_neg (by simp [drops _ dropped]), ih]

theorem Inserted.mono {unwanted weaker : α → Prop} {short long : List α}
    (ins : Inserted unwanted short long) (implied : ∀ entry, unwanted entry → weaker entry) :
    Inserted weaker short long := by
  induction ins with
  | nil => exact .nil
  | keep entry _ ih => exact .keep entry ih
  | put dropped _ ih => exact .put (implied _ dropped) ih

theorem Inserted.subset {unwanted : α → Prop} {short long : List α}
    (ins : Inserted unwanted short long) : short ⊆ long := by
  induction ins with
  | nil => exact nil_subset _
  | keep entry _ ih => exact cons_subset_cons entry ih
  | put _ _ ih => exact subset_cons_of_subset _ ih

/-! ## Sorted lists with one order -/

theorem sortOn_eq_of_perm (sorted : List α) (rearranged : sorted.Perm entries)
    (increasing : sorted.Pairwise fun left right => key left < key right) :
    sortOn key entries = sorted := by
  have distinct : (sorted.map key).Nodup :=
    pairwise_map.mpr (increasing.imp fun less => ne_of_lt less)
  have permuted : (sortOn key entries).Perm sorted :=
    (perm_insertionSort _ entries).trans rearranged.symm
  refine permuted.eq_of_pairwise ?_ (sortOn_pairwise key entries)
    (increasing.imp fun less => le_of_lt less)
  intro left right leftMember rightMember below above
  exact inj_on_of_nodup_map distinct (permuted.mem_iff.mp leftMember) rightMember
    (le_antisymm below above)

theorem filter_orderedInsert (entry : α) (entries : List α)
    (ordered : entries.Pairwise fun left right => key left ≤ key right) :
    (entries.orderedInsert (fun left right => key left ≤ key right) entry).filter keep =
      if keep entry then
        (entries.filter keep).orderedInsert (fun left right => key left ≤ key right) entry
      else entries.filter keep := by
  induction entries with
  | nil => by_cases kept : keep entry = true <;> simp [kept]
  | cons first rest ih =>
    obtain ⟨firstLeast, restOrdered⟩ := pairwise_cons.mp ordered
    have restEq := ih restOrdered
    by_cases below : key entry ≤ key first
    · rw [orderedInsert_cons, if_pos below]
      by_cases kept : keep entry = true
      · rw [if_pos kept, filter_cons_of_pos kept]
        have least : ∀ other ∈ (first :: rest).filter keep, key entry ≤ key other := by
          intro other mem
          rcases mem_cons.mp (mem_of_mem_filter mem) with rfl | later
          · exact below
          · exact le_trans below (firstLeast other later)
        cases filtered : (first :: rest).filter keep with
        | nil => rfl
        | cons head tail =>
          rw [filtered] at least
          rw [orderedInsert_cons, if_pos (least head mem_cons_self)]
      · rw [if_neg kept, filter_cons_of_neg kept]
    · rw [orderedInsert_cons, if_neg below]
      by_cases firstKept : keep first = true
      · rw [filter_cons_of_pos firstKept, filter_cons_of_pos firstKept, restEq]
        by_cases kept : keep entry = true
        · rw [if_pos kept, if_pos kept, orderedInsert_cons, if_neg below]
        · rw [if_neg kept, if_neg kept]
      · rw [filter_cons_of_neg firstKept, filter_cons_of_neg firstKept, restEq]

theorem sortOn_filter (entries : List α) :
    sortOn key (entries.filter keep) = (sortOn key entries).filter keep := by
  induction entries with
  | nil => rfl
  | cons first rest ih =>
    have ins := filter_orderedInsert key keep first (sortOn key rest)
      (sortOn_pairwise key rest)
    rw [← ih] at ins
    by_cases kept : keep first = true
    · rw [filter_cons_of_pos kept]
      rw [if_pos kept] at ins
      exact ins.symm
    · rw [filter_cons_of_neg kept]
      rw [if_neg kept] at ins
      exact ins.symm

theorem head?_sortOn_filter (key : α → κ) (entries : List α) (least : α)
    (isLeast : Least key entries least) :
    (sortOn key (entries.filter fun entry => decide (key entry = key least))).head? =
      (sortOn key entries).head? := by
  rw [sortOn_filter]
  cases sorted : sortOn key entries with
  | nil =>
    have vacant := (sortOn_eq_nil_iff key entries).mp sorted
    rw [vacant] at isLeast
    cases isLeast.1
  | cons first rest =>
    have firstLeast := sortOn_head_least key entries rest first sorted
    have same := least_key_unique key entries first least firstLeast isLeast
    rw [filter_cons, decide_eq_true same, if_pos rfl]
    rfl

theorem filter_isPrefix (entries : List α)
    (closed : entries.Pairwise fun left right => keep right = true → keep left = true) :
    entries.filter keep <+: entries := by
  induction entries with
  | nil => exact prefix_refl _
  | cons first rest ih =>
    obtain ⟨firstKept, restClosed⟩ := pairwise_cons.mp closed
    by_cases kept : keep first = true
    · rw [filter_cons_of_pos kept]
      exact prefix_cons_inj first |>.mpr (ih restClosed)
    have dropped : rest.filter keep = [] := by
      rw [filter_eq_nil_iff]
      intro other mem otherKept
      exact kept (firstKept other mem otherKept)
    rw [filter_cons_of_neg kept, dropped]
    exact nil_prefix

theorem filter_take_of_closed (entries : List α)
    (closed : entries.Pairwise fun left right => keep right = true → keep left = true) :
    ∀ limit, (entries.take limit).filter keep = (entries.filter keep).take limit := by
  induction entries with
  | nil => simp
  | cons first rest ih =>
    obtain ⟨firstKept, restClosed⟩ := pairwise_cons.mp closed
    intro limit
    cases limit with
    | zero => simp
    | succ limit =>
      by_cases kept : keep first = true
      · rw [take_succ_cons, filter_cons_of_pos kept,
          filter_cons_of_pos kept, take_succ_cons, ih restClosed]
      have dropped : ∀ other ∈ rest, ¬ keep other = true :=
        fun other mem otherKept => kept (firstKept other mem otherKept)
      rw [take_succ_cons, filter_cons_of_neg kept,
        filter_cons_of_neg kept, filter_eq_nil_iff.mpr dropped,
        take_nil, filter_eq_nil_iff]
      intro other mem
      exact dropped other (mem_of_mem_take mem)

end Portcullis.Lib.Ranked
