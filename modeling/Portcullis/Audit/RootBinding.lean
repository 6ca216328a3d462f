import Portcullis.Audit.Tamper

/-!
# What the root of the audit log determines

`get_root_hash` of `app/audit/tamper.py`.  On a level of odd length the last node is joined
with itself, so a log and the same log with its last entries repeated can have one root.
Without collisions nothing else is confused: the root determines the filled-up sequence of
payloads, and with the number of entries the log.
-/

namespace Portcullis.Audit.RootBinding

open Audit.Tamper Lib Lib.Merkle List

section Definitions

variable (hashData : ByteArray → String) (float : Int → Int → String)

def payloadTexts (entries : List AuditChainEntry) : List String :=
  entries.map fun entry => canonical float entry.payload

/-- The byte strings hashed while two trees are built. -/
def hashedForBoth (entries others : List AuditChainEntry) : List ByteArray :=
  (treeTexts hashData float entries ++ treeTexts hashData float others).map String.toUTF8

def leafHashes (entries : List AuditChainEntry) : List String :=
  (leafTexts float entries).map fun text => hashData text.toUTF8

/-- Logs of one length whose payloads are equal in pairs. -/
def SamePayloads (entries others : List AuditChainEntry) : Prop :=
  entries.length = others.length ∧
    ∀ pair ∈ entries.zip others, Json.Equal float (.obj pair.1.payload) (.obj pair.2.payload)

end Definitions

section Trees

variable {hashData : ByteArray → String} {float : Int → Int → String}

theorem leafTexts_ne_nil (entries : List AuditChainEntry) : leafTexts float entries ≠ [] := by
  cases entries with
  | nil => exact cons_ne_nil _ _
  | cons entry rest => exact cons_ne_nil _ _

theorem hashes_buildLeaves (entries : List AuditChainEntry) :
    (buildLeaves hashData float entries).map MerkleNode.hash =
      entries.map fun entry => payloadHash hashData float entry.payload := by
  refine ext_getElem? fun index => ?_
  rw [getElem?_buildLeaves, List.getElem?_map]

theorem trees_buildLeaves (entries : List AuditChainEntry) :
    (buildLeaves hashData float entries).map MerkleNode.tree =
      (entries.map fun entry => payloadHash hashData float entry.payload).map Merkle.Tree.leaf := by
  rw [← hashes_buildLeaves, buildLeaves, map_map, map_map, map_map]
  rfl

theorem tree_buildTree (entries : List AuditChainEntry) :
    (buildTree hashData (buildLeaves hashData float entries)).tree =
      built (hashData "empty".toUTF8) (leafHashes hashData float entries) := by
  have joined : ∀ left right, (parent hashData left right).tree = .node left.tree right.tree :=
    fun _ _ => rfl
  have seen : (buildTree hashData (buildLeaves hashData float entries)).tree =
      top Merkle.Tree.node (.leaf (hashData "empty".toUTF8))
        ((buildLeaves hashData float entries).map MerkleNode.tree) :=
    view_top MerkleNode.tree joined _ _
  rw [seen, built, trees_buildLeaves]
  cases entries with
  | nil => simp [leafHashes, leafTexts, top]
  | cons entry rest =>
    have texts : leafHashes hashData float (entry :: rest) =
        (entry :: rest).map fun entry => payloadHash hashData float entry.payload := by
      rw [leafHashes, leafTexts, if_neg (by simp), map_map]
      rfl
    rw [texts]

theorem leaves_buildTree (entries : List AuditChainEntry) :
    (buildTree hashData (buildLeaves hashData float entries)).tree.leaves =
      (filled (leafTexts float entries)).map fun text => hashData text.toUTF8 := by
  rw [tree_buildTree, leaves_built, leafHashes, filled_map]
  exact fun empty => leafTexts_ne_nil entries (map_eq_nil_iff.mp empty)

theorem pair_not_mem_leafTexts {left : String} (digest : IsDigest left) (right : String)
    (entries : List AuditChainEntry) : left ++ right ∉ leafTexts float entries := by
  have step : stepText left ⟨right, "right"⟩ = left ++ right := if_neg (by simp)
  rw [← step]
  exact stepText_not_mem_leafTexts digest _ entries

theorem pair_eq_of_append {pair other : String × String} (digest : IsDigest pair.1)
    (otherDigest : IsDigest other.1) (same : pair.1 ++ pair.2 = other.1 ++ other.2) :
    pair = other := by
  have chars := congrArg String.toList same
  rw [String.toList_append, String.toList_append] at chars
  obtain ⟨first, second⟩ := append_inj chars
    (digest.toList_length.trans otherDigest.toList_length.symm)
  exact Prod.ext (String.toList_inj.mp first) (String.toList_inj.mp second)

variable {entries others : List AuditChainEntry}

theorem separated_of_collisionFree (digests : ∀ data, IsDigest (hashData data))
    (free : CollisionFree hashData (hashedForBoth hashData float entries others)) :
    Merkle.Tree.Separated (hashPair hashData)
      (buildTree hashData (buildLeaves hashData float entries)).tree
      (buildTree hashData (buildLeaves hashData float others)).tree := by
  have rooted : Rooted hashData float entries _ := rooted_buildTree digests entries
  have otherRooted : Rooted hashData float others _ := rooted_buildTree digests others
  refine ⟨?leaf, ?other, ?node⟩
  case leaf =>
    intro leaf mem pair inside same
    obtain ⟨text, known, rfl⟩ := rooted.leaves leaf mem
    obtain ⟨joined, digest, -⟩ := otherRooted.joined pair inside
    have texts := free.text (mem_append_left _ (mem_append_left _ known))
      (mem_append_right _ (mem_append_right _ joined)) same
    exact pair_not_mem_leafTexts digest _ entries (texts ▸ known)
  case other =>
    intro leaf mem pair inside same
    obtain ⟨text, known, rfl⟩ := otherRooted.leaves leaf mem
    obtain ⟨joined, digest, -⟩ := rooted.joined pair inside
    have texts := free.text (mem_append_right _ (mem_append_left _ known))
      (mem_append_left _ (mem_append_right _ joined)) same
    exact pair_not_mem_leafTexts digest _ others (texts ▸ known)
  case node =>
    intro pair mem other inside same
    obtain ⟨joined, digest, -⟩ := rooted.joined pair mem
    obtain ⟨otherJoined, otherDigest, -⟩ := otherRooted.joined other inside
    have texts := free.text (mem_append_left _ (mem_append_right _ joined))
      (mem_append_right _ (mem_append_right _ otherJoined)) same
    exact pair_eq_of_append digest otherDigest texts

theorem eq_of_map_eq {Value Image : Type} {view : Value → Image} {left right : List Value}
    (injective : ∀ value ∈ left, ∀ other ∈ right, view value = view other → value = other)
    (same : left.map view = right.map view) : left = right := by
  induction left generalizing right with
  | nil => exact (map_eq_nil_iff.mp same.symm).symm
  | cons value rest ih =>
    cases right with
    | nil => cases same
    | cons other others =>
      rw [map_cons, map_cons, cons_eq_cons] at same
      rw [injective value mem_cons_self other mem_cons_self same.1,
        ih (fun value mem other inside => injective value (mem_cons_of_mem _ mem)
          other (mem_cons_of_mem _ inside)) same.2]

theorem filled_eq_of_root (digests : ∀ data, IsDigest (hashData data))
    (free : CollisionFree hashData (hashedForBoth hashData float entries others))
    (same : getRootHash hashData float entries = getRootHash hashData float others) :
    filled (leafTexts float entries) = filled (leafTexts float others) := by
  have rooted : Rooted hashData float entries _ := rooted_buildTree digests entries
  have otherRooted : Rooted hashData float others _ := rooted_buildTree digests others
  rw [getRootHash, getRootHash, ← rooted.hash, ← otherRooted.hash] at same
  have trees := Merkle.Tree.eq_of_root_eq (separated_of_collisionFree digests free) same
  have leaves := congrArg Merkle.Tree.leaves trees
  rw [leaves_buildTree, leaves_buildTree] at leaves
  refine eq_of_map_eq (fun text mem other inside hashes => ?_) leaves
  exact free.text (mem_append_left _ (mem_append_left _ (mem_of_mem_filled mem)))
    (mem_append_right _ (mem_append_left _ (mem_of_mem_filled inside))) hashes

theorem root_eq_of_filled (digests : ∀ data, IsDigest (hashData data))
    (same : filled (leafTexts float entries) = filled (leafTexts float others)) :
    getRootHash hashData float entries = getRootHash hashData float others := by
  have rooted : Rooted hashData float entries _ := rooted_buildTree digests entries
  have otherRooted : Rooted hashData float others _ := rooted_buildTree digests others
  have hashes : filled (leafHashes hashData float entries) =
      filled (leafHashes hashData float others) := by
    rw [leafHashes, leafHashes, filled_map, filled_map, same]
  have ne : ∀ entries, leafHashes hashData float entries ≠ [] := fun entries empty =>
    leafTexts_ne_nil entries (map_eq_nil_iff.mp empty)
  rw [getRootHash, getRootHash, ← rooted.hash, ← otherRooted.hash, tree_buildTree, tree_buildTree,
    built_eq_of_filled (ne entries) (ne others) hashes]

/-- The text that stands for no entries is no payload. -/
theorem filled_leafTexts_iff : filled (leafTexts float entries) = filled (leafTexts float others) ↔
      filled (payloadTexts float entries) = filled (payloadTexts float others) := by
  have texts : ∀ {entries : List AuditChainEntry}, entries ≠ [] →
      leafTexts float entries = payloadTexts float entries := fun ne =>
    if_neg (by simpa using ne)
  have apart : ∀ {entries : List AuditChainEntry}, entries ≠ [] →
      filled (leafTexts float []) ≠ filled (leafTexts float entries) ∧
        filled (payloadTexts float []) ≠ filled (payloadTexts float entries) := by
    intro entries ne
    have short : filled (leafTexts float []) = ["empty"] := by simp [filled, leafTexts, top]
    have none : filled (payloadTexts float []) = [] := by simp [filled, payloadTexts, top]
    rw [short, none, texts ne]
    refine ⟨fun same => ?_, fun same => ?_⟩
    · have mem := mem_of_mem_filled (same ▸ mem_singleton_self "empty")
      obtain ⟨entry, -, text⟩ := mem_map.mp mem
      obtain ⟨inner, shape⟩ := Json.dumpsSorted_obj float entry.payload
      rw [← canonical, text] at shape
      exact absurd shape (by simp)
    · have shorter := prefix_filled (payloadTexts float entries)
      rw [← same, prefix_nil] at shorter
      exact ne (map_eq_nil_iff.mp shorter)
  by_cases first : entries = []
  · by_cases second : others = []
    · rw [first, second]
      exact iff_of_true rfl rfl
    · rw [first]
      exact iff_of_false (apart second).1 (apart second).2
  · by_cases second : others = []
    · rw [second]
      exact iff_of_false (apart first).1.symm (apart first).2.symm
    · rw [texts first, texts second]

theorem payloadTexts_eq_of_filled (lengths : entries.length = others.length)
    (same : filled (payloadTexts float entries) = filled (payloadTexts float others)) :
    payloadTexts float entries = payloadTexts float others := by
  have first := prefix_filled (payloadTexts float entries)
  have second := prefix_filled (payloadTexts float others)
  rw [← same] at second
  refine (prefix_of_prefix_length_le first second ?_).eq_of_length ?_ <;>
    simp [payloadTexts, lengths]

theorem samePayloads_of_texts
    (floats : ∀ mantissa exponent, Json.IsFloatText (float mantissa exponent))
    (same : payloadTexts float entries = payloadTexts float others) :
    SamePayloads float entries others := by
  induction entries generalizing others with
  | nil =>
    rw [map_eq_nil_iff.mp same.symm]
    exact ⟨rfl, fun pair mem => absurd mem not_mem_nil⟩
  | cons entry rest ih =>
    cases others with
    | nil => cases same
    | cons other remaining =>
      obtain ⟨text, later⟩ := cons_eq_cons.mp same
      obtain ⟨lengths, pairs⟩ := ih later
      refine ⟨congrArg (· + 1) lengths, fun pair mem => ?_⟩
      rcases mem_cons.mp mem with rfl | inside
      · exact Json.equal_of_dumpsSorted floats text
      · exact pairs pair inside

end Trees

/-- Equal roots mean equal logs exactly if the logs have one length or are filled up to
different sequences of payloads. -/
theorem root_binds_iff (hashData : ByteArray → String) (float : Int → Int → String)
    (floats : ∀ mantissa exponent, Json.IsFloatText (float mantissa exponent))
    (digests : ∀ data, IsDigest (hashData data)) (entries others : List AuditChainEntry)
    (free : CollisionFree hashData (hashedForBoth hashData float entries others)) :
    (getRootHash hashData float entries = getRootHash hashData float others →
        SamePayloads float entries others) ↔
      (entries.length = others.length ∨
        filled (payloadTexts float entries) ≠ filled (payloadTexts float others)) := by
  constructor
  · intro binds
    by_cases same : filled (payloadTexts float entries) = filled (payloadTexts float others)
    · exact .inl (binds (root_eq_of_filled digests (filled_leafTexts_iff.mpr same))).1
    · exact .inr same
  · intro condition root
    have same := filled_leafTexts_iff.mp (filled_eq_of_root digests free root)
    rcases condition with lengths | ne
    · exact samePayloads_of_texts floats (payloadTexts_eq_of_filled lengths same)
    · exact absurd same ne

/-! ### Three entries and four -/

/-- Digests that tell payloads by their size and pairs by their first character. -/
def markDigest (data : ByteArray) : String :=
  .ofList (List.replicate 64
    (if data.size = 2 then '0' else if data.size = 11 then '1' else if data.size = 12 then '2'
      else if data[0]? = some 48 then '3' else if data[0]? = some 50 then '4' else '5'))

theorem isDigest_markDigest (data : ByteArray) : IsDigest (markDigest data) := by
  refine ⟨?_, fun char mem => ?_⟩
  · rw [markDigest, String.length_ofList, length_replicate]
  · rw [markDigest, String.toList_ofList] at mem
    rw [eq_of_mem_replicate mem]
    split_ifs <;> decide

def zeroFloat (_ _ : Int) : String := "0.0"

def threeEntries : List AuditChainEntry := [⟨[]⟩, ⟨[("a", .null)]⟩, ⟨[("bb", .null)]⟩]

def fourEntries : List AuditChainEntry :=
  [⟨[]⟩, ⟨[("a", .null)]⟩, ⟨[("bb", .null)]⟩, ⟨[("bb", .null)]⟩]

def sign (char : Char) : String := .ofList (List.replicate 64 char)

theorem leafHashes_three : payloadHash markDigest zeroFloat [] = sign '0' ∧
      payloadHash markDigest zeroFloat [("a", .null)] = sign '1' ∧
      payloadHash markDigest zeroFloat [("bb", .null)] = sign '2' := by
  decide

theorem pairHashes_three : hashPair markDigest (sign '0') (sign '1') = sign '3' ∧
      hashPair markDigest (sign '2') (sign '2') = sign '4' := by
  decide +kernel

theorem collisionFree_three_four :
    CollisionFree markDigest (hashedForBoth markDigest zeroFloat threeEntries fourEntries) := by
  have three : treeTexts markDigest zeroFloat threeEntries =
      [canonical zeroFloat [], canonical zeroFloat [("a", .null)],
        canonical zeroFloat [("bb", .null)], sign '3' ++ sign '4', sign '0' ++ sign '1',
        sign '2' ++ sign '2'] := by
    simp [treeTexts, leafTexts, threeEntries, buildTree, buildLeaves, top, pairUp, parent,
      MerkleNode.hash, MerkleNode.joined, leafHashes_three, pairHashes_three]
  have four : treeTexts markDigest zeroFloat fourEntries =
      [canonical zeroFloat [], canonical zeroFloat [("a", .null)],
        canonical zeroFloat [("bb", .null)], canonical zeroFloat [("bb", .null)],
        sign '3' ++ sign '4', sign '0' ++ sign '1', sign '2' ++ sign '2'] := by
    simp [treeTexts, leafTexts, fourEntries, buildTree, buildLeaves, top, pairUp, parent,
      MerkleNode.hash, MerkleNode.joined, leafHashes_three, pairHashes_three]
  rw [hashedForBoth, three, four]
  show ∀ first ∈ _, ∀ second ∈ _, _
  decide +kernel

theorem isFloatText_zeroFloat (mantissa exponent : Int) :
    Json.IsFloatText (zeroFloat mantissa exponent) :=
  .inr (.inr ⟨by simp [zeroFloat], '.', by simp [zeroFloat], .inl rfl⟩)

/-- Equal roots of two logs of different length, without any collision. -/
theorem repeated_entry_keeps_root : (∀ data, IsDigest (markDigest data)) ∧
      CollisionFree markDigest (hashedForBoth markDigest zeroFloat threeEntries fourEntries) ∧
      getRootHash markDigest zeroFloat threeEntries = getRootHash markDigest zeroFloat fourEntries ∧
      ¬ SamePayloads zeroFloat threeEntries fourEntries := by
  refine ⟨isDigest_markDigest, collisionFree_three_four, ?_, fun same => ?_⟩
  · simp [getRootHash_eq, hashes_buildLeaves, threeEntries, fourEntries, top, pairUp]
  · exact absurd same.1 (by decide)

theorem root_binds_iff_three_four : ¬ (getRootHash markDigest zeroFloat threeEntries =
        getRootHash markDigest zeroFloat fourEntries →
      SamePayloads zeroFloat threeEntries fourEntries) := by
  rw [root_binds_iff markDigest zeroFloat isFloatText_zeroFloat isDigest_markDigest threeEntries
    fourEntries collisionFree_three_four]
  rintro (lengths | ne)
  · exact absurd lengths (by decide)
  · exact ne (by simp [filled, payloadTexts, threeEntries, fourEntries, top, pairUp])

end Portcullis.Audit.RootBinding
