import Portcullis.Lib.JsonText
import Portcullis.Lib.Merkle

/-!
# Merkle proofs of audit entries

`MerkleTree` of `app/audit/tamper.py`.  `get_proof` walks the levels of the tree a second
time and records a sibling on each; the path it records is the one of the entry.  Leaves and
inner nodes are hashed alike, but a leaf text is a JSON object and an inner text is made of
hexadecimal digests, so that a proof accepted against the root is a proof of an entry.
-/

namespace Portcullis.Audit.Tamper

open Lib Lib.Merkle List

structure AuditChainEntry where
  payload : Json.Members

inductive MerkleNode where
  | blank (hash : String)
  | leaf (hash : String) (data : AuditChainEntry) (index : Nat)
  | inner (hash : String) (left right : MerkleNode)

def MerkleNode.hash : MerkleNode → String
  | .blank hash => hash
  | .leaf hash _ _ => hash
  | .inner hash _ _ => hash

/-- A step of a proof; every position but `left` counts as right. -/
structure ProofStep where
  hash : String
  position : String
  deriving DecidableEq, Repr

/-- `json.dumps(payload, sort_keys=True)`. -/
def canonical (float : Int → Int → String) (payload : Json.Members) : String :=
  Json.dumpsSorted float (.obj payload)

section Code

variable (hashData : ByteArray → String) (float : Int → Int → String)

def hashPair (left right : String) : String := hashData (left ++ right).toUTF8

def payloadHash (payload : Json.Members) : String := hashData (canonical float payload).toUTF8

def buildLeaves (entries : List AuditChainEntry) : List MerkleNode :=
  entries.zipIdx.map fun item => .leaf (payloadHash hashData float item.1.payload) item.1 item.2

def parent (left right : MerkleNode) : MerkleNode :=
  .inner (hashPair hashData left.hash right.hash) left right

def buildTree (leaves : List MerkleNode) : MerkleNode :=
  top (parent hashData) (.blank (hashData "empty".toUTF8)) leaves

def getRootHash (entries : List AuditChainEntry) : String :=
  (buildTree hashData (buildLeaves hashData float entries)).hash

/-- What the pair at `place` adds to the proof. -/
def recorded (target place : Nat) (left right : MerkleNode) : List ProofStep :=
  if target = place ∨ target = place + 1 then
    [if target = place then ⟨right.hash, "right"⟩ else ⟨left.hash, "left"⟩]
  else []

/-- One level of `get_proof`: the steps that are recorded and the next level. -/
def scanLevel (target : Nat) : Nat → List MerkleNode → List ProofStep × List MerkleNode
  | _, [] => ([], [])
  | place, [last] => (recorded target place last last, [parent hashData last last])
  | place, left :: right :: rest =>
    let later := scanLevel target (place + 2) rest
    (recorded target place left right ++ later.1, parent hashData left right :: later.2)

theorem scanLevel_next (target place : Nat) (level : List MerkleNode) :
    (scanLevel hashData target place level).2 = pairUp (parent hashData) level := by
  induction place, level using scanLevel.induct hashData target with
  | case1 place => rfl
  | case2 place last => rfl
  | case3 place left right rest ih => rw [scanLevel, pairUp, ih]

def proofFrom (target : Nat) : List MerkleNode → List ProofStep
  | [] => []
  | [_] => []
  | left :: right :: rest =>
    let scanned := scanLevel hashData target 0 (left :: right :: rest)
    scanned.1 ++ proofFrom (target / 2) scanned.2
termination_by level => level.length
decreasing_by
  rw [scanLevel_next, length_pairUp]
  simp only [length_cons]
  omega

def getProof (entries : List AuditChainEntry) (index : Nat) : List ProofStep :=
  if entries.isEmpty || decide (entries.length ≤ index) then []
  else proofFrom hashData index (buildLeaves hashData float entries)

def advance (current : String) (step : ProofStep) : String :=
  if step.position = "left" then hashPair hashData step.hash current
  else hashPair hashData current step.hash

def verifyProof (leafHash : String) (proof : List ProofStep) (rootHash : String) : Bool :=
  decide (proof.foldl (advance hashData) leafHash = rootHash)

end Code

/-! ## Proofs as paths -/

section Paths

variable {hashData : ByteArray → String} {float : Int → Int → String}

def stepOf (step : ProofStep) : Step String := ⟨step.hash, decide (step.position = "left")⟩

theorem advance_eq (current : String) (step : ProofStep) :
    advance hashData current step = ascend (hashPair hashData) current (stepOf step) := by
  simp only [advance, ascend, stepOf, decide_eq_true_iff]

theorem climb_map_stepOf (leafHash : String) (proof : List ProofStep) :
    climb (hashPair hashData) leafHash (proof.map stepOf) =
      proof.foldl (advance hashData) leafHash := by
  rw [climb, foldl_map]
  simp only [← advance_eq]

theorem verifyProof_iff (leafHash : String) (proof : List ProofStep) (rootHash : String) :
    verifyProof hashData leafHash proof rootHash = true ↔
      climb (hashPair hashData) leafHash (proof.map stepOf) = rootHash := by
  rw [verifyProof, decide_eq_true_iff, climb_map_stepOf]

theorem getRootHash_eq (entries : List AuditChainEntry) :
    getRootHash hashData float entries = top (hashPair hashData) (hashData "empty".toUTF8)
      ((buildLeaves hashData float entries).map MerkleNode.hash) :=
  view_top MerkleNode.hash (fun _ _ => rfl) _ _

theorem getElem?_buildLeaves (entries : List AuditChainEntry) (index : Nat) :
    ((buildLeaves hashData float entries).map MerkleNode.hash)[index]? =
      entries[index]?.map fun entry => payloadHash hashData float entry.payload := by
  rw [buildLeaves, map_map, List.getElem?_map, List.getElem?_zipIdx, Option.map_map]
  rfl

theorem recorded_first (place : Nat) (left right : MerkleNode) :
    recorded place place left right = [⟨right.hash, "right"⟩] := by
  rw [recorded, if_pos (.inl rfl), if_pos rfl]

theorem recorded_second (place : Nat) (left right : MerkleNode) :
    recorded (place + 1) place left right = [⟨left.hash, "left"⟩] := by
  rw [recorded, if_pos (.inr rfl), if_neg (by omega)]

theorem recorded_other {target place : Nat} (first : target ≠ place)
    (second : target ≠ place + 1) (left right : MerkleNode) :
    recorded target place left right = [] := by
  rw [recorded, if_neg (not_or.mpr ⟨first, second⟩)]

theorem scanLevel_passed {target place : Nat} (passed : target < place)
    (level : List MerkleNode) : (scanLevel hashData target place level).1 = [] := by
  induction place, level using scanLevel.induct hashData target with
  | case1 place => rfl
  | case2 place last => exact recorded_other (by omega) (by omega) last last
  | case3 place left right rest ih =>
    rw [scanLevel, ih (by omega), recorded_other (by omega) (by omega)]
    rfl

theorem scanLevel_steps (level : List MerkleNode) (place offset : Nat)
    (within : offset < level.length) :
    (scanLevel hashData (place + offset) place level).1.map stepOf =
      (stepAt (level.map MerkleNode.hash) offset).toList := by
  induction level, offset using stepAt.induct generalizing place with
  | case1 offset => cases within
  | case2 last =>
    rw [scanLevel, Nat.add_zero, recorded_first]
    rfl
  | case3 last offset => simp at within
  | case4 left right rest =>
    rw [scanLevel, Nat.add_zero, recorded_first, scanLevel_passed (by omega)]
    rfl
  | case5 left right rest =>
    rw [scanLevel, recorded_second, scanLevel_passed (by omega)]
    rfl
  | case6 left right rest offset ih =>
    have later := ih (place + 2) (by simpa using within)
    rw [show place + 2 + offset = place + (offset + 2) by omega] at later
    rw [scanLevel, recorded_other (by omega) (by omega), nil_append]
    exact later

theorem proofFrom_eq (level : List MerkleNode) (target : Nat) (within : target < level.length) :
    (proofFrom hashData target level).map stepOf =
      pathTo (hashPair hashData) (level.map MerkleNode.hash) target := by
  induction target, level using proofFrom.induct hashData with
  | case1 target => cases within
  | case2 target root => simp only [proofFrom, map_cons, map_nil, pathTo]
  | case3 target left right rest scanned ih =>
    have steps := @scanLevel_steps hashData (left :: right :: rest) 0 target within
    rw [Nat.zero_add] at steps
    have above : target / 2 < scanned.2.length := by
      rw [scanLevel_next, length_pairUp]
      omega
    have parents : (pairUp (parent hashData) (left :: right :: rest)).map MerkleNode.hash =
        pairUp (hashPair hashData) ((left :: right :: rest).map MerkleNode.hash) :=
      map_pairUp MerkleNode.hash (fun _ _ => rfl) _
    rw [proofFrom, map_append, steps, ih above, scanLevel_next, parents]
    rw [map_cons, map_cons, pathTo]

end Paths

/-! ## Completeness -/

/-- The proof of an entry is accepted. -/
theorem own_proof_accepted (hashData : ByteArray → String) (float : Int → Int → String)
    (entries : List AuditChainEntry) (index : Nat) (within : index < entries.length) :
    verifyProof hashData (payloadHash hashData float entries[index].payload)
      (getProof hashData float entries index) (getRootHash hashData float entries) = true := by
  have ne : entries.isEmpty = false := by
    cases entries with
    | nil => cases within
    | cons entry rest => rfl
  have found : ((buildLeaves hashData float entries).map MerkleNode.hash)[index]? =
      some (payloadHash hashData float entries[index].payload) := by
    rw [getElem?_buildLeaves, List.getElem?_eq_getElem within]
    rfl
  have length : (buildLeaves hashData float entries).length = entries.length := by
    rw [buildLeaves, length_map, length_zipIdx]
  rw [verifyProof_iff, getProof, ne, Bool.false_or, if_neg (by simpa using within),
    proofFrom_eq _ _ (by omega), getRootHash_eq]
  exact climb_pathTo _ _ found

theorem own_proof_accepted_last_of_three : 2 < 3 ∧ verifyProof (fun data => toString data.size)
      (payloadHash (fun data => toString data.size) (fun _ _ => "") [("a", .null)])
      (getProof (fun data => toString data.size) (fun _ _ => "")
        [⟨[]⟩, ⟨[("b", .null)]⟩, ⟨[("a", .null)]⟩] 2)
      (getRootHash (fun data => toString data.size) (fun _ _ => "")
        [⟨[]⟩, ⟨[("b", .null)]⟩, ⟨[("a", .null)]⟩]) = true :=
  ⟨by decide, own_proof_accepted _ _ [⟨[]⟩, ⟨[("b", .null)]⟩, ⟨[("a", .null)]⟩] 2 (by decide)⟩

/-! ## What is hashed -/

def IsDigest (text : String) : Prop :=
  text.length = 64 ∧ ∀ char ∈ text.toList, char ∈ "0123456789abcdefABCDEF".toList

/-- The texts that were hashed for the inner nodes of a tree. -/
def MerkleNode.joined : MerkleNode → List String
  | .blank _ => []
  | .leaf _ _ _ => []
  | .inner _ left right => (left.hash ++ right.hash) :: (left.joined ++ right.joined)

def leafTexts (float : Int → Int → String) (entries : List AuditChainEntry) : List String :=
  if entries.isEmpty then ["empty"] else entries.map fun entry => canonical float entry.payload

/-- The text that `verify_proof` hashes at a step. -/
def stepText (current : String) (step : ProofStep) : String :=
  if step.position = "left" then step.hash ++ current else current ++ step.hash

section Hashed

variable (hashData : ByteArray → String) (float : Int → Int → String)

def treeTexts (entries : List AuditChainEntry) : List String :=
  leafTexts float entries ++ (buildTree hashData (buildLeaves hashData float entries)).joined

def proofTexts : String → List ProofStep → List String
  | _, [] => []
  | current, step :: rest =>
    stepText current step :: proofTexts (advance hashData current step) rest

/-- The byte strings hashed while the tree is built, for the payload and along the proof. -/
def hashedBytes (entries : List AuditChainEntry) (payload : Json.Members)
    (proof : List ProofStep) : List ByteArray :=
  (treeTexts hashData float entries ++ canonical float payload ::
    proofTexts hashData (payloadHash hashData float payload) proof).map String.toUTF8

def CollisionFree (inputs : List ByteArray) : Prop :=
  ∀ first ∈ inputs, ∀ second ∈ inputs, hashData first = hashData second → first = second

end Hashed

section Texts

variable {hashData : ByteArray → String} {float : Int → Int → String}

theorem advance_eq_hash (current : String) (step : ProofStep) :
    advance hashData current step = hashData (stepText current step).toUTF8 := by
  rw [advance, stepText]
  split <;> rfl

theorem mem_proofTexts (current : String) (front : List ProofStep) (step : ProofStep)
    (rest : List ProofStep) :
    stepText (front.foldl (advance hashData) current) step ∈
      proofTexts hashData current (front ++ step :: rest) := by
  induction front generalizing current with
  | nil => exact mem_cons_self
  | cons first later ih => exact mem_cons_of_mem _ (ih _)

theorem toUTF8_injective {first second : String} (same : first.toUTF8 = second.toUTF8) :
    first = second := by
  exact String.toByteArray_inj.mp same

theorem CollisionFree.text {texts : List String}
    (free : CollisionFree hashData (texts.map String.toUTF8)) {first second : String}
    (known : first ∈ texts) (other : second ∈ texts)
    (same : hashData first.toUTF8 = hashData second.toUTF8) : first = second :=
  toUTF8_injective (free _ (mem_map_of_mem known) _ (mem_map_of_mem other) same)

theorem isDigest_foldl (digests : ∀ data, IsDigest (hashData data)) {current : String}
    (digest : IsDigest current) (proof : List ProofStep) :
    IsDigest (proof.foldl (advance hashData) current) := by
  induction proof generalizing current with
  | nil => exact digest
  | cons step rest ih =>
    refine ih ?_
    rw [advance_eq_hash]
    exact digests _

theorem IsDigest.toList_length {text : String} (digest : IsDigest text) :
    text.toList.length = 64 := by
  exact digest.1

theorem IsDigest.not_mem {text : String} (digest : IsDigest text) (char : Char)
    (other : char ∉ "0123456789abcdefABCDEF".toList) : char ∉ text.toList :=
  fun mem => other (digest.2 char mem)

theorem canonical_ne_digest_append {digest : String} (isDigest : IsDigest digest)
    (payload : Json.Members) (tail : String) : canonical float payload ≠ digest ++ tail := by
  intro same
  obtain ⟨inner, shape⟩ := Json.dumpsSorted_obj float payload
  have texts : '{' :: (inner ++ ['}']) = digest.toList ++ tail.toList := by
    rw [← shape, ← String.toList_append, ← same, canonical]
  cases chars : digest.toList with
  | nil =>
    have length := isDigest.toList_length
    rw [chars] at length
    cases length
  | cons char rest =>
    rw [chars, cons_append, cons_eq_cons] at texts
    refine isDigest.not_mem '{' (by decide) ?_
    rw [chars, texts.1]
    exact mem_cons_self

theorem canonical_ne_append_digest {digest : String} (isDigest : IsDigest digest)
    (payload : Json.Members) (head : String) : canonical float payload ≠ head ++ digest := by
  intro same
  obtain ⟨inner, shape⟩ := Json.dumpsSorted_obj float payload
  have texts : ('{' :: inner) ++ ['}'] = head.toList ++ digest.toList := by
    rw [cons_append, ← shape, ← String.toList_append, ← same, canonical]
  cases digest.toList.eq_nil_or_concat with
  | inl empty =>
    have length := isDigest.toList_length
    rw [empty] at length
    cases length
  | inr ending =>
    obtain ⟨front, char, chars⟩ := ending
    rw [chars, concat_eq_append, ← append_assoc] at texts
    refine isDigest.not_mem '}' (by decide) ?_
    rw [chars, concat_eq_append, ← append_inj_right' texts rfl]
    exact mem_append_right _ (mem_singleton_self _)

theorem stepText_not_mem_leafTexts {current : String} (digest : IsDigest current)
    (step : ProofStep) (entries : List AuditChainEntry) :
    stepText current step ∉ leafTexts float entries := by
  intro mem
  rw [leafTexts] at mem
  split at mem
  · have text := mem_singleton.mp mem
    have short : (stepText current step).length = 5 := by
      rw [text]
      rfl
    have long : 64 ≤ (stepText current step).length := by
      rw [stepText]
      split <;> rw [String.length_append, digest.1] <;> omega
    omega
  · obtain ⟨entry, _, text⟩ := mem_map.mp mem
    rw [stepText] at text
    split at text
    · exact canonical_ne_append_digest digest _ _ text
    · exact canonical_ne_digest_append digest _ _ text

theorem current_of_stepText {current left right : String} (currentDigest : IsDigest current)
    (leftDigest : IsDigest left) (rightDigest : IsDigest right) {step : ProofStep}
    (same : stepText current step = left ++ right) :
    current = if (stepOf step).onLeft then right else left := by
  have texts := congrArg String.toList same
  rw [stepText] at texts
  by_cases position : step.position = "left"
  · rw [if_pos position, String.toList_append, String.toList_append] at texts
    have lengths : current.toList.length = right.toList.length :=
      currentDigest.toList_length.trans rightDigest.toList_length.symm
    rw [stepOf, decide_eq_true position, if_pos rfl]
    exact String.toList_inj.mp (append_inj_right' texts lengths)
  · rw [if_neg position, String.toList_append, String.toList_append] at texts
    have lengths : current.toList.length = left.toList.length :=
      currentDigest.toList_length.trans leftDigest.toList_length.symm
    rw [stepOf, decide_eq_false position, if_neg Bool.false_ne_true]
    exact String.toList_inj.mp (append_inj_left texts lengths)

end Texts

/-! ## Soundness -/

def MerkleNode.tree : MerkleNode → Merkle.Tree String
  | .blank hash => .leaf hash
  | .leaf hash _ _ => .leaf hash
  | .inner _ left right => .node left.tree right.tree

section Soundness

variable {hashData : ByteArray → String} {float : Int → Int → String}

/-- What a node of the tree of `entries` holds. -/
structure Rooted (hashData : ByteArray → String) (float : Int → Int → String)
    (entries : List AuditChainEntry) (node : MerkleNode) : Prop where
  hash : node.tree.root (hashPair hashData) = node.hash
  digest : IsDigest node.hash
  joined : ∀ pair ∈ node.tree.joins (hashPair hashData),
    pair.1 ++ pair.2 ∈ node.joined ∧ IsDigest pair.1 ∧ IsDigest pair.2
  leaves : ∀ digest ∈ node.tree.leaves, ∃ text ∈ leafTexts float entries,
    digest = hashData text.toUTF8

theorem Rooted.parent {entries : List AuditChainEntry} {left right : MerkleNode}
    (digests : ∀ data, IsDigest (hashData data))
    (first : Rooted hashData float entries left) (second : Rooted hashData float entries right) :
    Rooted hashData float entries (parent hashData left right) where
  hash := by
    show hashPair hashData (left.tree.root _) (right.tree.root _) = _
    rw [first.hash, second.hash]
    rfl
  digest := digests _
  joined := by
    intro pair mem
    rcases mem_cons.mp mem with rfl | below
    · rw [first.hash, second.hash]
      exact ⟨mem_cons_self, first.digest, second.digest⟩
    rcases mem_append.mp below with inLeft | inRight
    · obtain ⟨text, rest⟩ := first.joined pair inLeft
      exact ⟨mem_cons_of_mem _ (mem_append_left _ text), rest⟩
    · obtain ⟨text, rest⟩ := second.joined pair inRight
      exact ⟨mem_cons_of_mem _ (mem_append_right _ text), rest⟩
  leaves := by
    intro digest mem
    rcases mem_append.mp mem with inLeft | inRight
    · exact first.leaves digest inLeft
    · exact second.leaves digest inRight

theorem Rooted.of_leaf {entries : List AuditChainEntry} {node : MerkleNode} {text : String}
    (digests : ∀ data, IsDigest (hashData data)) (known : text ∈ leafTexts float entries)
    (hash : node.hash = hashData text.toUTF8) (tree : node.tree = .leaf node.hash) :
    Rooted hashData float entries node where
  hash := by rw [tree, Merkle.Tree.root]
  digest := by rw [hash]; exact digests _
  joined := by rw [tree]; exact fun pair mem => (not_mem_nil mem).elim
  leaves := by
    rw [tree]
    intro digest mem
    exact ⟨text, known, (mem_singleton.mp mem).trans hash⟩

theorem rooted_buildTree (digests : ∀ data, IsDigest (hashData data))
    (entries : List AuditChainEntry) :
    Rooted hashData float entries (buildTree hashData (buildLeaves hashData float entries)) := by
  refine top_induction _ (Rooted hashData float entries)
    (fun left right first second => first.parent digests second) ?vacant ?leaves
  case vacant =>
    intro none
    have empty : entries = [] := by
      rw [buildLeaves, map_eq_nil_iff, zipIdx_eq_nil_iff] at none
      exact none
    subst empty
    exact .of_leaf digests (mem_singleton_self "empty") rfl rfl
  case leaves =>
    intro node mem
    obtain ⟨item, inside, rfl⟩ := mem_map.mp mem
    have entry : item.1 ∈ entries := fst_mem_of_mem_zipIdx inside
    have known : canonical float item.1.payload ∈ leafTexts float entries := by
      rw [leafTexts, if_neg (by simpa using ne_nil_of_mem entry)]
      exact mem_map_of_mem entry
    exact .of_leaf digests known rfl rfl

theorem distinguished_of_collisionFree {entries : List AuditChainEntry} {payload : Json.Members}
    {proof : List ProofStep} (digests : ∀ data, IsDigest (hashData data))
    (free : CollisionFree hashData (hashedBytes hashData float entries payload proof)) :
    Merkle.Tree.Distinguished (hashPair hashData)
      (buildTree hashData (buildLeaves hashData float entries)).tree
      (payloadHash hashData float payload) (proof.map stepOf) := by
  have rooted : Rooted hashData float entries _ := rooted_buildTree digests entries
  have climbing : ∀ first step rest, proof.map stepOf = first ++ step :: rest →
      ∃ current taken, IsDigest current ∧ stepOf taken = step ∧
        climb (hashPair hashData) (payloadHash hashData float payload) first = current ∧
        ascend (hashPair hashData) current step = hashData (stepText current taken).toUTF8 ∧
        stepText current taken ∈ treeTexts hashData float entries ++ canonical float payload ::
          proofTexts hashData (payloadHash hashData float payload) proof := by
    intro first step rest split
    obtain ⟨front, back, rfl, rfl, later⟩ := map_eq_append_iff.mp split
    obtain ⟨taken, remaining, rfl, rfl, _⟩ := map_eq_cons_iff.mp later
    refine ⟨_, taken, isDigest_foldl digests (digests _) front, rfl, climb_map_stepOf _ front,
      ?_, ?_⟩
    · rw [← advance_eq, advance_eq_hash]
    · exact mem_append_right _ (mem_cons_of_mem _ (mem_proofTexts _ front taken _))
  have joined : ∀ pair ∈ (buildTree hashData (buildLeaves hashData float entries)).tree.joins
      (hashPair hashData), pair.1 ++ pair.2 ∈ treeTexts hashData float entries ++
        canonical float payload ::
          proofTexts hashData (payloadHash hashData float payload) proof := fun pair mem =>
    mem_append_left _ (mem_append_right _ (rooted.joined pair mem).1)
  refine ⟨?start, ?leaf, ?node⟩
  case start =>
    intro pair mem same
    have text := free.text (mem_append_right _ mem_cons_self) (joined pair mem) same
    exact canonical_ne_digest_append (rooted.joined pair mem).2.1 payload pair.2 text
  case leaf =>
    intro first step rest split leaf mem same
    obtain ⟨current, taken, digest, rfl, rfl, ascended, hashed⟩ := climbing first step rest split
    obtain ⟨text, known, rfl⟩ := rooted.leaves leaf mem
    have texts := free.text hashed
      (mem_append_left _ (mem_append_left _ known)) (ascended.symm.trans same)
    exact stepText_not_mem_leafTexts digest taken entries (texts ▸ known)
  case node =>
    intro first step rest split pair mem same
    obtain ⟨current, taken, digest, rfl, rfl, ascended, hashed⟩ := climbing first step rest split
    have texts := free.text hashed (joined pair mem) (ascended.symm.trans same)
    exact current_of_stepText digest (rooted.joined pair mem).2.1
      (rooted.joined pair mem).2.2 texts

end Soundness

/-- A payload whose proof is accepted against the root is that of an entry. -/
theorem entry_of_accepted_proof (hashData : ByteArray → String) (float : Int → Int → String)
    (digests : ∀ data, IsDigest (hashData data)) (entries : List AuditChainEntry)
    (payload : Json.Members) (proof : List ProofStep)
    (free : CollisionFree hashData (hashedBytes hashData float entries payload proof))
    (accepted : verifyProof hashData (payloadHash hashData float payload) proof
      (getRootHash hashData float entries) = true) :
    ∃ entry ∈ entries, canonical float payload = canonical float entry.payload := by
  have rooted : Rooted hashData float entries _ := rooted_buildTree digests entries
  have reaches := (verifyProof_iff _ _ _).mp accepted
  rw [getRootHash, ← rooted.hash] at reaches
  have leaf := Merkle.Tree.mem_leaves_of_climb (distinguished_of_collisionFree digests free) reaches
  obtain ⟨text, known, same⟩ := rooted.leaves _ leaf
  have texts := free.text (mem_append_right _ mem_cons_self)
    (mem_append_left _ (mem_append_left _ known)) same
  rw [leafTexts] at known
  split at known
  · -- the root of no entries is the hash of a text that is no object
    obtain ⟨inner, shape⟩ := Json.dumpsSorted_obj float payload
    rw [← canonical, texts, mem_singleton.mp known] at shape
    exact absurd shape (by simp)
  · obtain ⟨entry, inside, rfl⟩ := mem_map.mp known
    exact ⟨entry, inside, texts⟩

def sizeDigest (data : ByteArray) : String :=
  .ofList (List.replicate 64 (if data.size = 2 then '0' else if data.size = 11 then '1' else '2'))

def sampleEntries : List AuditChainEntry := [⟨[]⟩, ⟨[("a", .null)]⟩]

def zeros : String := .ofList (List.replicate 64 '0')

def ones : String := .ofList (List.replicate 64 '1')

theorem isDigest_sizeDigest (data : ByteArray) : IsDigest (sizeDigest data) := by
  refine ⟨?_, fun char mem => ?_⟩
  · rw [sizeDigest, String.length_ofList, length_replicate]
  · rw [sizeDigest, String.toList_ofList] at mem
    rw [eq_of_mem_replicate mem]
    split_ifs <;> decide

theorem leafHashes_sample : payloadHash sizeDigest (fun _ _ => "") [] = zeros ∧
      payloadHash sizeDigest (fun _ _ => "") [("a", .null)] = ones := by
  decide

theorem entry_of_accepted_proof_second :
    verifyProof sizeDigest (payloadHash sizeDigest (fun _ _ => "") [("a", .null)])
        [⟨zeros, "left"⟩] (getRootHash sizeDigest (fun _ _ => "") sampleEntries) = true ∧
      ∃ entry ∈ sampleEntries, canonical (fun _ _ => "") [("a", .null)] =
        canonical (fun _ _ => "") entry.payload := by
  have acc : verifyProof sizeDigest (payloadHash sizeDigest (fun _ _ => "") [("a", .null)])
      [⟨zeros, "left"⟩] (getRootHash sizeDigest (fun _ _ => "") sampleEntries) = true := by
    simp [verifyProof, sampleEntries, advance, getRootHash, buildTree, buildLeaves, top, pairUp,
      parent, MerkleNode.hash, leafHashes_sample]
  refine ⟨acc, entry_of_accepted_proof sizeDigest (fun _ _ => "") isDigest_sizeDigest
    sampleEntries [("a", .null)] [⟨zeros, "left"⟩] ?_ acc⟩
  have hashed : hashedBytes sizeDigest (fun _ _ => "") sampleEntries [("a", .null)]
      [⟨zeros, "left"⟩] =
      [canonical (fun _ _ => "") [], canonical (fun _ _ => "") [("a", .null)], zeros ++ ones,
        canonical (fun _ _ => "") [("a", .null)], zeros ++ ones].map String.toUTF8 := by
    simp [hashedBytes, treeTexts, leafTexts, sampleEntries, proofTexts, stepText, buildTree,
      buildLeaves, top, pairUp, parent, MerkleNode.hash, MerkleNode.joined, leafHashes_sample]
  rw [hashed]
  show ∀ first ∈ _, ∀ second ∈ _, _
  decide +kernel

end Portcullis.Audit.Tamper
