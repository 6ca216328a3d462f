import Portcullis.Lib.Glob
import Portcullis.Models.Orm

/-!
# Role-based tool authorization

`evaluatePermission` follows `app/auth/rbac.py`: keep the rules whose two
patterns match, sort them by decreasing specificity and priority, take the run
of rules that share the first key, and let a deny rule of that run win.

The matcher is a parameter, so that the decision theorems hold for whatever
`fnmatch.fnmatchcase` answers.  They restate the verdict without lists or
sorting: it depends only on the matching rules of maximal rank.
-/

namespace Portcullis.Auth.Rbac

open Lib Lib.Ranked Models List

/-- The authenticated principal, `app/auth/subject.py`. -/
structure Subject where
  subjectId : String
  subjectType : SubjectType
  tenantId : Uuid
  deriving DecidableEq, Repr

structure PermissionDecision where
  allowed : Bool
  ruleId : Option Uuid
  reason : String
  deriving DecidableEq, Repr

def isWildcard (char : Char) : Bool :=
  char == '*' || char == '?' || char == '[' || char == ']'

/-- `_pattern_specificity`: every character outside `*?[]` counts, those between
brackets included. -/
def patternSpecificity (pattern : String) : Nat :=
  pattern.toList.countP fun char => !isWildcard char

def ruleSpecificity (rule : ToolPermission) : Nat :=
  patternSpecificity rule.serverPattern + patternSpecificity rule.toolPattern

/-- The sort key of `_rank_key`, compared as a Python tuple. -/
def rankKey (rule : ToolPermission) : Lex (Int × Int) :=
  toLex (-(ruleSpecificity rule : Int), -rule.priority)

/-- Rank of a rule: specificity first, then priority.  Larger is stronger. -/
def rank (rule : ToolPermission) : Lex (Int × Int) :=
  toLex ((ruleSpecificity rule : Int), rule.priority)

section Evaluation

variable (fnmatchcase : String → String → Bool)

variable (serverSlug toolName : String) (permissions : List ToolPermission) (subjectId : String)

def ruleMatches (rule : ToolPermission) : Bool :=
  fnmatchcase serverSlug rule.serverPattern && fnmatchcase toolName rule.toolPattern

/-- `evaluate_permission`.  The subject is accepted and not used, as in the
source: the caller has already selected the rules of that subject. -/
def evaluatePermission (_subjectId serverSlug toolName : String)
    (permissions : List ToolPermission) : PermissionDecision :=
  let matching := permissions.filter (ruleMatches fnmatchcase serverSlug toolName)
  if matching.isEmpty then
    { allowed := false, ruleId := none, reason := "default deny" }
  else
    let topSet := leastRun rankKey matching
    match topSet.filter (fun rule => rule.effect = .deny) with
    | denyRule :: _ =>
      { allowed := false, ruleId := some denyRule.id, reason := "denied by rule" }
    | [] =>
      { allowed := true, ruleId := topSet.head?.map (·.id),
        reason := "allowed by rule" }

/-- A matching rule that no matching rule of the list outranks. -/
def TopRule (rule : ToolPermission) : Prop :=
  rule ∈ permissions ∧ ruleMatches fnmatchcase serverSlug toolName rule = true ∧
    ∀ other ∈ permissions, ruleMatches fnmatchcase serverSlug toolName other = true →
        rank other ≤ rank rule

theorem rankKey_le_iff (left right : ToolPermission) :
    rankKey left ≤ rankKey right ↔ rank right ≤ rank left := by
  simp only [rankKey, rank, Prod.Lex.toLex_le_toLex]
  omega

theorem mem_leastRun_iff_topRule (rule : ToolPermission) : rule ∈ leastRun rankKey
        (permissions.filter (ruleMatches fnmatchcase serverSlug toolName)) ↔
      TopRule fnmatchcase serverSlug toolName permissions rule := by
  rw [mem_leastRun]
  simp only [Least, mem_filter, rankKey_le_iff, TopRule, and_assoc, and_imp]

theorem exists_topRule (rule : ToolPermission) (mem : rule ∈ permissions)
    (matched : ruleMatches fnmatchcase serverSlug toolName rule = true) :
    ∃ top, TopRule fnmatchcase serverSlug toolName permissions top := by
  obtain ⟨top, least⟩ := exists_least rankKey
    (permissions.filter (ruleMatches fnmatchcase serverSlug toolName)) rule
    (mem_filter.mpr ⟨mem, matched⟩)
  exact ⟨top, (mem_leastRun_iff_topRule fnmatchcase serverSlug toolName
    permissions top).mp ((mem_leastRun _ _ _).mpr least)⟩

theorem evaluatePermission_cases (serverSlug toolName : String)
    (permissions : List ToolPermission) :
    ((∀ rule ∈ permissions, ruleMatches fnmatchcase serverSlug toolName rule = false) ∧
      evaluatePermission fnmatchcase subjectId serverSlug toolName permissions =
        ⟨false, none, "default deny"⟩) ∨
    (∃ rule, TopRule fnmatchcase serverSlug toolName permissions rule ∧ rule.effect = .deny ∧
      evaluatePermission fnmatchcase subjectId serverSlug toolName permissions =
        ⟨false, some rule.id, "denied by rule"⟩) ∨
    (∃ rule, TopRule fnmatchcase serverSlug toolName permissions rule ∧
      (∀ other, TopRule fnmatchcase serverSlug toolName permissions other → other.effect = .allow) ∧
      evaluatePermission fnmatchcase subjectId serverSlug toolName permissions =
        ⟨true, some rule.id, "allowed by rule"⟩) := by
  have topIff := mem_leastRun_iff_topRule fnmatchcase serverSlug toolName permissions
  unfold evaluatePermission
  cases matching : permissions.filter (ruleMatches fnmatchcase serverSlug toolName) with
  | nil =>
    left
    refine ⟨fun rule mem => ?_, rfl⟩
    exact Bool.eq_false_iff.mpr (filter_eq_nil_iff.mp matching rule mem)
  | cons firstMatch otherMatches =>
    right
    rw [matching] at topIff
    simp only
    cases denies : (leastRun rankKey (firstMatch :: otherMatches)).filter
        (fun rule => rule.effect = .deny) with
    | cons denyRule otherDenies =>
      left
      have denyMember : denyRule ∈ (leastRun rankKey (firstMatch :: otherMatches)).filter
            (fun rule => rule.effect = .deny) := by simp [denies]
      rw [mem_filter, decide_eq_true_eq] at denyMember
      exact ⟨denyRule, (topIff denyRule).mp denyMember.1, denyMember.2, rfl⟩
    | nil =>
      right
      have allAllow : ∀ other, TopRule fnmatchcase serverSlug toolName permissions
          other → other.effect = .allow := by
        intro other top
        have notDeny := filter_eq_nil_iff.mp denies other ((topIff other).mpr top)
        cases effect : other.effect with
        | allow => rfl
        | deny => simp [effect] at notDeny
      have firstMember : firstMatch ∈ permissions.filter
          (ruleMatches fnmatchcase serverSlug toolName) := by simp [matching]
      rw [mem_filter] at firstMember
      obtain ⟨top, topRule⟩ := exists_topRule fnmatchcase serverSlug toolName
        permissions firstMatch firstMember.1 firstMember.2
      cases run : leastRun rankKey (firstMatch :: otherMatches) with
      | nil =>
        have topMember := (topIff top).mpr topRule
        rw [run] at topMember
        exact absurd topMember not_mem_nil
      | cons head tail =>
        exact ⟨head, (topIff head).mp (by simp [run]), allAllow, rfl⟩

theorem allowed_iff_topRules_allow (serverSlug toolName : String)
    (permissions : List ToolPermission) :
    (evaluatePermission fnmatchcase subjectId serverSlug toolName permissions).allowed = true ↔
      (∃ rule ∈ permissions, ruleMatches fnmatchcase serverSlug toolName rule = true) ∧
        ∀ rule, TopRule fnmatchcase serverSlug toolName permissions rule →
          rule.effect = .allow := by
  rcases evaluatePermission_cases fnmatchcase subjectId serverSlug toolName
      permissions with ⟨noMatch, answer⟩ | ⟨rule, top, effect, answer⟩ |
        ⟨rule, top, allAllow, answer⟩
  · rw [answer]
    constructor
    · intro no
      cases no
    · rintro ⟨⟨rule, mem, matched⟩, _⟩
      rw [noMatch rule mem] at matched
      cases matched
  · rw [answer]
    constructor
    · intro no
      cases no
    · rintro ⟨_, allAllow⟩
      rw [allAllow rule top] at effect
      cases effect
  · rw [answer]
    exact ⟨fun _ => ⟨⟨rule, top.1, top.2.1⟩, allAllow⟩, fun _ => rfl⟩

theorem exists_allow_of_allowed (serverSlug toolName : String) (permissions : List ToolPermission)
    (allowed : (evaluatePermission fnmatchcase subjectId serverSlug toolName
      permissions).allowed = true) :
    ∃ rule ∈ permissions, ruleMatches fnmatchcase serverSlug toolName rule = true ∧
      rule.effect = .allow := by
  rcases evaluatePermission_cases fnmatchcase subjectId serverSlug toolName permissions with
    ⟨_, decision⟩ | ⟨_, _, _, decision⟩ | ⟨rule, top, allAllow, _⟩
  · rw [decision] at allowed
    cases allowed
  · rw [decision] at allowed
    cases allowed
  · exact ⟨rule, top.1, top.2.1, allAllow rule top⟩

theorem allowed_congr (serverSlug toolName : String) (permissions others : List ToolPermission)
    (sameMembers : ∀ rule, rule ∈ others ↔ rule ∈ permissions) :
    (evaluatePermission fnmatchcase subjectId serverSlug toolName others).allowed =
      (evaluatePermission fnmatchcase subjectId serverSlug toolName permissions).allowed := by
  rw [Bool.eq_iff_iff, allowed_iff_topRules_allow, allowed_iff_topRules_allow]
  simp only [sameMembers, TopRule]

/-- The verdict of `evaluate_permission`, free of sorting and list order: it
allows exactly when some rule matches and every matching rule of lexicographically
maximal (specificity, priority) is an allow rule; any list with the same rules,
permuted or with repetitions, gets the same verdict; and when some rule matches,
the reported rule is a maximal one whose effect is the verdict. -/
theorem evaluatePermission_decision_spec (subjectId serverSlug toolName : String)
    (permissions : List ToolPermission) :
    ((evaluatePermission fnmatchcase subjectId serverSlug toolName permissions).allowed = true ↔
      (∃ rule ∈ permissions, ruleMatches fnmatchcase serverSlug toolName rule = true) ∧
        ∀ rule, TopRule fnmatchcase serverSlug toolName permissions rule → rule.effect = .allow) ∧
    (∀ others : List ToolPermission, (∀ rule, rule ∈ others ↔ rule ∈ permissions) →
        (evaluatePermission fnmatchcase subjectId serverSlug toolName others).allowed =
          (evaluatePermission fnmatchcase subjectId serverSlug toolName permissions).allowed) ∧
    ((∃ rule ∈ permissions, ruleMatches fnmatchcase serverSlug toolName rule = true) →
      ∃ rule, TopRule fnmatchcase serverSlug toolName permissions rule ∧
        (evaluatePermission fnmatchcase subjectId serverSlug toolName
          permissions).ruleId = some rule.id ∧
        (rule.effect = .allow ↔ (evaluatePermission fnmatchcase subjectId serverSlug toolName
            permissions).allowed = true)) := by
  refine ⟨allowed_iff_topRules_allow fnmatchcase subjectId serverSlug toolName
    permissions, fun others sameMembers => allowed_congr fnmatchcase subjectId
      serverSlug toolName permissions others sameMembers, ?_⟩
  rintro ⟨matchedRule, mem, matched⟩
  rcases evaluatePermission_cases fnmatchcase subjectId serverSlug toolName
      permissions with ⟨noMatch, _⟩ | ⟨rule, top, effect, answer⟩ | ⟨rule, top, allAllow, answer⟩
  · rw [noMatch matchedRule mem] at matched
    cases matched
  · refine ⟨rule, top, ?_, ?_⟩
    · rw [answer]
    · rw [answer, effect]
      constructor <;> intro no <;> cases no
  · refine ⟨rule, top, ?_, ?_⟩
    · rw [answer]
    · rw [answer]
      exact ⟨fun _ => rfl, fun _ => allAllow rule top⟩

/-! ## Inserting one rule -/

section Insertion

variable (serverSlug toolName : String) (before after : List ToolPermission)
  (inserted : ToolPermission)

variable (rule : ToolPermission)

theorem mem_insert_iff :
    rule ∈ before ++ inserted :: after ↔ rule = inserted ∨ rule ∈ before ++ after := by
  simp only [mem_append, mem_cons]
  tauto

theorem topRule_of_topRule_insert
    (top : TopRule fnmatchcase serverSlug toolName (before ++ inserted :: after) rule)
    (old : rule ∈ before ++ after) :
    TopRule fnmatchcase serverSlug toolName (before ++ after) rule := by
  refine ⟨old, top.2.1, ?_⟩
  intro other mem
  exact top.2.2 other ((mem_insert_iff before after inserted other).mpr (Or.inr mem))

theorem topRule_insert (top : TopRule fnmatchcase serverSlug toolName (before ++ after) rule)
    (notOutranked : ruleMatches fnmatchcase serverSlug toolName inserted = true →
      rank inserted ≤ rank rule) :
    TopRule fnmatchcase serverSlug toolName (before ++ inserted :: after) rule := by
  refine ⟨(mem_insert_iff before after inserted rule).mpr (Or.inr top.1), top.2.1, ?_⟩
  intro other mem matched
  rcases (mem_insert_iff before after inserted other).mp mem with rfl | old
  · exact notOutranked matched
  · exact top.2.2 other old matched

theorem topRule_inserted (matched : ruleMatches fnmatchcase serverSlug toolName inserted = true)
    (strongest : ∀ rule, TopRule fnmatchcase serverSlug toolName (before ++ after) rule →
      rank rule ≤ rank inserted) :
    TopRule fnmatchcase serverSlug toolName (before ++ inserted :: after) inserted := by
  refine ⟨(mem_insert_iff before after inserted inserted).mpr (Or.inl rfl), matched, ?_⟩
  intro other mem otherMatched
  rcases (mem_insert_iff before after inserted other).mp mem with rfl | old
  · exact le_refl _
  · obtain ⟨top, topRule⟩ := exists_topRule fnmatchcase serverSlug toolName
      (before ++ after) other old otherMatched
    exact (topRule.2.2 other old otherMatched).trans (strongest top topRule)

end Insertion

/-- Inserting a deny rule anywhere never turns a denial into an allow, and
inserting an allow rule anywhere never turns an allow into a denial. -/
theorem evaluatePermission_insert_monotone (subjectId serverSlug toolName : String)
    (before after : List ToolPermission) (inserted : ToolPermission) :
    (inserted.effect = .deny → (evaluatePermission fnmatchcase subjectId serverSlug toolName
        (before ++ after)).allowed = false →
      (evaluatePermission fnmatchcase subjectId serverSlug toolName
        (before ++ inserted :: after)).allowed = false) ∧
    (inserted.effect = .allow → (evaluatePermission fnmatchcase subjectId serverSlug toolName
        (before ++ after)).allowed = true →
      (evaluatePermission fnmatchcase subjectId serverSlug toolName
        (before ++ inserted :: after)).allowed = true) := by
  constructor
  · intro isDeny denied
    by_contra notDenied
    have allowed := Bool.eq_true_of_not_eq_false notDenied
    obtain ⟨⟨rule, mem, matched⟩, allAllow⟩ :=
      (allowed_iff_topRules_allow fnmatchcase subjectId serverSlug toolName _).mp allowed
    have insertedNotTop : ¬ TopRule fnmatchcase serverSlug toolName
        (before ++ inserted :: after) inserted := by
      intro top
      rw [allAllow inserted top] at isDeny
      cases isDeny
    -- The old list still allows: its maximal rules are maximal in the new one.
    have stillAllowed : (evaluatePermission fnmatchcase subjectId serverSlug toolName
        (before ++ after)).allowed = true := by
      rw [allowed_iff_topRules_allow]
      obtain ⟨top, topRule⟩ := exists_topRule fnmatchcase serverSlug toolName
        (before ++ inserted :: after) rule mem matched
      have topOld : top ∈ before ++ after := by
        rcases (mem_insert_iff before after inserted top).mp topRule.1 with rfl | old
        · exact absurd topRule insertedNotTop
        · exact old
      refine ⟨⟨top, topOld, topRule.2.1⟩, ?_⟩
      intro other otherTop
      refine allAllow other (topRule_insert fnmatchcase serverSlug toolName before after
        inserted other otherTop ?_)
      intro insertedMatches
      by_contra outranked
      apply insertedNotTop
      apply topRule_inserted fnmatchcase serverSlug toolName before after inserted insertedMatches
      intro third thirdTop
      exact (otherTop.2.2 third thirdTop.1 thirdTop.2.1).trans (le_of_not_ge outranked)
    rw [denied] at stillAllowed
    cases stillAllowed
  · intro isAllow allowed
    obtain ⟨⟨rule, mem, matched⟩, allAllow⟩ :=
      (allowed_iff_topRules_allow fnmatchcase subjectId serverSlug toolName _).mp allowed
    rw [allowed_iff_topRules_allow]
    refine ⟨⟨rule, (mem_insert_iff before after inserted rule).mpr (Or.inr mem), matched⟩, ?_⟩
    intro top topRule
    rcases (mem_insert_iff before after inserted top).mp topRule.1 with rfl | old
    · exact isAllow
    · exact allAllow top (topRule_of_topRule_insert fnmatchcase serverSlug toolName
        before after inserted top topRule old)

end Evaluation

/-! ## Exact deny rules against glob patterns -/

section ExactDeny

open Lib.Glob

/-- No character of the text is one of `*`, `?`, `[`, `]`. -/
def Plain (text : String) : Prop :=
  ∀ char ∈ text.toList, isWildcard char = false

theorem not_wildcard_ne (char : Char) (plain : isWildcard char = false) :
    char ≠ '*' ∧ char ≠ '?' ∧ char ≠ '[' := by
  simp only [isWildcard, Bool.or_eq_false_iff, beq_eq_false_iff_ne] at plain
  exact ⟨plain.1.1.1, plain.1.1.2, plain.1.2⟩

theorem fnmatchcase_plain (text : String) (plain : Plain text) : fnmatchcase text text = true :=
  (fnmatchcase_iff_eq text text fun char mem => not_wildcard_ne char (plain char mem)).mpr rfl

theorem patternSpecificity_plain (text : String) (plain : Plain text) :
    patternSpecificity text = text.toList.length := by
  apply countP_eq_length.mpr
  intro char mem
  simp [plain char mem]

theorem patternSpecificity_le_length (name pattern : String)
    (noOpen : '[' ∉ pattern.toList) (matched : fnmatchcase name pattern = true) :
    patternSpecificity pattern ≤ name.toList.length := by
  have noOpenChars : ∀ char ∈ pattern.toList, char ≠ '[' := by
    intro char mem isOpen
    rw [isOpen] at mem
    exact noOpen mem
  calc
    patternSpecificity pattern ≤ pattern.toList.countP (fun char => char ≠ '*') := by
      apply countP_mono_left
      intro char _ counted
      simp only [isWildcard, Bool.not_eq_true', Bool.or_eq_false_iff] at counted
      simpa using counted.1.1.1
    _ = width (translate pattern.toList) := (width_translate _ noOpenChars).symm
    _ ≤ name.toList.length := width_le_length _ _ matched

theorem open_of_outscored (serverSlug toolName : String) (rule : ToolPermission)
    (matched : ruleMatches fnmatchcase serverSlug toolName rule = true)
    (outscored : serverSlug.toList.length + toolName.toList.length < ruleSpecificity rule) :
    '[' ∈ rule.serverPattern.toList ∨ '[' ∈ rule.toolPattern.toList := by
  by_contra noOpen
  push Not at noOpen
  simp only [ruleMatches, Bool.and_eq_true] at matched
  have serverBound := patternSpecificity_le_length serverSlug rule.serverPattern noOpen.1 matched.1
  have toolBound := patternSpecificity_le_length toolName rule.toolPattern noOpen.2 matched.2
  unfold ruleSpecificity at outscored
  omega

/-- An exact deny rule of top priority decides, except against an allow rule that
matches, scores above the two names and is not itself outranked by a deny rule.
Such a rule needs a character class, whose members are all counted although the
class matches a single character. -/
theorem exactDeny_denies_iff_not_outscored (subjectId serverSlug toolName : String)
    (permissions : List ToolPermission) (exactDeny : ToolPermission)
    (slugPlain : Plain serverSlug) (toolPlain : Plain toolName)
    (member : exactDeny ∈ permissions) (isDeny : exactDeny.effect = .deny)
    (serverExact : exactDeny.serverPattern = serverSlug)
    (toolExact : exactDeny.toolPattern = toolName)
    (topPriority : ∀ rule ∈ permissions, ruleMatches fnmatchcase serverSlug toolName rule = true →
        rule.priority ≤ exactDeny.priority) :
    ((evaluatePermission fnmatchcase subjectId serverSlug toolName permissions).allowed = false ↔
      ∀ rule ∈ permissions, ruleMatches fnmatchcase serverSlug toolName rule = true →
        rule.effect = .allow →
        serverSlug.toList.length + toolName.toList.length < ruleSpecificity rule →
        ∃ deny ∈ permissions, ruleMatches fnmatchcase serverSlug toolName deny = true ∧
            deny.effect = .deny ∧ rank rule ≤ rank deny) ∧
    (∀ rule ∈ permissions, ruleMatches fnmatchcase serverSlug toolName rule = true →
      serverSlug.toList.length + toolName.toList.length < ruleSpecificity rule →
        '[' ∈ rule.serverPattern.toList ∨ '[' ∈ rule.toolPattern.toList) := by
  have exactMatches : ruleMatches fnmatchcase serverSlug toolName exactDeny = true := by
    simp [ruleMatches, serverExact, toolExact, fnmatchcase_plain serverSlug slugPlain,
      fnmatchcase_plain toolName toolPlain]
  have exactScore : ruleSpecificity exactDeny =
      serverSlug.toList.length + toolName.toList.length := by
    rw [ruleSpecificity, serverExact, toolExact, patternSpecificity_plain serverSlug slugPlain,
      patternSpecificity_plain toolName toolPlain]
  refine ⟨⟨?_, ?_⟩, fun rule _ matched => open_of_outscored serverSlug toolName rule matched⟩
  · intro denied rule ruleMember matched _ _
    rcases evaluatePermission_cases fnmatchcase subjectId serverSlug toolName
        permissions with ⟨noMatch, _⟩ | ⟨deny, top, effect, _⟩ | ⟨_, _, _, answer⟩
    · rw [noMatch exactDeny member] at exactMatches
      cases exactMatches
    · exact ⟨deny, top.1, top.2.1, effect, top.2.2 rule ruleMember matched⟩
    · rw [answer] at denied
      cases denied
  · intro outranked
    by_contra notDenied
    obtain ⟨_, allAllow⟩ := (allowed_iff_topRules_allow fnmatchcase subjectId serverSlug
      toolName permissions).mp (Bool.eq_true_of_not_eq_false notDenied)
    obtain ⟨top, topRule⟩ := exists_topRule fnmatchcase serverSlug toolName permissions
      exactDeny member exactMatches
    have denyNotTop : ∀ deny, deny.effect = .deny →
        ¬ TopRule fnmatchcase serverSlug toolName permissions deny := by
      intro deny effect denyTop
      rw [allAllow deny denyTop] at effect
      cases effect
    by_cases outscored : serverSlug.toList.length + toolName.toList.length < ruleSpecificity top
    · obtain ⟨deny, denyMember, denyMatches, effect, stronger⟩ :=
        outranked top topRule.1 topRule.2.1 (allAllow top topRule) outscored
      exact denyNotTop deny effect ⟨denyMember, denyMatches, fun other otherMember
        otherMatches => (topRule.2.2 other otherMember otherMatches).trans stronger⟩
    · -- Equal score: the priorities are then equal too, and the deny rule is maximal.
      have below := topRule.2.2 exactDeny member exactMatches
      have priority := topPriority top topRule.1 topRule.2.1
      have above : rank top ≤ rank exactDeny := by
        simp only [rank, Prod.Lex.toLex_le_toLex, exactScore] at below ⊢
        omega
      exact denyNotTop exactDeny isDeny ⟨member, exactMatches, fun other otherMember
        otherMatches => (topRule.2.2 other otherMember otherMatches).trans above⟩

/-- Two rules for one tool: the exact deny and an allow through a class of two
letters, at the same priority. -/
def exactDenySample : ToolPermission :=
  { id := ⟨1⟩, roleId := ⟨7⟩, serverPattern := "github-mcp",
    toolPattern := "delete_repo", effect := .deny, priority := 0 }

def classAllowSample : ToolPermission :=
  { id := ⟨2⟩, roleId := ⟨7⟩, serverPattern := "github-mcp",
    toolPattern := "[Dd]elete_repo", effect := .allow, priority := 0 }

instance (text : String) : Decidable (Plain text) :=
  List.decidableBAll (fun char => isWildcard char = false) text.toList

theorem exactDeny_denies_iff_not_outscored_sample :
    (evaluatePermission fnmatchcase "agent" "github-mcp" "delete_repo"
        [exactDenySample]).allowed = false ↔
      ∀ rule ∈ [exactDenySample], ruleMatches fnmatchcase "github-mcp" "delete_repo" rule = true →
        rule.effect = .allow →
        "github-mcp".toList.length + "delete_repo".toList.length < ruleSpecificity rule →
        ∃ deny ∈ [exactDenySample], ruleMatches fnmatchcase "github-mcp" "delete_repo" deny = true ∧
            deny.effect = .deny ∧ rank rule ≤ rank deny :=
  (exactDeny_denies_iff_not_outscored "agent" "github-mcp" "delete_repo"
    [exactDenySample] exactDenySample (by decide) (by decide) (by decide) rfl rfl rfl
    (by decide)).1

/-- The class allow overrides the exact deny of the same priority. -/
theorem exactDeny_overridden_by_class :
    ¬ ∀ (subjectId serverSlug toolName : String) (permissions : List ToolPermission)
        (exactDeny : ToolPermission), Plain serverSlug → Plain toolName →
        exactDeny ∈ permissions → exactDeny.effect = .deny →
        exactDeny.serverPattern = serverSlug → exactDeny.toolPattern = toolName →
        (∀ rule ∈ permissions, ruleMatches fnmatchcase serverSlug toolName rule = true →
            rule.priority ≤ exactDeny.priority) →
        (evaluatePermission fnmatchcase subjectId serverSlug toolName
          permissions).allowed = false := by
  intro claim
  have denied := claim "agent" "github-mcp" "delete_repo"
    [exactDenySample, classAllowSample] exactDenySample (by decide) (by decide)
    (by decide) rfl rfl rfl (by decide)
  revert denied
  decide

end ExactDeny

end Portcullis.Auth.Rbac
