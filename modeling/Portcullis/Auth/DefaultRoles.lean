import Portcullis.Auth.Provisioning

/-!
# What the default roles may call

Specificity is compared before priority, so a deny of the default set yields to every allow
with a longer literal part.  Only the viewer has such a pair whose patterns share a name.
-/

namespace Portcullis.Auth.DefaultRoles

open Lib Lib.Glob Lib.Session Auth.OrgBootstrap Auth.Rbac Models List
open Auth.Provisioning (emptyStore roleDraws)

variable {role : DefaultRole} {perms : List ToolPermission} {subject slug tool : String}

theorem matchTokens_lead (lead name : List Char) :
    matchTokens (lead.map .lit ++ [.star]) name = true ↔ lead <+: name := by
  induction lead generalizing name with
  | nil =>
    simp only [map_nil, nil_append, matchTokens, nil_prefix, iff_true]
    induction name with
    | nil => rfl
    | cons char rest ih => simp [anySuffix, ih]
  | cons char rest ih =>
    cases name with
    | nil => simp [matchTokens]
    | cons first name =>
      rw [map_cons, cons_append, matchTokens, Bool.and_eq_true, beq_iff_eq, ih, cons_prefix_cons,
        @eq_comm _ first]

theorem translate_lead {lead : List Char} (plain : ∀ char ∈ lead, char ∉ ['*', '?', '[']) :
    translate (lead ++ ['*']) = lead.map .lit ++ [.star] := by
  induction lead with
  | nil => rfl
  | cons char rest ih =>
    have head := plain char mem_cons_self
    simp only [mem_cons, not_or] at head
    rw [cons_append, translate_lit char _ head.1 head.2.1 head.2.2.1,
      ih fun other hi => plain other (mem_cons_of_mem _ hi)]
    rfl

/-- The literal part of a pattern that ends in its only wildcard. -/
def stem (rule : DefaultRule) : List Char := rule.toolPattern.toList.dropLast

def Stemmed (rule : DefaultRule) : Prop :=
  rule.toolPattern.toList = stem rule ++ ['*'] ∧ ∀ char ∈ stem rule, char ∉ ['*', '?', '[']

instance (rule : DefaultRule) : Decidable (Stemmed rule) :=
  @instDecidableAnd _ _ _ (List.decidableBAll _ _)

theorem Stemmed.matches_iff {rule : DefaultRule} (stemmed : Stemmed rule) (name : String) :
    fnmatchcase name rule.toolPattern = true ↔ stem rule <+: name.toList := by
  rw [fnmatchcase, stemmed.1, translate_lead stemmed.2, matchTokens_lead]

theorem stemmed_of_mem : ∀ rule ∈ defaultRules,
    rule.role ≠ .viewer ∨ rule.effect = .allow → Stemmed rule := by
  decide +kernel

def lower (first second : DefaultRule) : Bool :=
  let score (rule : DefaultRule) := patternSpecificity rule.toolPattern
  decide (score first < score second ∨
    score first = score second ∧ first.priority < second.priority)

def RowOf (rule : DefaultRule) (row : ToolPermission) : Prop :=
  row.serverPattern = "*" ∧ row.toolPattern = rule.toolPattern ∧ row.effect = rule.effect ∧
    row.priority = rule.priority

/-- Exactly the default permissions of the role. -/
def Grants (role : DefaultRole) (perms : List ToolPermission) : Prop :=
  (∀ row ∈ perms, ∃ rule ∈ defaultRules, rule.role = role ∧ RowOf rule row) ∧
    ∀ rule ∈ defaultRules, rule.role = role → ∃ row ∈ perms, RowOf rule row

theorem RowOf.matches_iff {rule : DefaultRule} {row : ToolPermission} (hr : RowOf rule row) :
    ruleMatches fnmatchcase slug tool row = true ↔
      fnmatchcase tool rule.toolPattern = true := by
  rw [ruleMatches, hr.1, hr.2.1, fnmatchcase_star, Bool.true_and]

theorem RowOf.rank_lt_iff {left right : DefaultRule} {row other : ToolPermission}
    (hr : RowOf left row) (hr2 : RowOf right other) :
    rank row < rank other ↔ lower left right = true := by
  simp only [rank, ruleSpecificity, hr.1, hr.2.1, hr.2.2.2, hr2.1, hr2.2.1,
    hr2.2.2.2, Prod.Lex.toLex_lt_toLex, lower, decide_eq_true_eq]
  omega

/-- A call is allowed just if some allow outranks every deny that matches. -/
theorem allowed_iff_outranks : (evaluatePermission fnmatchcase subject slug tool perms).allowed =
      true ↔ ∃ row ∈ perms, ruleMatches fnmatchcase slug tool row = true ∧ row.effect = .allow ∧
        ∀ other ∈ perms, ruleMatches fnmatchcase slug tool other = true → other.effect = .deny →
          rank other < rank row := by
  rw [allowed_iff_topRules_allow]
  constructor
  · rintro ⟨⟨row, hi, hm⟩, allow⟩
    obtain ⟨top, isTop⟩ := exists_topRule fnmatchcase slug tool perms row hi hm
    refine ⟨top, isTop.1, isTop.2.1, allow top isTop, fun other within meets deny => ?_⟩
    refine lt_of_le_of_ne (isTop.2.2 other within meets) fun equal => ?_
    have tops := allow other ⟨within, meets, fun third => equal ▸ isTop.2.2 third⟩
    rw [deny] at tops
    cases tops
  · rintro ⟨row, hi, hm, _, beats⟩
    refine ⟨⟨row, hi, hm⟩, fun top isTop => ?_⟩
    cases effect : top.effect with
    | allow => rfl
    | deny =>
      exact absurd (beats top isTop.1 isTop.2.1 effect) (isTop.2.2 row hi hm).not_gt

/-- A default rule of the role that matches the tool. -/
def Hits (role : DefaultRole) (effect : PermissionEffect) (tool : String) (rule : DefaultRule) :
    Prop :=
  rule ∈ defaultRules ∧ rule.role = role ∧ rule.effect = effect ∧
    fnmatchcase tool rule.toolPattern = true

theorem Grants.allowed_iff (grants : Grants role perms) :
    (evaluatePermission fnmatchcase subject slug tool perms).allowed = true ↔
      ∃ rule, Hits role .allow tool rule ∧
        ∀ other, Hits role .deny tool other → lower other rule = true := by
  rw [allowed_iff_outranks]
  constructor
  · rintro ⟨row, hi, hm, allow, beats⟩
    obtain ⟨rule, hl, named, hr⟩ := grants.1 row hi
    refine ⟨rule, ⟨hl, named, hr.2.2.1 ▸ allow, hr.matches_iff.mp hm⟩, ?_⟩
    rintro other ⟨hl2, hn2, deny, hits⟩
    obtain ⟨hf, within, hr2⟩ := grants.2 other hl2 hn2
    exact (hr2.rank_lt_iff hr).mp (beats hf within (hr2.matches_iff.mpr hits)
      (hr2.2.2.1.trans deny))
  · rintro ⟨rule, ⟨hl, named, allow, hits⟩, beats⟩
    obtain ⟨row, hi, hr⟩ := grants.2 rule hl named
    refine ⟨row, hi, hr.matches_iff.mpr hits, hr.2.2.1.trans allow, ?_⟩
    intro hf within hm deny
    obtain ⟨other, hl2, hn2, hr2⟩ := grants.1 hf within
    exact (hr2.rank_lt_iff hr).mpr (beats other ⟨hl2, hn2,
      hr2.2.2.1 ▸ deny, hr2.matches_iff.mp hm⟩)

def Apart (left right : List Char) : Prop := ¬ left <+: right ∧ ¬ right <+: left

theorem allow_apart_or_outranked : ∀ rule ∈ defaultRules, ∀ other ∈ defaultRules,
    rule.role = other.role → rule.role ≠ .viewer → rule.effect = .allow → other.effect = .deny →
      lower other rule = false ∨ Apart (stem rule) (stem other) := by
  unfold Apart
  decide +kernel

/-- Besides the viewer, a role may call what an allow matches and no deny does. -/
theorem Grants.allowed_iff_of_ne_viewer (grants : Grants role perms) (hv : role ≠ .viewer) :
    (evaluatePermission fnmatchcase subject slug tool perms).allowed = true ↔
      (∃ rule, Hits role .allow tool rule) ∧ ∀ other, ¬ Hits role .deny tool other := by
  rw [grants.allowed_iff]
  constructor
  · rintro ⟨rule, hits, beats⟩
    refine ⟨⟨rule, hits⟩, fun other denies => ?_⟩
    obtain ⟨hl, named, allow, hm⟩ := hits
    have yields := beats other denies
    obtain ⟨hl2, hn2, deny, hm2⟩ := denies
    have stems := ((stemmed_of_mem rule hl (.inl (named ▸ hv))).matches_iff tool).mp
      hm
    have others := ((stemmed_of_mem other hl2
      (.inl (hn2 ▸ hv))).matches_iff tool).mp hm2
    rcases allow_apart_or_outranked rule hl other hl2 (named.trans hn2.symm)
      (named ▸ hv) allow deny with outranked | apart
    · rw [yields] at outranked
      cases outranked
    · exact ( prefix_or_prefix_of_prefix stems others).elim apart.1 apart.2
  · rintro ⟨⟨rule, hits⟩, undenied⟩
    exact ⟨rule, hits, fun other denies => absurd denies (undenied other)⟩

theorem viewer_allow_outranks : ∀ rule ∈ defaultRules, ∀ other ∈ defaultRules,
    rule.role = .viewer → other.role = .viewer → rule.effect = .allow → other.effect = .deny →
      lower other rule = true := by
  decide +kernel

/-- The rules of the role with this effect are those with one of the stems. -/
def Leads (role : DefaultRole) (effect : PermissionEffect) (leads : List String) : Prop :=
  (∀ rule ∈ defaultRules, rule.role = role → rule.effect = effect →
    Stemmed rule ∧ ∃ lead ∈ leads, stem rule = lead.toList) ∧
  ∀ lead ∈ leads, ∃ rule ∈ defaultRules, rule.role = role ∧ rule.effect = effect ∧
    stem rule = lead.toList

theorem Leads.exists_hits_iff {effect : PermissionEffect} {leads : List String}
    (known : Leads role effect leads) :
    (∃ rule, Hits role effect tool rule) ↔ ∃ lead ∈ leads, lead.toList <+: tool.toList := by
  constructor
  · rintro ⟨rule, hl, named, has, hm⟩
    obtain ⟨stemmed, lead, hi, same⟩ := known.1 rule hl named has
    exact ⟨lead, hi, same ▸ (stemmed.matches_iff tool).mp hm⟩
  · rintro ⟨lead, hi, starts⟩
    obtain ⟨rule, hl, named, has, same⟩ := known.2 lead hi
    have stemmed := (known.1 rule hl named has).1
    exact ⟨rule, hl, named, has, (stemmed.matches_iff tool).mpr (same ▸ starts)⟩

/-- A call that a default deny of the role matches is denied, but for a viewer whose tool name
starts as one of the listings does. -/
theorem default_deny_effective_iff (grants : Grants role perms) {rule : DefaultRule}
    (denies : Hits role .deny tool rule) :
    (evaluatePermission fnmatchcase subject slug tool perms).allowed = false ↔
      (role = .viewer → ∀ lead ∈ ["server_list", "tool_list", "audit_list"],
        ¬ lead.toList <+: tool.toList) := by
  rw [← Bool.not_eq_true]
  by_cases viewer : role = .viewer
  · subst viewer
    have listing := @Leads.exists_hits_iff .viewer tool .allow
      ["server_list", "tool_list", "audit_list"] (by unfold Leads; decide +kernel)
    rw [grants.allowed_iff]
    constructor
    · rintro refused - lead known leads
      obtain ⟨allow, hits⟩ := listing.mpr ⟨lead, known, leads⟩
      exact refused ⟨allow, hits, fun other denied => viewer_allow_outranks allow hits.1 other
        denied.1 hits.2.1 denied.2.1 hits.2.2.1 denied.2.2.1⟩
    · rintro unlisted ⟨allow, hits, _⟩
      obtain ⟨lead, known, leads⟩ := listing.mp ⟨allow, hits⟩
      exact unlisted rfl lead known leads
  · refine iff_of_true (fun allowed => ?_) fun isViewer => absurd isViewer viewer
    exact ((grants.allowed_iff_of_ne_viewer viewer).mp allowed).2 rule denies

def viewerRows : List ToolPermission :=
  (defaultRules.filter (·.role = .viewer)).map fun rule =>
    ⟨⟨1⟩, ⟨2⟩, "*", rule.toolPattern, rule.effect, rule.priority⟩

theorem grants_viewerRows : Grants .viewer viewerRows := by
  constructor
  · simp only [viewerRows, mem_map, mem_filter, decide_eq_true_eq]
    rintro row ⟨rule, ⟨hl, named⟩, rfl⟩
    exact ⟨rule, hl, named, rfl, rfl, rfl, rfl⟩
  · intro rule hl named
    exact ⟨_, mem_map.mpr ⟨rule, mem_filter.mpr ⟨hl, decide_eq_true named⟩, rfl⟩,
      rfl, rfl, rfl, rfl⟩

theorem hits_server_list_create :
    Hits .viewer .deny "server_list_create" ⟨.viewer, "*_create*", .deny, 100⟩ :=
  ⟨by simp [defaultRules], rfl, rfl, by decide +kernel⟩

/-- A viewer creates through a tool whose name starts as the listing of servers. -/
theorem listing_name_escapes_deny :
    Hits .viewer .deny "server_list_create" ⟨.viewer, "*_create*", .deny, 100⟩ ∧
      (evaluatePermission fnmatchcase "" "crm" "server_list_create" viewerRows).allowed = true :=
  ⟨hits_server_list_create, by decide +kernel⟩

theorem default_deny_effective_iff_sample :
    (evaluatePermission fnmatchcase "" "crm" "server_list_create" viewerRows).allowed = false ↔
      (DefaultRole.viewer = .viewer → ∀ lead ∈ ["server_list", "tool_list", "audit_list"],
        ¬ lead.toList <+: "server_list_create".toList) :=
  default_deny_effective_iff grants_viewerRows hits_server_list_create

/-! ## After the bootstrap -/

section Bootstrap

variable {tenantId : Uuid} {draws : RoleDraws} {before after : Store}

/-- Runs of `create_default_roles`, each with its own draws. -/
def bootstraps (tenantId : Uuid) : Store → List RoleDraws → Option Store
  | store, [] => some store
  | store, draws :: rest =>
    (rehearse engine (createDefaultRoles tenantId draws : Sql Op Ans Unit Unit) store).bind
      fun done => bootstraps tenantId done.data rest

def permissionsOf (store : Store) (tenantId : Uuid) (role : DefaultRole) : List ToolPermission :=
  match store.roles.rows.find? (named tenantId role.name) with
  | none => []
  | some row => store.permissions.rows.filter (·.roleId = row.id)

theorem of_bootstraps_one (hc : bootstraps tenantId before [draws] = some after) :
    ∃ roles permissions,
      before.roles.insertAll (missingDefaultRoles before tenantId draws) = some roles ∧
      before.permissions.insertAll (missingDefaultRules before tenantId draws) =
        some permissions ∧ after = { before with roles := roles, permissions := permissions } := by
  rw [bootstraps, rehearse_createDefaultRoles] at hc
  cases newRoles : before.roles.insertAll (missingDefaultRoles before tenantId draws) with
  | none => simp [newRoles] at hc
  | some roles =>
    cases newRules : before.permissions.insertAll (missingDefaultRules before tenantId draws) with
    | none => simp [newRules] at hc
    | some permissions =>
      simp only [newRoles, newRules, Option.bind_some, Option.map_some, bootstraps,
        Option.some.injEq] at hc
      exact ⟨roles, permissions, rfl, rfl, hc.symm⟩

theorem missing_of_subset {Row Key : Type} [DecidableEq Key] (key : Row → Key)
    {rows wanted : List Row} (all : ∀ row ∈ wanted, key row ∈ rows.map key) :
    Table.missing key rows wanted = [] := by
  refine filter_eq_nil_iff.mpr fun row hi => ?_
  obtain ⟨other, hf, same⟩ := mem_map.mp (all row hi)
  simp only [Bool.not_eq_true', Bool.not_eq_false, any_eq_true, decide_eq_true_eq]
  exact ⟨other, hf, same⟩

theorem map_key_subset {Row Key : Type} [DecidableEq Key] (key : Row → Key)
    {rows wanted : List Row} :
    ∀ row ∈ wanted, key row ∈ (rows ++ Table.missing key rows wanted).map key := by
  intro row hi
  rw [map_append, mem_append]
  by_cases known : key row ∈ rows.map key
  · exact .inl known
  · refine .inr (mem_map_of_mem (mem_filter.mpr ⟨hi, ?_⟩))
    simp only [Bool.not_eq_true', any_eq_false, decide_eq_true_eq]
    exact fun other hf same => known (same ▸ mem_map_of_mem hf)

theorem ruleKey_rulesFor (ids : DefaultRole → Uuid) (first second : RoleDraws) :
    (rulesFor ids first).map ruleKey = (rulesFor ids second).map ruleKey := by
  rfl

/-- A later run finds every role and every rule. -/
theorem bootstraps_again (hc : bootstraps tenantId before [draws] = some after)
    (rest : List RoleDraws) : bootstraps tenantId after rest = some after := by
  obtain ⟨roles, permissions, newRoles, newRules, rfl⟩ := of_bootstraps_one hc
  induction rest with
  | nil => rfl
  | cons later rest ih =>
    have hf := find?_storedRole newRoles
    have sameIds : storedRoleId roles.rows tenantId later =
        storedRoleId before.roles.rows tenantId draws := by
      funext role
      rw [storedRoleId, hf role]
      rfl
    have noRoles : missingRoles roles.rows tenantId later defaultRoles = [] := by
      refine missing_of_subset roleKey fun row hi => ?_
      obtain ⟨role, _, rfl⟩ := mem_map.mp hi
      exact mem_map.mpr ⟨_, mem_of_find?_eq_some (hf role), rfl⟩
    have noRules : missingRules permissions.rows (rulesFor (storedRoleId roles.rows tenantId later)
        later) = [] := by
      refine missing_of_subset ruleKey fun row hi => ?_
      have wanted := mem_map_of_mem hi (f := ruleKey)
      rw [sameIds, ruleKey_rulesFor _ later draws] at wanted
      obtain ⟨rule, hl, same⟩ := mem_map.mp wanted
      rw [Table.of_insertAll newRules, ← same]
      exact map_key_subset ruleKey rule hl
    rw [bootstraps, rehearse_createDefaultRoles]
    simp only [missingDefaultRoles, missingDefaultRules, noRoles, noRules]
    exact ih

/-- The tenant has none of the roles, and no rule belongs to a role yet to be drawn. -/
structure Vacant (tenantId : Uuid) (draws : RoleDraws) (store : Store) : Prop where
  roles : ∀ row ∈ store.roles.rows, ∀ role, named tenantId (DefaultRole.name role) row = false
  rules : ∀ row ∈ store.permissions.rows, ∀ role, row.roleId ≠ draws.roleId role

theorem grants_permissionsOf (vacant : Vacant tenantId draws before)
    (hc : bootstraps tenantId before [draws] = some after) (role : DefaultRole) :
    Grants role (permissionsOf after tenantId role) := by
  obtain ⟨roles, permissions, newRoles, newRules, rfl⟩ := of_bootstraps_one hc
  have ids : storedRoleId before.roles.rows tenantId draws = draws.roleId := by
    funext role
    rw [storedRoleId, find?_eq_none.mpr fun row hi => by simp [vacant.roles row hi role]]
    rfl
  have injective := storedRoleId_injective newRoles
  have rows := Table.of_insertAll newRules
  rw [missingDefaultRules, missingRules, ids] at rows
  rw [ids] at injective
  have fresh : Table.missing ruleKey before.permissions.rows (rulesFor draws.roleId draws) =
      rulesFor draws.roleId draws := by
    refine filter_eq_self.mpr fun row hi => ?_
    obtain ⟨⟨rule, index⟩, _, rfl⟩ := mem_map.mp hi
    simp only [Bool.not_eq_true', any_eq_false, decide_eq_true_eq]
    exact fun other hf same => vacant.rules other hf rule.role (congrArg (·.1) same)
  rw [fresh] at rows
  simp only [permissionsOf, find?_storedRole newRoles role, ids, rows]
  constructor
  · intro row hi
    obtain ⟨hf, owned⟩ := mem_filter.mp hi
    rw [decide_eq_true_eq] at owned
    rcases mem_append.mp hf with old | new
    · exact absurd owned (vacant.rules row old role)
    · obtain ⟨⟨rule, index⟩, hl, rfl⟩ := mem_map.mp new
      exact ⟨rule, (mem_zipIdx_iff_getElem?.mp hl |> mem_of_getElem?), injective owned,
        rfl, rfl, rfl, rfl⟩
  · intro rule hl named
    obtain ⟨index, hf⟩ := mem_iff_getElem?.mp hl
    refine ⟨_, mem_filter.mpr ⟨mem_append_right _ (mem_map_of_mem (a := (rule, index))
      (mem_zipIdx_iff_getElem?.mpr hf)), ?_⟩, rfl, rfl, rfl, rfl⟩
    simp [named]

/-- What the four administrative roles may call once the default roles are created, and that
creating them again changes nothing. -/
theorem default_roles_reach (vacant : Vacant tenantId draws before)
    (hc : bootstraps tenantId before [draws] = some after) :
    (∀ rest, bootstraps tenantId before (draws :: rest) = some after) ∧
      ∀ subject slug tool : String, ∀ may : DefaultRole → Prop,
        (∀ role, may role ↔ (evaluatePermission fnmatchcase subject slug tool
          (permissionsOf after tenantId role)).allowed = true) →
        may .orgOwner ∧ (may .superAdmin ↔ ¬ "billing_".toList <+: tool.toList) ∧
          (may .orgAdmin ↔
            ¬ "billing_".toList <+: tool.toList ∧ ¬ "org_delete".toList <+: tool.toList) ∧
          (may .developer ↔ "server_".toList <+: tool.toList ∨ "tool_".toList <+: tool.toList ∨
            "rate_limit_".toList <+: tool.toList ∨ "audit_".toList <+: tool.toList) := by
  refine ⟨fun rest => ?_, fun subject slug tool may isMay => ?_⟩
  · have again := bootstraps_again hc rest
    rw [bootstraps] at hc ⊢
    obtain ⟨done, ran, ended⟩ := Option.bind_eq_some_iff.mp hc
    cases ended
    rw [ran, Option.bind_some, again]
  have reach : ∀ role allows denies, role ≠ .viewer → Leads role .allow allows →
      Leads role .deny denies → (may role ↔ (∃ lead ∈ allows, lead.toList <+: tool.toList) ∧
        ¬ ∃ lead ∈ denies, lead.toList <+: tool.toList) := by
    intro role allows denies hv allow deny
    rw [isMay, (grants_permissionsOf vacant hc role).allowed_iff_of_ne_viewer hv,
      allow.exists_hits_iff, ← not_exists, deny.exists_hits_iff]
  have owner := reach .orgOwner [""] [] (by decide) (by unfold Leads; decide +kernel)
    (by unfold Leads; decide +kernel)
  have admin := reach .superAdmin [""] ["billing_"] (by decide)
    (by unfold Leads; decide +kernel) (by unfold Leads; decide +kernel)
  have manager := reach .orgAdmin [""] ["billing_", "org_delete"] (by decide)
    (by unfold Leads; decide +kernel) (by unfold Leads; decide +kernel)
  have developer := reach .developer ["server_", "tool_", "rate_limit_", "audit_"]
    ["billing_", "org_", "user_", "role_"] (by decide)
    (by unfold Leads; decide +kernel) (by unfold Leads; decide +kernel)
  have apart : ∀ first ∈ ["server_", "tool_", "rate_limit_", "audit_"],
      ∀ second ∈ ["billing_", "org_", "user_", "role_"], Apart first.toList second.toList := by
    unfold Apart
    decide +kernel
  refine ⟨?_, ?_, ?_, ?_⟩
  · rw [owner]
    simp
  · rw [admin]
    simp
  · rw [manager]
    simp
  · rw [developer, and_iff_left_of_imp]
    · simp
    · rintro ⟨first, known, leads⟩ ⟨second, other, starts⟩
      have distinct := apart first known second other
      exact ( prefix_or_prefix_of_prefix leads starts).elim distinct.1 distinct.2

theorem default_roles_reach_sample : ∃ after,
    bootstraps ⟨1⟩ emptyStore [roleDraws 10] = some after ∧
      ∀ rest, bootstraps ⟨1⟩ emptyStore (roleDraws 10 :: rest) = some after := by
  have accepted : (bootstraps ⟨1⟩ emptyStore [roleDraws 10]).isSome = true := by decide +kernel
  obtain ⟨after, hc⟩ := Option.isSome_iff_exists.mp accepted
  exact ⟨after, hc, (default_roles_reach ⟨by simp [emptyStore, Table.empty],
    by simp [emptyStore, Table.empty]⟩ hc).1⟩

end Bootstrap

end Portcullis.Auth.DefaultRoles
