import Portcullis.Gateway.AuthContext

/-!
# Filtered list responses

`app/auth/tool_filter.py`: the items of a list response that the caller may not use
are removed from the decoded upstream body.
-/

namespace Portcullis.Auth.ToolFilter

open Auth.Rbac Gateway Lib Lib.PyStr Models

section Filter

variable (ctx : Context) (subject : Subject) (permissions : List ToolPermission) (nameKey : String)

/-- The condition of the comprehension on one item.  `in` is a key test on objects, a
membership test on arrays and a substring test on strings; only objects can be
indexed by a name afterwards. -/
def keepItem (item : Json) : Except Exn Bool :=
  match item with
  | .obj members =>
    match Json.get nameKey members with
    | none => .ok false
    | some name => (evaluateOn ctx subject name permissions).map (·.allowed)
  | .arr items =>
    if items.any fun element => decide (element = .str nameKey) then .error .typeError
    else .ok false
  | .str text => if occursIn nameKey.toList text.toList then .error .typeError else .ok false
  | _ => .error .typeError

def filterItems : List Json → Except Exn (List Json)
  | [] => .ok []
  | item :: rest => do
    let keep ← keepItem ctx subject permissions nameKey item
    let kept ← filterItems rest
    return if keep then item :: kept else kept

theorem filterItems_eq_filter (keep : Json → Bool) (items : List Json) (decides : ∀ item ∈ items,
      keepItem ctx subject permissions nameKey item = .ok (keep item)) :
    filterItems ctx subject permissions nameKey items = .ok (items.filter keep) := by
  induction items with
  | nil => rfl
  | cons head rest ih =>
    obtain ⟨decided, later⟩ := List.forall_mem_cons.mp decides
    rw [filterItems, decided, ih later, List.filter_cons]
    cases keep head <;> rfl

/-- `_filter_list_by_permission`.  A comprehension over an object runs over its keys,
one over a string over its characters. -/
def filterListByPermission (items : Json) : Except Exn (List Json) :=
  match items with
  | .arr elements => filterItems ctx subject permissions nameKey elements
  | .obj members =>
    filterItems ctx subject permissions nameKey (members.map fun member => .str member.1)
  | .str text =>
    filterItems ctx subject permissions nameKey
      (text.toList.map fun char => .str (String.ofList [char]))
  | _ => .error .typeError

/-- The item has a name that `evaluate_permission` denies. -/
def Denied (item : Json) : Prop :=
  ∃ members name decision, item = .obj members ∧ Json.get nameKey members = some name ∧
    evaluateOn ctx subject name permissions = .ok decision ∧ decision.allowed = false

theorem not_denied_of_keepItem (item : Json)
    (kept : keepItem ctx subject permissions nameKey item = .ok true) :
    ¬ Denied ctx subject permissions nameKey item := by
  rintro ⟨members, name, decision, rfl, named, evaluated, refused⟩
  rw [keepItem, named] at kept
  simp only [evaluated, Except.map, refused] at kept
  cases kept

theorem not_denied_of_mem_filterItems (items kept : List Json)
    (filtered : filterItems ctx subject permissions nameKey items = .ok kept) :
    ∀ item ∈ kept, ¬ Denied ctx subject permissions nameKey item := by
  induction items generalizing kept with
  | nil =>
    obtain rfl := Except.ok.inj filtered
    intro item mem
    cases mem
  | cons head rest ih =>
    rw [filterItems] at filtered
    cases decided : keepItem ctx subject permissions nameKey head with
    | error exn =>
      rw [decided] at filtered
      cases filtered
    | ok keep =>
      cases later : filterItems ctx subject permissions nameKey rest with
      | error exn =>
        rw [decided, later] at filtered
        cases filtered
      | ok tail =>
        rw [decided, later] at filtered
        obtain rfl := Except.ok.inj filtered
        intro item mem
        cases keep with
        | false => exact ih tail later item mem
        | true =>
          rcases List.mem_cons.mp mem with rfl | inTail
          · exact not_denied_of_keepItem ctx subject permissions nameKey item decided
          · exact ih tail later item inTail

theorem not_denied_of_filterListByPermission (items : Json) (kept : List Json)
    (filtered : filterListByPermission ctx subject permissions nameKey items = .ok kept) :
    ∀ item ∈ kept, ¬ Denied ctx subject permissions nameKey item := by
  unfold filterListByPermission at filtered
  split at filtered
  · exact not_denied_of_mem_filterItems ctx subject permissions nameKey _ kept filtered
  · exact not_denied_of_mem_filterItems ctx subject permissions nameKey _ kept filtered
  · exact not_denied_of_mem_filterItems ctx subject permissions nameKey _ kept filtered
  · cases filtered

end Filter

def filterGenericList (ctx : Context) (subject : Subject) (listKey nameKey : String)
    (responseBody : Json) : Gate Json :=
  match responseBody with
  | .obj response =>
    match Json.get "result" response with
    | some (.obj result) =>
      match Json.get listKey result with
      | none =>
        -- unknown shape: answer with an empty list
        pure (withItems response result [])
      | some items => do
        let permissions ← orRaise (← request (.permissionsForSubject subject.tenantId
          subject.subjectType subject.subjectId))
        let allowedItems ← orRaise
          (filterListByPermission ctx subject permissions nameKey items)
        pure (withItems response result allowedItems)
    | _ => pure responseBody
  | _ => raise .attributeError
where
  withItems (response result : Json.Members) (items : List Json) : Json :=
    .obj (Json.assign false "result" (.obj (Json.assign false listKey (.arr items) result))
      response)

theorem filterGenericList_exec (env : (op : Op) → Ans op) (ctx : Context) (subject : Subject)
    (permissions : List ToolPermission) (listKey nameKey : String)
    (resp result : Json.Members) (items kept : List Json)
    (rules : env (.permissionsForSubject subject.tenantId subject.subjectType
      subject.subjectId) = .ok permissions)
    (ans : Json.get "result" resp = some (.obj result))
    (listed : Json.get listKey result = some (.arr items))
    (filtered : filterItems ctx subject permissions nameKey items = .ok kept) :
    (filterGenericList ctx subject listKey nameKey (.obj resp)).exec env =
      .ok (filterGenericList.withItems listKey resp result kept) := by
  simp only [filterGenericList, ans, listed]
  rw [Prog.exec_bind_ok_iff]
  refine ⟨_, rfl, ?_⟩
  rw [Prog.exec_bind_ok_iff]
  refine ⟨permissions, ?_, ?_⟩
  · rw [exec_orRaise_ok_iff]
    exact rules
  rw [Prog.exec_bind_ok_iff]
  refine ⟨kept, ?_, rfl⟩
  rw [exec_orRaise_ok_iff]
  exact filtered

/-! ## Items of a list response -/

/-- The items a list response holds: the list in its result, or a result that is
itself a list. -/
def listItems (listKey : String) (responseBody : Json) : List Json :=
  match responseBody with
  | .obj response =>
    match Json.get "result" response with
    | some (.obj result) =>
      match Json.get listKey result with
      | some (.arr items) => items
      | _ => []
    | some (.arr items) => items
    | _ => []
  | _ => []

theorem listItems_withItems (listKey : String) (resp result : Json.Members)
    (items : List Json) :
    listItems listKey (filterGenericList.withItems listKey resp result items) = items := by
  simp [listItems, filterGenericList.withItems, Json.get_assign]

/-- The filter leaves no denied item, unless the result is a list itself: that shape is
returned as it came. -/
theorem filterGenericList_ok (env : (op : Op) → Ans op) (ctx : Context) (subject : Subject)
    (permissions : List ToolPermission) (listKey nameKey : String)
    (responseBody filtered : Json)
    (rules : env (.permissionsForSubject subject.tenantId subject.subjectType
      subject.subjectId) = .ok permissions)
    (ran : (filterGenericList ctx subject listKey nameKey responseBody).exec env = .ok filtered) :
    (∀ item ∈ listItems listKey filtered, ¬ Denied ctx subject permissions nameKey item) ∨
      filtered = responseBody ∧ ∃ resp items, responseBody = .obj resp ∧
        Json.get "result" resp = some (.arr items) := by
  unfold filterGenericList at ran
  split at ran
  · rename_i resp
    split at ran
    · left
      split at ran
      · obtain rfl := Except.ok.inj ran
        rw [listItems_withItems]
        intro item mem
        cases mem
      · rename_i items _
        obtain ⟨answer, asked, afterAsk⟩ := (Prog.exec_bind_ok_iff _ _ _ _).mp ran
        obtain rfl : env _ = answer := Except.ok.inj asked
        obtain ⟨found, read, afterRead⟩ := (Prog.exec_bind_ok_iff _ _ _ _).mp afterAsk
        rw [exec_orRaise_ok_iff, rules] at read
        obtain rfl := Except.ok.inj read
        obtain ⟨kept, decided, ret⟩ := (Prog.exec_bind_ok_iff _ _ _ _).mp afterRead
        rw [exec_orRaise_ok_iff] at decided
        obtain rfl := Except.ok.inj ret
        rw [listItems_withItems]
        exact not_denied_of_filterListByPermission ctx subject permissions nameKey items
          kept decided
    · rename_i notObject
      obtain rfl := Except.ok.inj ran
      cases found : Json.get "result" resp with
      | none =>
        simp [listItems, found]
      | some result =>
        cases result with
        | arr items => exact .inr ⟨rfl, resp, items, rfl, found⟩
        | obj members => exact absurd found (notObject members)
        | _ =>
          left
          simp [listItems, found]
  · cases ran

end Portcullis.Auth.ToolFilter
