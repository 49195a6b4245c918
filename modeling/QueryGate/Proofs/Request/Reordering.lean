import QueryGate.Proofs.Json.Reordering
import QueryGate.Proofs.Request.Acceptance
import QueryGate.Proofs.Shuffled

set_option relaxedAutoImplicit false
set_option autoImplicit false

/-!
# Checked requests up to the order of keys

Two requests that are equal up to the order of the keys in their objects are both refused, or stand
for queries that are equal up to the order of their filters, of the conditions in each filter, and
of their aggregations.

## Main definitions

* `QueryGate.QueryRequest.Reordered`, `QueryGate.ComparisonRequest.Reordered` — two requests that
  are equal up to the order of keys.
* `QueryGate.Query.Reordered`, `QueryGate.Comparison.Reordered` — two checked requests that are
  equal up to the order of what was read from objects.

## Main results

* `QueryGate.readFilters_agree` — filters are read in any order of keys.
* `QueryGate.QueryRequest.Reordered.check`, `QueryGate.ComparisonRequest.Reordered.check` — so are
  requests.
-/

namespace QueryGate

open Json Outcome

/-- Two values that are equal up to the order of keys at every depth. -/
abbrev Json.Same : Json → Json → Prop := Json.Reordered Eq

/-- Two members with one key and values that are equal up to the order of keys. -/
def MemberSame (m n : String × Json) : Prop := m.1 = n.1 ∧ Json.Same m.2 n.2

/-- Two filters on one column with the same conditions in any order. -/
structure ColumnFilter.Reordered (f g : ColumnFilter) : Prop where
  /-- The columns. -/
  column : f.column = g.column
  /-- The conditions. -/
  conditions : f.conditions.Perm g.conditions

/-! ## Values -/

/-- Objects that are equal up to the order of keys have the same members in any order. -/
lemma Json.Reordered.members {ms ns : List (String × Json)} (h : Json.Same (.obj ms) (.obj ns)) :
    Shuffled MemberSame ms ns := by
  cases h with
  | number ha => exact absurd ha nofun
  | obj order keys values =>
    rw [← List.forall₂_eq_eq_eq, List.forall₂_map_left_iff, List.forall₂_map_right_iff] at keys
    rw [List.forall₂_map_left_iff, List.forall₂_map_right_iff] at values
    exact ⟨_, order, List.Forall₂.mp (fun m n hkey hvalue => ⟨hkey, hvalue⟩) keys values⟩

/-- Shuffled members have the same keys. -/
lemma Shuffled.perm_keys {ms ns : List (String × Json)} (h : Shuffled MemberSame ms ns) :
    (ms.map (·.1)).Perm (ns.map (·.1)) := h.map_perm fun _ _ hmn => hmn.1

mutual

/-- Values that are equal up to the order of keys pass the same ceilings, and are refused in the
same words. -/
theorem checkValue_eq_of_same : ∀ {a b : Json}, Json.Same a b → checkValue a = checkValue b
  | _, _, .null => rfl
  | _, _, .bool _ => rfl
  | _, _, .number _ _ h => congrArg checkValue h
  | _, _, .str _ => rfl
  | .arr _, .arr _, .arr h => by
    rw [checkValue, checkValue, h.length_eq, checkValues_eq_of_same h]
  | .obj _, .obj _, .obj _ _ _ => rfl

/-- So do lists of such values. -/
theorem checkValues_eq_of_same : ∀ {xs ys : List Json}, List.Forall₂ Json.Same xs ys →
    checkValues xs = checkValues ys
  | [], [], _ => rfl
  | _ :: _, _ :: _, .cons hfirst hrest => by
    rw [checkValues, checkValues, checkValue_eq_of_same hfirst, checkValues_eq_of_same hrest]

end

/-- The order of keys does not decide which literal a value is: no object is one. -/
lemma Literal.ofJson_eq_of_same (column : Ident) {a b : Json} (h : Json.Same a b) :
    Literal.ofJson column a = Literal.ofJson column b := by
  cases h with
  | number _ _ h => rw [h]
  | _ => rfl

/-- Nor which literals a list holds. -/
lemma readList_eq_of_same (column : Ident) {xs ys : List Json} (h : List.Forall₂ Json.Same xs ys) :
    readList column xs = readList column ys := by
  have hempty : xs.isEmpty = ys.isEmpty := by cases h <;> rfl
  have hitems : xs.mapM (Literal.ofJson column) = ys.mapM (Literal.ofJson column) :=
    mapM_eq_of_forall₂ (fun _ _ hxy => Literal.ofJson_eq_of_same column hxy) h
  rw [readList, readList, hempty, hitems]

/-- Nor which condition an operator makes of its operand. -/
lemma Condition.ofOperator_eq_of_same (column : Ident) (op : String) {a b : Json}
    (h : Json.Same a b) :
    Condition.ofOperator column op a = Condition.ofOperator column op b := by
  have hliteral := Literal.ofJson_eq_of_same column h
  cases h with
  | null => rfl
  | bool v => rfl
  | number _ _ h => rw [h]
  | str s => rfl
  | arr hitems =>
    unfold ofOperator
    generalize Text.lower op = word
    split
    case h_2 =>
      dsimp only
      rw [readList_eq_of_same column hitems]
    case h_3 =>
      rcases hitems with _ | ⟨h₁, _ | ⟨h₂, _ | _⟩⟩
      case cons.cons.nil =>
        dsimp only
        rw [Literal.ofJson_eq_of_same column h₁, Literal.ofJson_eq_of_same column h₂]
      all_goals rfl
    all_goals rfl
  | obj _ _ _ =>
    unfold ofOperator
    generalize Text.lower op = word
    split <;> rfl

/-! ## Filters -/

/-- Operators are read in any order. -/
lemma readOperators_agree (column : Ident) {ms ns : List (String × Json)}
    (h : Shuffled MemberSame ms ns) :
    Agree List.Perm (readOperators column ms) (readOperators column ns) := by
  refine (Agree.mapM_shuffled (S := Eq) (fun m n hmn => ?_) h).imp fun _ _ => Shuffled.perm
  dsimp only
  rw [hmn.1, checkValue_eq_of_same hmn.2, Condition.ofOperator_eq_of_same column n.1 hmn.2]
  exact Agree.refl _

/-- The conditions on a column are read in any order of keys. -/
lemma readConditions_agree (column : Ident) {a b : Json} (h : Json.Same a b) :
    Agree List.Perm (readConditions column a) (readConditions column b) := by
  have hrefl : ∀ {c : Json}, Agree List.Perm (readConditions column c) (readConditions column c) :=
    fun {c} => (Agree.refl _).imp fun _ _ heq => heq ▸ List.Perm.refl _
  cases h with
  | null => exact hrefl
  | bool v => exact hrefl
  | number _ _ h => exact h ▸ hrefl
  | str s => exact hrefl
  | arr hitems =>
    rw [readConditions, readConditions, readList_eq_of_same column hitems]
    exact (Agree.refl _).map fun _ _ heq => heq ▸ List.Perm.refl _
  | obj order keys values =>
    have hmembers := (Json.Reordered.obj order keys values).members
    unfold readConditions
    dsimp only
    rw [hmembers.isEmpty_eq]
    split_ifs
    · exact .error _ _
    · exact readOperators_agree column hmembers

/-- A filter is read in any order of keys. -/
lemma ColumnFilter.ofJson_agree {m n : String × Json} (h : MemberSame m n) :
    Agree ColumnFilter.Reordered (ColumnFilter.ofJson m.1 m.2) (ColumnFilter.ofJson n.1 n.2) := by
  unfold ColumnFilter.ofJson
  rw [h.1, checkValue_eq_of_same h.2]
  refine Agree.bind_same _ fun column => Agree.bind_same _ fun _ => ?_
  exact (readConditions_agree column h.2).bind fun _ _ hperm => .ok ⟨rfl, hperm⟩

/-- **Filters are read in any order of keys.** -/
theorem readFilters_agree {ms ns : List (String × Json)} (h : Shuffled MemberSame ms ns) :
    Agree (Shuffled ColumnFilter.Reordered) (readFilters ms) (readFilters ns) := by
  unfold readFilters
  refine Agree.mapM_shuffled (fun m n hmn => ?_) h
  exact ColumnFilter.ofJson_agree hmn

/-- Aggregations are read in any order. -/
lemma readAggregations_agree {ms ns : List (String × Json)} (h : Shuffled MemberSame ms ns) :
    Agree List.Perm (ms.mapM readAggregation) (ns.mapM readAggregation) := by
  refine (Agree.mapM_shuffled (S := Eq) (fun m n hmn => ?_) h).imp fun _ _ => Shuffled.perm
  obtain ⟨k, v⟩ := m
  obtain ⟨l, w⟩ := n
  obtain ⟨hkey, hvalue⟩ := hmn
  dsimp only at hkey hvalue
  subst hkey
  cases hvalue with
  | number _ _ h => exact h ▸ Agree.refl _
  | _ => exact Agree.refl _

/-! ## Queries -/

/-- Two requests that are equal up to the order of the keys in their objects. -/
structure QueryRequest.Reordered (r r' : QueryRequest) : Prop where
  /-- The datasets. -/
  fileId : r.fileId = r'.fileId
  /-- The columns to show. -/
  select : r.select = r'.select
  /-- The conditions on rows. -/
  filters : Json.Same (.obj r.filters) (.obj r'.filters)
  /-- The columns to group by. -/
  groupBy : r.groupBy = r'.groupBy
  /-- The sort orders. -/
  orderBy : r.orderBy = r'.orderBy
  /-- The most rows wanted. -/
  limit : r.limit = r'.limit
  /-- The numbers of rows to pass over. -/
  offset : r.offset = r'.offset
  /-- The aggregation functions. -/
  aggregations : Json.Same (.obj r.aggregations) (.obj r'.aggregations)
  /-- The conditions on groups. -/
  having : Json.Same (.obj r.having) (.obj r'.having)

/-- Two queries that are equal up to the order of filters, of the conditions in each, and of
aggregations. -/
structure Query.Reordered (q q' : Query) : Prop where
  /-- The columns to show. -/
  select : q.select = q'.select
  /-- The conditions on rows. -/
  filters : Shuffled ColumnFilter.Reordered q.filters q'.filters
  /-- The columns to group by. -/
  groupBy : q.groupBy = q'.groupBy
  /-- The sort orders. -/
  orderBy : q.orderBy = q'.orderBy
  /-- The most rows. -/
  limit : q.limit = q'.limit
  /-- The numbers of rows to pass over. -/
  offset : q.offset = q'.offset
  /-- The aggregated columns with their functions. -/
  aggregations : q.aggregations.Perm q'.aggregations
  /-- The conditions on groups. -/
  having : Shuffled ColumnFilter.Reordered q.having q'.having

/-- Sizes and names are checked alike in any order. -/
lemma Ceilings.check_agree (c : Ceilings) (select groupBy : List String)
    {keys keys' others others' : List String} (hkeys : keys.Perm keys')
    (hothers : others.Perm others') :
    Agree (fun _ _ => True) (c.check select keys groupBy others)
      (c.check select keys' groupBy others') :=
  Agree.of_follows (c.check_follows select groupBy hkeys hothers)
    (c.check_follows select groupBy hkeys.symm hothers.symm)

/-- **Requests that are equal up to the order of keys are both refused, or stand for queries that
are equal up to the order of what was read from objects.** -/
theorem QueryRequest.Reordered.check {r r' : QueryRequest} (h : r.Reordered r') (limits : Limits) :
    Agree Query.Reordered (r.check limits) (r'.check limits) := by
  have hfilters := h.filters.members
  have haggregations := h.aggregations.members
  have hhaving := h.having.members
  unfold QueryRequest.check
  rw [h.orderBy, h.offset, h.select, h.groupBy, h.limit]
  refine Agree.bind_same _ fun order => ?_
  dsimp only
  split_ifs
  · exact .error _ _
  have hsizes := limits.ceilings.check_agree r'.select r'.groupBy hfilters.perm_keys
    ((haggregations.perm_keys.append_left (order.map (·.column))).append hhaving.perm_keys)
  refine hsizes.bind fun _ _ _ => ?_
  refine Agree.bind_same _ fun select => Agree.bind_same _ fun groupBy => ?_
  refine (readFilters_agree hfilters).bind fun _ _ hrows => ?_
  refine (readFilters_agree hhaving).bind fun _ _ hgroups => ?_
  refine (readAggregations_agree haggregations).bind fun _ _ hvalues => ?_
  exact Agree.bind_same _ fun orderBy => .ok ⟨rfl, hrows, rfl, rfl, rfl, rfl, hvalues, hgroups⟩

/-! ## Comparisons -/

/-- Two requests to compare years that are equal up to the order of the keys in their objects. -/
structure ComparisonRequest.Reordered (r r' : ComparisonRequest) : Prop where
  /-- The datasets. -/
  fileId : r.fileId = r'.fileId
  /-- The conditions on rows. -/
  filters : Json.Same (.obj r.filters) (.obj r'.filters)
  /-- The columns whose entries are ranked. -/
  keyColumn : r.keyColumn = r'.keyColumn
  /-- The columns whose values are compared. -/
  valueColumn : r.valueColumn = r'.valueColumn
  /-- The columns that hold the year. -/
  yearColumn : r.yearColumn = r'.yearColumn
  /-- The first years. -/
  baseYear : r.baseYear = r'.baseYear
  /-- The second years. -/
  compareYear : r.compareYear = r'.compareYear
  /-- How many entries are wanted. -/
  topCount : r.topCount = r'.topCount
  /-- Which changes come first. -/
  direction : r.direction = r'.direction

/-- Two comparisons that are equal up to the order of filters and of the conditions in each. -/
structure Comparison.Reordered (c c' : Comparison) : Prop where
  /-- The columns whose entries are ranked. -/
  keyColumn : c.keyColumn = c'.keyColumn
  /-- The columns whose values are compared. -/
  valueColumn : c.valueColumn = c'.valueColumn
  /-- The columns that hold the year. -/
  yearColumn : c.yearColumn = c'.yearColumn
  /-- The first years. -/
  baseYear : c.baseYear = c'.baseYear
  /-- The second years. -/
  compareYear : c.compareYear = c'.compareYear
  /-- The conditions on rows. -/
  filters : Shuffled ColumnFilter.Reordered c.filters c'.filters
  /-- How many entries are shown. -/
  topCount : c.topCount = c'.topCount
  /-- Which changes come first. -/
  direction : c.direction = c'.direction

/-- **Requests to compare years that are equal up to the order of keys are both refused, or stand
for comparisons that are equal up to the order of what was read from objects.** -/
theorem ComparisonRequest.Reordered.check {r r' : ComparisonRequest} (h : r.Reordered r')
    (limits : Limits) :
    Agree (Option.Rel Comparison.Reordered) (r.check limits) (r'.check limits) := by
  have hfilters := h.filters.members
  have hsizes := limits.ceilings.check_agree [r'.keyColumn, r'.valueColumn, r'.yearColumn] []
    hfilters.perm_keys (List.Perm.refl [])
  unfold ComparisonRequest.check
  rw [h.keyColumn, h.valueColumn, h.yearColumn, h.baseYear, h.compareYear, h.topCount, h.direction]
  refine hsizes.bind fun _ _ _ => ?_
  dsimp only
  split_ifs
  · exact .error _ _
  refine Agree.bind_same _ fun key => Agree.bind_same _ fun value => ?_
  refine Agree.bind_same _ fun year => ?_
  refine (readFilters_agree hfilters).bind fun _ _ hrows => .ok ?_
  cases clampTop r'.topCount limits.maxRows with
  | none => exact .none
  | some top => exact .some ⟨rfl, rfl, rfl, rfl, rfl, hrows, rfl, rfl⟩

end QueryGate
