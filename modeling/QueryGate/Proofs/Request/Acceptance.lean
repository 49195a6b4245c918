import QueryGate.Proofs.Json.Canonical
import QueryGate.Proofs.Request.KeyOrder

set_option relaxedAutoImplicit false
set_option autoImplicit false

/-!
# Accepted requests up to the order of keys

Whether a request is accepted does not depend on the order of the keys in its objects.

## Main definitions

* `QueryGate.ComparisonRequest.Alike` — two requests to compare years that differ at most in the
  order of keys.

## Main results

* `QueryGate.checkValue_eq_of_alike` — alike values have the same ceilings exceeded.
* `QueryGate.readFilters_follows` — alike filters are read alike.
* `QueryGate.QueryRequest.Alike.check`, `QueryGate.ComparisonRequest.Alike.check` — alike requests
  are accepted alike.

## Implementation notes

Numbers are compared as they are written, and a floating number without a JSON form is written as
the null value. So the values of the first request are to have a JSON form throughout.
-/

namespace QueryGate

open Json Outcome

/-! ## Values -/

mutual

/-- Alike values pass the same ceilings, and are refused in the same words. -/
theorem checkValue_eq_of_alike : ∀ {a b : Json}, Json.Alike a b → checkValue a = checkValue b
  | .str _, _, h => by rw [h.str]
  | .arr xs, _, h => by
    obtain ⟨ys, rfl, hitems⟩ := h.arr
    rw [checkValue, checkValue, hitems.length_eq, checkValues_eq_of_alike hitems]
  | .obj ms, _, h => by
    obtain ⟨ns, rfl, -⟩ := h.obj
    rfl
  | .null, b, h | .bool _, b, h | .int _, b, h | .float _, b, h => by
    have hbare : b.isBare = true := isBare_of_opening h.opening_eq.symm
    cases b <;> first | rfl | exact absurd hbare nofun

/-- So do alike lists. -/
theorem checkValues_eq_of_alike : ∀ {xs ys : List Json}, List.Forall₂ Json.Alike xs ys →
    checkValues xs = checkValues ys
  | [], [], _ => rfl
  | _ :: _, _ :: _, .cons hfirst hrest => by
    rw [checkValues, checkValues, checkValue_eq_of_alike hfirst, checkValues_eq_of_alike hrest]

end

/-- A value alike to a literal is one. -/
lemma Literal.follows {a b : Json} (h : Json.Alike a b) (hfinite : Finite a) (column : Ident) :
    Follows (Literal.ofJson column a) (Literal.ofJson column b) := by
  rintro ⟨l, hl⟩
  have hnull : b ≠ .null := h.ne_null hfinite (by rintro rfl; exact absurd hl nofun)
  cases b with
  | null => exact absurd rfl hnull
  | int n =>
    unfold ofJson
    dsimp only
    split_ifs <;> exact ⟨_, rfl⟩
  | bool _ | float _ | str _ => exact ⟨_, rfl⟩
  | arr ys =>
    obtain ⟨xs, rfl, -⟩ := h.symm.arr
    exact absurd hl nofun
  | obj ns =>
    obtain ⟨ms, rfl, -⟩ := h.symm.obj
    exact absurd hl nofun

/-- A list alike to a list of literals is one. -/
lemma readList_follows {xs ys : List Json} (h : List.Forall₂ Json.Alike xs ys)
    (hfinite : ∀ x ∈ xs, Finite x) (column : Ident) :
    Follows (readList column xs) (readList column ys) := by
  have hitems : Follows (xs.mapM (Literal.ofJson column)) (ys.mapM (Literal.ofJson column)) := by
    refine Follows.mapM fun y hy => ?_
    obtain ⟨x, hx, hxy⟩ := exists_of_forall₂ h.flip hy
    exact ⟨x, hx, Literal.follows hxy (hfinite x hx) column⟩
  cases h with
  | nil => exact Follows.refl _
  | cons _ _ => exact hitems

/-- An operand alike to one that an operator takes is taken as well. -/
lemma Condition.follows {a b : Json} (h : Json.Alike a b) (hfinite : Finite a) (column : Ident)
    (op : String) :
    Follows (Condition.ofOperator column op a) (Condition.ofOperator column op b) := by
  have hliteral := Literal.follows h hfinite column
  unfold ofOperator
  generalize Text.lower op = word
  split
  case h_1 | h_4 | h_5 | h_6 | h_7 => exact hliteral.map
  case h_2 =>
    cases a with
    | arr xs =>
      obtain ⟨ys, rfl, hitems⟩ := h.arr
      exact (readList_follows hitems hfinite.items column).map
    | _ => exact Follows.of_error _ _
  case h_3 =>
    cases a with
    | arr xs =>
      obtain ⟨ys, rfl, hitems⟩ := h.arr
      have hxs := hfinite.items
      rcases hitems with _ | ⟨h₁, _ | ⟨h₂, _ | _⟩⟩
      case cons.cons.nil =>
        exact (Literal.follows h₁ (hxs _ (by simp)) column).bind fun _ _ _ _ =>
          (Literal.follows h₂ (hxs _ (by simp)) column).bind fun _ _ _ _ => Follows.of_ok _ _
      all_goals exact Follows.of_error _ _
    | _ => exact Follows.of_error _ _
  case h_8 =>
    cases a with
    | str s =>
      obtain rfl := h.str
      exact Follows.refl _
    | _ =>
      cases b with
      | str s => exact absurd h.symm.str nofun
      | _ => exact hliteral.map
  case h_9 => exact Follows.of_error _ _

/-- Operators alike to those of a column are read as well, in any order. -/
lemma readOperators_follows {ms ns : List (String × Json)} (h : Members.Alike ms ns)
    (hfinite : ∀ m ∈ ms, Finite m.2) (column : Ident) :
    Follows (readOperators column ms) (readOperators column ns) := by
  refine Follows.mapM fun n hn => ?_
  obtain ⟨m, hm, hkey, hvalue⟩ := h.exists_left hn
  refine ⟨m, hm, ?_⟩
  dsimp only
  rw [hkey, checkValue_eq_of_alike hvalue]
  exact Follows.bind_same fun _ => Condition.follows hvalue (hfinite m hm) column n.1

/-- A value alike to the conditions on a column is read as well. -/
lemma readConditions_follows {a b : Json} (h : Json.Alike a b) (hfinite : Finite a)
    (column : Ident) : Follows (readConditions column a) (readConditions column b) := by
  cases b with
  | arr ys =>
    obtain ⟨xs, rfl, -⟩ := h.symm.arr
    exact (readList_follows h.items hfinite.items column).map
  | obj ns =>
    obtain ⟨ms, rfl, -⟩ := h.symm.obj
    have hempty : ms.isEmpty = ns.isEmpty := by simpa using h.members.perm_keys.isEmpty_eq
    unfold readConditions
    dsimp only
    rw [hempty]
    split_ifs
    · exact Follows.of_error _ _
    · exact readOperators_follows h.members hfinite.members column
  | int n =>
    unfold readConditions Literal.ofJson
    dsimp only
    split_ifs <;> exact Follows.of_ok _ _
  | _ => exact Follows.of_ok _ _

/-- Alike filters are read alike. -/
lemma readFilters_follows {ms ns : List (String × Json)} (h : Members.Alike ms ns)
    (hfinite : ∀ m ∈ ms, Finite m.2) : Follows (readFilters ms) (readFilters ns) := by
  refine Follows.mapM fun n hn => ?_
  obtain ⟨m, hm, hkey, hvalue⟩ := h.exists_left hn
  refine ⟨m, hm, ?_⟩
  dsimp only [ColumnFilter.ofJson]
  rw [hkey, checkValue_eq_of_alike hvalue]
  exact Follows.bind_same fun column => Follows.bind_same fun _ =>
    (readConditions_follows hvalue (hfinite m hm) column).bind fun _ _ _ _ => Follows.of_ok _ _

/-- An aggregation alike to another is read alike. -/
lemma readAggregation_follows {m n : String × Json} (h : MemberAlike m n) :
    Follows (readAggregation m) (readAggregation n) := by
  intro hread
  obtain ⟨a, ha⟩ := hread
  obtain ⟨func, hfunc⟩ := readAggregation_eq_ok ha
  have hsame : n = m := by
    have hvalue := h.2
    rw [hfunc] at hvalue
    exact Prod.ext h.1.symm (hvalue.str.trans hfunc.symm)
  exact ⟨a, hsame ▸ ha⟩

/-- Sizes and names are what they are in any order. -/
lemma Ceilings.check_follows (c : Ceilings) (select groupBy : List String)
    {keys keys' others others' : List String} (hkeys : keys.Perm keys')
    (hothers : others.Perm others') :
    Follows (c.check select keys groupBy others) (c.check select keys' groupBy others') := by
  unfold Follows
  rw [check_isOk_iff, check_isOk_iff, hkeys.length_eq]
  simp only [List.mem_append, hkeys.mem_iff, hothers.mem_iff]
  exact id

/-- **Queries that differ at most in the order of keys have one canonical text**, where keys are
distinct. -/
theorem QueryRequest.Alike.toJson {r r' : QueryRequest} (h : r.Alike r')
    (hfilters : (r'.filters.map (·.1)).Nodup) (haggregations : (r'.aggregations.map (·.1)).Nodup)
    (hhaving : (r'.having.map (·.1)).Nodup) : Json.Alike r.toJson r'.toJson := by
  have hrefl : ∀ {k j j'}, j = j' → MemberAlike (k, j) (k, j') :=
    fun hj => ⟨rfl, hj ▸ Alike.refl _⟩
  refine (alike_obj_iff (by simp)).mpr ⟨_, List.Perm.refl _, ?_⟩
  exact .cons (hrefl (by rw [h.fileId])) <| .cons (hrefl (by rw [h.select])) <|
    .cons ⟨rfl, (alike_obj_iff hfilters).mpr h.filters⟩ <| .cons (hrefl (by rw [h.groupBy])) <|
    .cons (hrefl (by rw [h.orderBy])) <| .cons (hrefl (by rw [h.limit])) <|
    .cons (hrefl (by rw [h.offset])) <|
    .cons ⟨rfl, (alike_obj_iff haggregations).mpr h.aggregations⟩ <|
    .cons ⟨rfl, (alike_obj_iff hhaving).mpr h.having⟩ .nil

/-- **Queries that differ at most in the order of keys are accepted alike.** -/
theorem QueryRequest.Alike.check {limits : Limits} {r r' : QueryRequest} (h : r.Alike r')
    (hfilters : ∀ m ∈ r.filters, Finite m.2) (hhaving : ∀ m ∈ r.having, Finite m.2) :
    Follows (r.check limits) (r'.check limits) := by
  unfold QueryRequest.check
  rw [← h.orderBy, ← h.offset, ← h.select, ← h.groupBy, ← h.limit]
  refine Follows.bind_same fun order => ?_
  dsimp only
  split_ifs
  · exact Follows.of_error _ _
  have hsizes := Ceilings.check_follows limits.ceilings r.select r.groupBy h.filters.perm_keys
    ((h.aggregations.perm_keys.append_left (order.map (·.column))).append h.having.perm_keys)
  refine hsizes.bind fun _ _ _ _ => ?_
  refine Follows.bind_same fun select => Follows.bind_same fun groupBy => ?_
  refine (readFilters_follows h.filters hfilters).bind fun _ _ _ _ => ?_
  refine (readFilters_follows h.having hhaving).bind fun _ _ _ _ => ?_
  have haggregations : Follows (r.aggregations.mapM readAggregation)
      (r'.aggregations.mapM readAggregation) := by
    refine Follows.mapM fun n hn => ?_
    obtain ⟨m, hm, hmn⟩ := h.aggregations.exists_left hn
    exact ⟨m, hm, readAggregation_follows hmn⟩
  refine haggregations.bind fun _ _ _ _ => ?_
  exact (Follows.refl (order.mapM SortTerm.check)).bind fun _ _ _ _ => Follows.of_ok _ _

/-! ## Comparisons -/

namespace ComparisonRequest

/-- Two requests to compare years that differ at most in the order of the keys of their objects. -/
structure Alike (r r' : ComparisonRequest) : Prop where
  /-- The datasets. -/
  fileId : r.fileId = r'.fileId
  /-- The conditions on rows. -/
  filters : Members.Alike r.filters r'.filters
  /-- The columns whose entries are ranked. -/
  keyColumn : r.keyColumn = r'.keyColumn
  /-- The columns whose values are compared. -/
  valueColumn : r.valueColumn = r'.valueColumn
  /-- The columns that hold the year. -/
  yearColumn : r.yearColumn = r'.yearColumn
  /-- The first years. -/
  baseYear : r.baseYear = r'.baseYear
  /-- The second years. -/
  compareYear : r.compareYear = r'.compareYear
  /-- How many entries are wanted. -/
  topCount : r.topCount = r'.topCount
  /-- Which changes come first. -/
  direction : r.direction = r'.direction

/-- Directions are told apart by their words. -/
lemma direction_eq_of_text {d d' : Direction} (h : d.text = d'.text) : d = d' := by
  cases d <;> cases d' <;> first | rfl | exact absurd h (by decide)

/-- **Requests to compare years with one canonical text differ at most in the order of keys.** -/
theorem alike_of_canonical {r r' : ComparisonRequest}
    (h : r.toJson.canonical = r'.toJson.canonical) : r.Alike r' := by
  have hfields := (Json.alike_of_canonical h).record rfl (by
    simp only [List.map_cons, List.map_nil]
    decide)
  simp only [List.forall₂_cons, MemberAlike, true_and, List.Forall₂.nil, and_true] at hfields
  obtain ⟨hfile, hfilters, hkey, hvalue, hyear, hbase, hcompare, htop, hdirection⟩ := hfields
  exact {
    fileId := (Json.str.inj hfile.str).symm
    filters := hfilters.members
    keyColumn := (Json.str.inj hkey.str).symm
    valueColumn := (Json.str.inj hvalue.str).symm
    yearColumn := (Json.str.inj hyear.str).symm
    baseYear := hbase.int
    compareYear := hcompare.int
    topCount := htop.ofNat?
    direction := direction_eq_of_text (Json.str.inj hdirection.str).symm }

/-- **Requests to compare years that differ at most in the order of keys have one canonical text**,
where keys are distinct. -/
theorem Alike.toJson {r r' : ComparisonRequest} (h : r.Alike r')
    (hfilters : (r'.filters.map (·.1)).Nodup) : Json.Alike r.toJson r'.toJson := by
  have hrefl : ∀ {k j j'}, j = j' → MemberAlike (k, j) (k, j') :=
    fun hj => ⟨rfl, hj ▸ Json.Alike.refl _⟩
  refine (alike_obj_iff (by simp)).mpr ⟨_, List.Perm.refl _, ?_⟩
  exact .cons (hrefl (by rw [h.fileId])) <|
    .cons ⟨rfl, (alike_obj_iff hfilters).mpr h.filters⟩ <| .cons (hrefl (by rw [h.keyColumn])) <|
    .cons (hrefl (by rw [h.valueColumn])) <| .cons (hrefl (by rw [h.yearColumn])) <|
    .cons (hrefl (by rw [h.baseYear])) <| .cons (hrefl (by rw [h.compareYear])) <|
    .cons (hrefl (by rw [h.topCount])) <| .cons (hrefl (by rw [h.direction])) .nil

/-- What an accepted request says about its comparison: how many entries it shows, if there is one,
and that its filters are those of the request. -/
lemma topCount_and_filters_of_check {limits : Limits} {r : ComparisonRequest}
    {checked : Option Comparison} (h : r.check limits = .ok checked) :
    checked.map (·.topCount) = clampTop r.topCount limits.maxRows ∧
      ∀ c ∈ checked, readFilters r.filters = .ok c.filters := by
  unfold ComparisonRequest.check at h
  obtain ⟨-, -, h⟩ := bind_eq_ok_iff.mp h
  dsimp only at h
  split_ifs at h
  · exact absurd h nofun
  obtain ⟨key, -, h⟩ := bind_eq_ok_iff.mp h
  obtain ⟨value, -, h⟩ := bind_eq_ok_iff.mp h
  obtain ⟨year, -, h⟩ := bind_eq_ok_iff.mp h
  obtain ⟨filters, hfilters, h⟩ := bind_eq_ok_iff.mp h
  rw [← Except.ok.inj h]
  refine ⟨?_, fun c hc => ?_⟩
  · rw [Option.map_map]
    exact congrFun Option.map_id _
  · obtain ⟨count, -, rfl⟩ := Option.map_eq_some_iff.mp hc
    exact hfilters

/-- How many entries a comparison shows, if the request has one. -/
lemma map_topCount_of_check {limits : Limits} {r : ComparisonRequest}
    {checked : Option Comparison} (h : r.check limits = .ok checked) :
    checked.map (·.topCount) = clampTop r.topCount limits.maxRows :=
  (topCount_and_filters_of_check h).1

/-- Whether an accepted request has a comparison depends on how many entries it may have. -/
lemma isSome_of_check {limits : Limits} {r : ComparisonRequest} {checked : Option Comparison}
    (h : r.check limits = .ok checked) :
    checked.isSome = (clampTop r.topCount limits.maxRows).isSome := by
  rw [← map_topCount_of_check h, Option.isSome_map]

/-- **Comparisons that differ at most in the order of keys are accepted alike.** -/
theorem Alike.check {limits : Limits} {r r' : ComparisonRequest} (h : r.Alike r')
    (hfilters : ∀ m ∈ r.filters, Finite m.2) : Follows (r.check limits) (r'.check limits) := by
  have hsizes := Ceilings.check_follows limits.ceilings
    [r.keyColumn, r.valueColumn, r.yearColumn] [] h.filters.perm_keys (List.Perm.refl [])
  unfold ComparisonRequest.check
  rw [← h.keyColumn, ← h.valueColumn, ← h.yearColumn, ← h.baseYear, ← h.compareYear, ← h.topCount,
    ← h.direction]
  refine hsizes.bind fun _ _ _ _ => ?_
  dsimp only
  split_ifs
  · exact Follows.of_error _ _
  refine Follows.bind_same fun key => Follows.bind_same fun value => ?_
  refine Follows.bind_same fun year => ?_
  exact (readFilters_follows h.filters hfilters).bind fun _ _ _ _ => Follows.of_ok _ _

end ComparisonRequest

end QueryGate
