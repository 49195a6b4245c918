import QueryGate.Proofs.Mention
import QueryGate.Proofs.Request.Check

set_option relaxedAutoImplicit false
set_option autoImplicit false

/-!
# The problems of a request

The sizes and the names of a request are checked in one pass, so that a caller learns of all
problems at once. Nothing is told twice and nothing is left out, and what has passed is not refused
for a name afterwards, although every name is looked at again where it is used.

## Main definitions

* `QueryGate.Ceilings.Admits` — sizes and names with nothing wrong.
* `QueryGate.Ceilings.BadNames` — the mentions that are no names, with a problem for each.
* `QueryGate.Ceilings.Reports` — what there is to tell about sizes and names.
* `QueryGate.Ceilings.Carries` — a refusal that tells all of it.
* `QueryGate.QueryRequest.NamesTaken` — every name in a request is taken where it is used.

## Main results

* `QueryGate.Ceilings.check_eq_ok_iff` — sizes and names pass when nothing is wrong.
* `QueryGate.Ceilings.reports_problems` — the problems found are those there are.
* `QueryGate.QueryRequest.refusedFor_check` — no request is refused for a single name.
* `QueryGate.Limits.check_tells_all` — the check as a whole.
-/

namespace QueryGate

open Outcome

namespace Ceilings

/-! ## What there is to tell -/

/-- A list of a request that has a ceiling. -/
structure Bound where
  /-- What the list holds. -/
  what : String
  /-- How long it is. -/
  length : ℕ
  /-- How long it may be. -/
  ceiling : ℕ

/-- What is told of a list beyond its ceiling. -/
def Bound.message (b : Bound) : String :=
  "Too many " ++ b.what ++ ": " ++ toString b.length ++ " (max: " ++ toString b.ceiling ++ ")"

/-- The lists that have a ceiling, in the order in which they are told of. -/
def bounds (c : Ceilings) (select keys groupBy : List String) : List Bound := [
  ⟨"select columns", select.length, c.select⟩, ⟨"group_by columns", groupBy.length, c.groupBy⟩,
  ⟨"filter keys", keys.length, c.filters⟩]

/-- Nothing is wrong with sizes and names. -/
structure Admits (c : Ceilings) (select keys groupBy others : List String) : Prop where
  /-- There are not too many columns to show. -/
  selectCount : select.length ≤ c.select
  /-- There are not too many columns to group by. -/
  groupByCount : groupBy.length ≤ c.groupBy
  /-- There are not too many columns to filter by. -/
  filterCount : keys.length ≤ c.filters
  /-- Everything mentioned may stand as the name of a column. -/
  names : ∀ name ∈ select ++ keys ++ groupBy ++ others, IsColumnName name

/-- The mentions that may not stand as the name of a column, with a problem for each. -/
structure BadNames (mentions names problems : List String) : Prop where
  /-- They are all there, and nothing else is. -/
  mem : ∀ name, name ∈ names ↔ name ∈ mentions ∧ ¬ IsColumnName name
  /-- Each stands there once, in the order of first mention. -/
  order : names.Pairwise fun a b => mentions.idxOf a < mentions.idxOf b
  /-- Of each the first fault found is told. -/
  told : List.Forall₂ (fun name problem => ∃ fault, nameFault? identLimit name = some fault ∧
    problem = fault.message .column name) names problems

/-- What there is to tell about sizes and names: a problem for each ceiling exceeded and then one
for each bad name. -/
def Reports (c : Ceilings) (select keys groupBy others problems : List String) : Prop :=
  ∃ names told, BadNames (select ++ keys ++ groupBy ++ others) names told ∧
    problems = ((c.bounds select keys groupBy).filter fun b => b.ceiling < b.length).map
      Bound.message ++ told

/-- A refusal tells of a single problem as it is, and of several with their number, the whole list
and the ceilings. -/
def Carries (c : Ceilings) (r : Refusal) : List String → Prop
  | [] => False
  | [problem] => r.failure = .validation problem none []
  | problems =>
    r.failure = .validation
      (toString problems.length ++ " validation problems: " ++ Text.joined "; " problems)
      (some ("Limits: " ++ toString c.select ++ " select columns, " ++ toString c.groupBy ++
        " group_by columns, " ++ toString c.filters ++ " filter keys"))
      problems

/-! ## The problems found -/

variable {c : Ceilings} {select keys groupBy others : List String}

/-- What is kept of a list for having a value, and these values. -/
lemma forall₂_filterMap {α β : Type} (f : α → Option β) (xs : List α) :
    List.Forall₂ (fun x y => f x = some y) (xs.filter fun x => (f x).isSome) (xs.filterMap f) := by
  induction xs with
  | nil => simp
  | cons x xs ih =>
    cases hx : f x with
    | none => simpa [hx] using ih
    | some y => simpa [hx] using ih

lemma nameProblem_eq_none_iff {name : String} : nameProblem name = none ↔ IsColumnName name := by
  rw [nameProblem, Option.map_eq_none_iff, nameFault?_eq_none_iff, isColumnName_iff]

lemma nameProblem_eq_some_iff {name problem : String} : nameProblem name = some problem ↔
    ∃ fault, nameFault? identLimit name = some fault ∧ problem = fault.message .column name := by
  rw [nameProblem, Option.map_eq_some_iff]
  exact exists_congr fun _ => and_congr_right fun _ => eq_comm

/-- The names with a problem are the bad ones among those mentioned. -/
lemma badNames_eraseDups (mentions : List String) :
    BadNames mentions (mentions.eraseDups.filter fun name => (nameProblem name).isSome)
      (mentions.eraseDups.filterMap nameProblem) := by
  constructor
  case mem =>
    intro name
    rw [List.mem_filter, List.mem_eraseDups, ← nameProblem_eq_none_iff, Option.isSome_iff_ne_none]
  case order => exact (pairwise_eraseDups mentions).sublist List.filter_sublist
  case told =>
    refine (forall₂_filterMap nameProblem mentions.eraseDups).imp fun name problem h => ?_
    exact nameProblem_eq_some_iff.mp h

/-- A list beyond its ceiling is a problem. -/
lemma excess_eq (what : String) (length ceiling : ℕ) :
    excess what length ceiling =
      ([⟨what, length, ceiling⟩].filter fun b : Bound => b.ceiling < b.length).map
        Bound.message := by
  by_cases h : ceiling < length <;> simp [excess, Bound.message, h]

/-- **The problems found are those there are.** -/
lemma reports_problems (c : Ceilings) (select keys groupBy others : List String) :
    c.Reports select keys groupBy others (c.problems select keys groupBy others) := by
  refine ⟨_, _, badNames_eraseDups (select ++ keys ++ groupBy ++ others), ?_⟩
  have hbounds : c.bounds select keys groupBy = [⟨"select columns", select.length, c.select⟩] ++
      [⟨"group_by columns", groupBy.length, c.groupBy⟩] ++
      [⟨"filter keys", keys.length, c.filters⟩] := rfl
  rw [problems, excess_eq, excess_eq, excess_eq, hbounds]
  simp only [List.filter_append, List.map_append]

/-- **Sizes and names pass exactly when nothing is wrong with them.** -/
lemma check_eq_ok_iff :
    c.check select keys groupBy others = .ok () ↔ c.Admits select keys groupBy others := by
  have hok : (∃ u, c.check select keys groupBy others = .ok u) ↔ _ := c.check_isOk_iff
  simp only [nameProblem_eq_none_iff] at hok
  constructor
  · intro h
    obtain ⟨hselect, hgroups, hkeys, hnames⟩ := hok.mp ⟨(), h⟩
    exact ⟨hselect, hgroups, hkeys, hnames⟩
  · intro h
    obtain ⟨_, hu⟩ := hok.mpr ⟨h.selectCount, h.groupByCount, h.filterCount, h.names⟩
    exact hu

/-- What does not pass is refused with all that there is to tell. -/
lemma exists_refusal (h : ¬ c.Admits select keys groupBy others) :
    ∃ refusal problems, c.check select keys groupBy others = .error refusal ∧
      c.Reports select keys groupBy others problems ∧ c.Carries refusal problems := by
  rw [← check_eq_ok_iff, check] at h
  rw [check]
  have hreports := reports_problems c select keys groupBy others
  rcases hproblems : c.problems select keys groupBy others with _ | ⟨p, _ | ⟨p', ps⟩⟩
  case nil => exact absurd rfl (hproblems ▸ h)
  case cons.nil => exact ⟨_, [p], rfl, hproblems ▸ hreports, rfl⟩
  case cons.cons => exact ⟨_, p :: p' :: ps, rfl, hproblems ▸ hreports, rfl⟩

end Ceilings

/-! ## Refusals after the check -/

/-- A refusal that is not for a single name. -/
def Refusal.IsOther (r : Refusal) : Prop := ∀ kind name fault, r ≠ .badName kind name fault

/-- A text in a filter is not refused for a name. -/
lemma refusedFor_checkText (s : String) : RefusedFor Refusal.IsOther (checkText s) := by
  unfold checkText
  split_ifs
  · exact .error nofun
  · split
    · exact .error nofun
    · exact .ok ()

mutual

/-- Nor is a value in a filter. -/
lemma refusedFor_checkValue : ∀ j, RefusedFor Refusal.IsOther (checkValue j)
  | .str s => refusedFor_checkText s
  | .arr items => by
    rw [checkValue]
    split_ifs
    · exact .error nofun
    · exact refusedFor_checkValues items
  | .null | .bool _ | .int _ | .float _ | .obj _ => .ok ()

/-- Nor are the items of a list. -/
lemma refusedFor_checkValues : ∀ js, RefusedFor Refusal.IsOther (checkValues js)
  | [] => .ok ()
  | j :: rest => by
    rw [checkValues]
    split
    · exact refusedFor_checkValues rest
    · next refusal hrefusal => exact .error (refusedFor_checkValue j _ hrefusal)

end

/-- A literal is not refused for a name. -/
lemma refusedFor_literal (column : Ident) (j : Json) :
    RefusedFor Refusal.IsOther (Literal.ofJson column j) := by
  unfold Literal.ofJson
  split
  case h_3 => split_ifs <;> exact .ok _
  case h_5 => exact .error nofun
  all_goals exact .ok _

/-- Nor is a list of literals. -/
lemma refusedFor_readList (column : Ident) (items : List Json) :
    RefusedFor Refusal.IsOther (readList column items) := by
  unfold readList
  split_ifs
  · exact .error nofun
  · exact .mapM fun j _ => refusedFor_literal column j

/-- Nor is an operator with its operand. -/
lemma refusedFor_ofOperator (column : Ident) (op : String) (operand : Json) :
    RefusedFor Refusal.IsOther (Condition.ofOperator column op operand) := by
  have hliteral := fun j => refusedFor_literal column j
  unfold Condition.ofOperator
  generalize Text.lower op = word
  split
  case h_2 =>
    split
    · exact (refusedFor_readList column _).map
    · exact .error nofun
  case h_3 =>
    split
    · exact (hliteral _).bind fun _ _ => (hliteral _).bind fun _ _ => .ok _
    · exact .error nofun
  case h_8 =>
    split
    · exact (refusedFor_checkText _).bind fun _ _ => .ok _
    · exact (hliteral _).map
  case h_9 => exact .error nofun
  all_goals exact (hliteral operand).map

/-- Nor are the conditions on a column. -/
lemma refusedFor_readConditions (column : Ident) (j : Json) :
    RefusedFor Refusal.IsOther (readConditions column j) := by
  unfold readConditions
  split
  case h_1 => exact .ok _
  case h_2 => exact (refusedFor_readList column _).map
  case h_3 =>
    split_ifs
    · exact .error nofun
    · exact .mapM fun m _ => (refusedFor_checkValue m.2).bind fun _ _ =>
        refusedFor_ofOperator column m.1 m.2
  case h_4 => exact (refusedFor_literal column _).map

/-- Filters on columns with good names are not refused for a name. -/
lemma refusedFor_readFilters {members : List (String × Json)}
    (h : ∀ m ∈ members, ∃ c, Ident.column m.1 = .ok c) :
    RefusedFor Refusal.IsOther (readFilters members) := by
  refine .mapM fun m hm => ?_
  obtain ⟨c, hc⟩ := h m hm
  unfold ColumnFilter.ofJson
  dsimp only
  rw [hc]
  exact (refusedFor_checkValue m.2).bind fun _ _ =>
    (refusedFor_readConditions c m.2).bind fun _ _ => .ok _

/-- The name of a function is not the name of a column. -/
lemma refusedFor_ofName (name : String) : RefusedFor Refusal.IsOther (Aggregator.ofName name) := by
  unfold Aggregator.ofName
  generalize Text.lower (Text.trim name) = word
  split
  case h_11 => exact .error nofun
  all_goals exact .ok _

/-- Aggregations of columns with good names are not refused for a name. -/
lemma refusedFor_readAggregation {m : String × Json} (h : ∃ c, Ident.column m.1 = .ok c) :
    RefusedFor Refusal.IsOther (readAggregation m) := by
  obtain ⟨c, hc⟩ := h
  unfold readAggregation
  split
  · rw [hc]
    exact RefusedFor.bind (.ok c) fun _ _ => (refusedFor_ofName _).bind fun _ _ => .ok _
  · exact .error nofun

/-! ## Requests after the check -/

/-- Neither is a sort order. -/
lemma refusedFor_parse (spec : OrderSpec) : RefusedFor Refusal.IsOther spec.parse := by
  refine .mapM fun term _ => ?_
  unfold SortTerm.parse
  split
  · split <;> exact .ok _
  · split_ifs
    · exact .ok _
    · exact .ok _
    · exact .error nofun
  · exact .error nofun

/-- Neither are sizes and names that are checked together. -/
lemma Ceilings.refusedFor_check (c : Ceilings) (select keys groupBy others : List String) :
    RefusedFor Refusal.IsOther (c.check select keys groupBy others) := by
  unfold check
  split
  · exact .ok ()
  · exact .error nofun
  · exact .error nofun

/-- Columns with good names are taken. -/
lemma exists_uniqueColumns {names : List String} (h : ∀ name ∈ names, IsColumnName name) :
    ∃ columns, uniqueColumns names = .ok columns := by
  refine mapM_isOk_iff.mpr fun name hname => ?_
  exact Ident.exists_column_iff.mpr (h name (List.mem_eraseDups.mp hname))

namespace QueryRequest

variable {limits : Limits} {r : QueryRequest} {order : List SortTerm}

/-- The check of the sizes and the names of a request, once its sort order is read. -/
def checkTogether (limits : Limits) (r : QueryRequest) (order : List SortTerm) :
    Except Refusal Unit :=
  limits.ceilings.check r.select (r.filters.map (·.1)) r.groupBy
    (order.map (·.column) ++ r.aggregations.map (·.1) ++ r.having.map (·.1))

/-- Every name in a request is taken where it is used. -/
structure NamesTaken (r : QueryRequest) (order : List SortTerm) : Prop where
  /-- The columns to show. -/
  select : ∃ columns, uniqueColumns r.select = .ok columns
  /-- The columns to group by. -/
  groupBy : ∃ columns, uniqueColumns r.groupBy = .ok columns
  /-- The columns that rows are filtered by. -/
  filters : ∀ m ∈ r.filters, ∃ c, Ident.column m.1 = .ok c
  /-- The columns that groups are filtered by. -/
  having : ∀ m ∈ r.having, ∃ c, Ident.column m.1 = .ok c
  /-- The aggregated columns. -/
  aggregations : ∀ m ∈ r.aggregations, ∃ c, Ident.column m.1 = .ok c
  /-- The columns to sort by. -/
  orderBy : ∃ keys, order.mapM SortTerm.check = .ok keys

/-- After the check every name is taken. -/
lemma namesTaken (h : r.checkTogether limits order = .ok ()) : r.NamesTaken order := by
  have hnames := (Ceilings.check_eq_ok_iff.mp h).names
  simp only [List.mem_append, or_imp, forall_and, List.forall_mem_map] at hnames
  obtain ⟨⟨⟨hselect, hfilters⟩, hgroupBy⟩, ⟨horder, haggregations⟩, hhaving⟩ := hnames
  constructor
  case select => exact exists_uniqueColumns hselect
  case groupBy => exact exists_uniqueColumns hgroupBy
  case filters => exact fun m hm => Ident.exists_column_iff.mpr (hfilters m hm)
  case having => exact fun m hm => Ident.exists_column_iff.mpr (hhaving m hm)
  case aggregations => exact fun m hm => Ident.exists_column_iff.mpr (haggregations m hm)
  case orderBy =>
    refine mapM_isOk_iff.mpr fun t ht => ?_
    obtain ⟨c, hc⟩ := Ident.exists_column_iff.mpr (horder t ht)
    exact ⟨⟨c, t.descending⟩, by rw [SortTerm.check, hc]; rfl⟩

/-- A request whose sizes and names do not pass is refused as they are. -/
lemma check_of_refused {refusal : Refusal} (horder : r.orderBy.parse = .ok order)
    (hoffset : r.offset.getD 0 ≤ maxOffset)
    (h : r.checkTogether limits order = .error refusal) : r.check limits = .error refusal := by
  unfold check
  rw [horder, ok_bind]
  dsimp only
  rw [if_neg (Nat.not_lt.mpr hoffset)]
  exact bind_eq_error_iff.mpr (.inl h)

/-- **No request is refused for a single name.** -/
lemma refusedFor_check (limits : Limits) (r : QueryRequest) :
    RefusedFor Refusal.IsOther (r.check limits) := by
  unfold check
  refine (refusedFor_parse r.orderBy).bind fun order _ => ?_
  dsimp only
  split_ifs
  · exact .error nofun
  refine (limits.ceilings.refusedFor_check _ _ _ _).bind fun _ hsizes => ?_
  have htaken : r.NamesTaken order := namesTaken hsizes
  obtain ⟨select, hselect⟩ := htaken.select
  obtain ⟨groupBy, hgroupBy⟩ := htaken.groupBy
  obtain ⟨keys, hkeys⟩ := htaken.orderBy
  rw [hselect, hgroupBy, hkeys]
  refine RefusedFor.bind (.ok select) fun _ _ => RefusedFor.bind (.ok groupBy) fun _ _ => ?_
  refine (refusedFor_readFilters htaken.filters).bind fun _ _ => ?_
  refine (refusedFor_readFilters htaken.having).bind fun _ _ => ?_
  refine RefusedFor.bind (.mapM fun m hm => ?_) fun _ _ =>
    RefusedFor.bind (.ok keys) fun _ _ => .ok _
  exact refusedFor_readAggregation (htaken.aggregations m hm)

end QueryRequest

/-- **The check of sizes and names is exact and complete.** They pass exactly when every list keeps
its ceiling and everything mentioned may stand as the name of a column. Otherwise the refusal tells
of every ceiling exceeded and of every bad name once, in order. In a request this check comes after
the sort order and the offset. Once it has passed every name is taken where it is used, so that no
request is refused for a single name.

**Proof sketch.** The check gathers the problems of the three ceilings and then those of the names
mentioned, each name once, and passes just if there are none (`Ceilings.check_eq_ok_iff`,
`Ceilings.exists_refusal`). A request goes through it before any of its names is taken. As the names
that are checked are all that are taken later, none of them fails there (`QueryRequest.namesTaken`,
`QueryRequest.refusedFor_check`). -/
theorem Limits.check_tells_all (limits : Limits) :
    (∀ select keys groupBy others,
      (limits.ceilings.check select keys groupBy others = .ok () ↔
        limits.ceilings.Admits select keys groupBy others) ∧
      (¬ limits.ceilings.Admits select keys groupBy others →
        ∃ refusal problems, limits.ceilings.check select keys groupBy others = .error refusal ∧
          limits.ceilings.Reports select keys groupBy others problems ∧
          limits.ceilings.Carries refusal problems)) ∧
    ∀ r : QueryRequest,
      (∀ order, r.orderBy.parse = .ok order → r.offset.getD 0 ≤ maxOffset →
        (∀ refusal, r.checkTogether limits order = .error refusal →
          r.check limits = .error refusal) ∧
        (r.checkTogether limits order = .ok () → r.NamesTaken order)) ∧
      ∀ refusal, r.check limits = .error refusal → refusal.IsOther := by
  refine ⟨fun select keys groupBy others => ?_, fun r => ⟨fun order horder hoffset => ?_, ?_⟩⟩
  · exact ⟨Ceilings.check_eq_ok_iff, Ceilings.exists_refusal⟩
  · exact ⟨fun _ => QueryRequest.check_of_refused horder hoffset, QueryRequest.namesTaken⟩
  · exact QueryRequest.refusedFor_check limits r

/-- Too many columns with a keyword among them, and too many keys with a blank in one of them. -/
theorem Limits.check_tells_all_four :
    let limits : Limits := { ceilings := { select := 2, filters := 1 } }
    ¬ limits.ceilings.Admits ["a", "b", "drop"] ["x", "y y"] [] [] ∧
      ∃ refusal problems,
        limits.ceilings.check ["a", "b", "drop"] ["x", "y y"] [] [] = .error refusal ∧
        limits.ceilings.Reports ["a", "b", "drop"] ["x", "y y"] [] [] problems ∧
        limits.ceilings.Carries refusal problems ∧ problems.length = 4 := by
  intro limits
  have hnot : ¬ limits.ceilings.Admits ["a", "b", "drop"] ["x", "y y"] [] [] :=
    fun h => absurd h.selectCount (by decide)
  obtain ⟨refusal, problems, hcheck, hreports, hcarries⟩ :=
    ((check_tells_all limits).1 _ _ _ _).2 hnot
  refine ⟨hnot, refusal, problems, hcheck, hreports, hcarries, ?_⟩
  have hfound : limits.ceilings.check ["a", "b", "drop"] ["x", "y y"] [] [] =
      .error (.problems (limits.ceilings.problems ["a", "b", "drop"] ["x", "y y"] [] []) 2 50 1) :=
    rfl
  obtain rfl := Except.error.inj (hcheck.symm.trans hfound)
  rcases problems with _ | ⟨p, _ | ⟨p', ps⟩⟩
  case nil => exact absurd hcarries id
  case cons.nil => exact absurd hcarries nofun
  case cons.cons =>
    obtain ⟨-, -, hproblems⟩ := Failure.validation.inj hcarries
    rw [← hproblems]
    rfl

end QueryGate
