import QueryGate.Proofs.Sql.Reading.Expression

set_option relaxedAutoImplicit false
set_option autoImplicit false
-- Running a reading goes through the words and the operators of the language.
set_option maxRecDepth 10000

/-!
# Queries of the language

A query of the texts put together here shows items from one table, and has some of the clauses that
the language knows, in their order. A clause ends where one of the later ones opens, so it can be
read on its own.

## Main definitions

* `QueryGate.Sql.Language.clauseWords` — the tokens that come after a table or a clause.
* `QueryGate.Sql.Language.IsItem` — what a query can show.

## Main results

* `QueryGate.Sql.Language.reads_table` — a table is read as the only source.
* `QueryGate.Sql.Language.reads_select` — a query is read clause by clause.
* `QueryGate.Sql.Language.reads_items` — what a query shows is a list of items.
* `QueryGate.Sql.Language.reads_statement` — a query is a statement.
-/

namespace QueryGate.Sql.Language

variable {depth : Nat} {rest : List Token}

/-- The tokens that come after a table or a clause. -/
def clauseWords : List Token := [
  .sign ")", .word "WHERE" true, .word "GROUP" true, .word "HAVING" true, .word "ORDER" true,
  .word "LIMIT" true]

/-- The further parts of a dotted name. -/
lemma reads_dotted (hdot : Kind.after? [.sign "."] rest = none) : ∀ names : List String,
    Reads depth (.part .dotted)
      ((names.flatMap fun n => [.sign ".", .quoted '"' n]) ++ rest) (some rest)
  | [] => .part rfl (.maybe_no hdot)
  | _ :: names => .part rfl (.on_yes rfl rfl ((Reads.one rfl).seq (reads_dotted hdot names)))

/-- The tokens of a table. -/
lemma tokens_tableRef (table : String) : ∃ n names, tokens (tableRef table) =
    .quoted '"' n :: (names : List String).flatMap fun n => [.sign ".", .quoted '"' n] := by
  have hne : Text.fields '.' table ≠ [] := by simp [Text.fields, Text.fieldsOf_ne_nil]
  obtain ⟨n, names, hnames⟩ := List.exists_cons_of_ne_nil hne
  refine ⟨n, names, ?_⟩
  rw [tableRef, hnames, List.map_cons, tokens_sepBy, List.flatMap_map]
  rfl

/-- A table, and no others joined to it. -/
lemma reads_table (h : Begins clauseWords rest) (table : String) :
    Reads depth sources (tokens (tableRef table) ++ rest) (some rest) := by
  obtain ⟨n, names, htokens⟩ := tokens_tableRef table
  have hname : Reads depth dottedName (tokens (tableRef table) ++ rest) (some rest) := by
    rw [htokens]
    exact (Reads.one rfl).seq (reads_dotted (h.after?_eq_none rfl _) names)
  have hlabel : Reads depth sourceLabel rest (some rest) :=
    .on_no (h.after?_eq_none rfl _) (.absent h rfl)
  have hpivots : Reads depth (.part .pivots) rest (some rest) :=
    .part rfl (.on_no (h.after?_eq_none rfl _) (.absent h rfl))
  have hjoins : Reads depth (.part (.joins false)) rest (some rest) :=
    .part rfl (.first_none .done (pick_eq_none h rfl))
  have hsource : Reads depth (.part .source) (tokens (tableRef table) ++ rest) (some rest) := by
    have hall : Reads depth (dottedName ++ .maybe [.sign "("] arguments ++ sourceLabel ++
        .maybe [.word "WITH", .sign "("] (expressions ++ .sign ")") ++ .part .pivots)
        (tokens (tableRef table) ++ rest) (some rest) :=
      (((hname.seq (.absent h rfl)).seq hlabel).seq (.absent h rfl)).seq hpivots
    rw [htokens] at hall ⊢
    exact .part rfl (.on_no rfl (.first_none hall rfl))
  exact .list_one (hsource.seq hjoins) (h.after?_eq_none rfl _)

/-- What rows may be grouped by. -/
def groups : Rule Part := .on [.word "ALL"] .done (.list groupItem)

/-- **A single query** is read clause by clause.

**Proof sketch.** The clauses that are not asked for open with other words than the ones that come
next. -/
theorem reads_select {shown ts₁ ts₂ ts₃ : List Token} {table : String}
    (hshown : ∀ ts, Reads depth (maybeDistinct ++ .maybe [.word "TOP"] top ++ .list item)
      (shown ++ .word "FROM" true :: ts) (some (.word "FROM" true :: ts)))
    (h₁ : Begins clauseWords ts₁) (hwhere : Reads depth maybeWhere ts₁ (some ts₂))
    (hgroup : Reads depth (.maybe [.word "GROUP", .word "BY"] groups) ts₂ (some ts₃))
    (h₃ : Begins clauseWords ts₃)
    (hhaving : Reads depth (.maybe [.word "HAVING"] expression) ts₃ (some rest))
    (h : Begins clauseWords rest) :
    Reads depth select (shown ++ .word "FROM" true :: (tokens (tableRef table) ++ ts₁))
      (some rest) := by
  have hfrom : Reads depth (.maybe [.word "FROM"] sources)
      (.word "FROM" true :: (tokens (tableRef table) ++ ts₁)) (some ts₁) :=
    .on_yes rfl rfl (reads_table h₁ table)
  have hviews : Reads depth (.part .views) ts₁ (some ts₁) :=
    .part rfl (.absent h₁ rfl)
  exact (hshown _).seq (.maybe_no rfl) |>.seq hfrom |>.seq hviews |>.seq hwhere |>.seq hgroup
    |>.seq (.absent h₃ rfl) |>.seq (.absent h₃ rfl) |>.seq (.absent h₃ rfl) |>.seq hhaving
    |>.seq (.absent h rfl) |>.seq (.absent h rfl)

/-- A query with its order and its bounds. -/
lemma reads_query {ts ts₁ ts₂ : List Token} (hselect : Reads depth select ts (some ts₁))
    (h₁ : Begins clauseWords ts₁) (horder : Reads depth maybeOrder ts₁ (some ts₂))
    (hbounds : Reads depth maybeBounds ts₂ (some rest)) (h : Begins [.sign ")"] rest) :
    Reads (depth + 1) query (.word "SELECT" true :: ts) (some rest) := by
  have hbody : Reads depth (.part .body) (.word "SELECT" true :: ts) (some ts₁) :=
    .part rfl (.seq (.first_some rfl hselect) (.first_none .done (pick_eq_none h₁ rfl)))
  have hlocks : Reads depth (.part .locks) rest (some rest) :=
    .part rfl (.absent h rfl)
  have hall : Reads depth
      (.part .body ++ maybeOrder ++ maybeBounds ++ .maybe [.word "FETCH"] fetch ++ .part .locks)
      (.word "SELECT" true :: ts) (some rest) :=
    (((hbody.seq horder).seq hbounds).seq (.absent h rfl)).seq hlocks
  exact .nest rfl (.seq (.maybe_no rfl) (.first_none hall rfl))

/-! ## Items -/

/-- The tokens of an item that a query shows. -/
structure IsItem (ts : List Token) : Prop where
  /-- They are an item, as far as a comma or the table comes next. -/
  reads : ∀ {depth : Nat} {more rest : List Token},
    more = .word "FROM" true :: rest ∨ (∃ next, more = .sign "," :: next) →
    Reads (depth + 2) item (ts ++ more) (some more)
  /-- They do not open with a word that may stand before the items. -/
  opens : ∀ {depth : Nat} (more : List Token),
    Reads depth (maybeDistinct ++ .maybe [.word "TOP"] top) (ts ++ more) (some (ts ++ more))

/-- A column is an item. -/
lemma isItem_name (n : String) : IsItem [.quoted '"' n] where
  reads hmore := by
    rcases hmore with rfl | ⟨next, rfl⟩ <;> exact reads_of_run 100 fun _ => rfl
  opens _ := reads_of_run 20 fun _ => rfl

/-- The tokens of an aggregate under its name. -/
lemma tokens_projection (a : Aggregate) : tokens a.projection =
    tokens (word a.func.opening) ++ .quoted '"' a.source.text :: .sign ")" :: .word "AS" true ::
      [.quoted '"' a.label.text] := by
  simp only [Aggregate.projection, Aggregate.expression, Aggregator.apply, tokens_append,
    List.append_assoc]
  rfl

/-- The value of an aggregate under its name is an item. -/
lemma isItem_projection (a : Aggregate) : IsItem (tokens a.projection) where
  reads {depth more rest} hmore := by
    have hlabel : Reads (depth + 2) (label itemEnds .done)
        (.word "AS" true :: .quoted '"' a.label.text :: more) (some more) :=
      .on_yes rfl rfl ((Reads.one rfl).seq .done)
    have hvalue : Reads (depth + 2) expression
        (tokens (word a.func.opening) ++ .quoted '"' a.source.text :: .sign ")" ::
          .word "AS" true :: .quoted '"' a.label.text :: more)
        (some (.word "AS" true :: .quoted '"' a.label.text :: more)) := by
      have has : Begins ends (.word "AS" true :: .quoted '"' a.label.text :: more) :=
        .cons (by decide)
      have hoperand : Reads (depth + 1) operand _ _ :=
        reads_call (has.mono ends_subset_follows) a.func a.source.text
      exact .expression (.part rfl (hoperand.seq (reads_operators has rfl)))
    have hall : Reads (depth + 2) (expression ++ (maybeFilter ++ label itemEnds .done)) _ _ :=
      hvalue.seq (.seq (.maybe_no rfl) hlabel)
    rw [tokens_projection, List.append_assoc]
    cases hfunc : a.func <;> rw [hfunc] at hall <;>
      exact .on_no rfl (.attempt_no (reads_of_run 20 fun _ => rfl) hall)
  opens {depth} more := by
    rw [tokens_projection, List.append_assoc]
    cases a.func <;> exact reads_of_run 20 fun _ => rfl

/-- Items with commas between them, up to the table. -/
lemma reads_items {parts : List Sql} (hne : parts ≠ []) (h : ∀ q ∈ parts, IsItem (tokens q))
    (ts : List Token) :
    Reads (depth + 2) (maybeDistinct ++ .maybe [.word "TOP"] top ++ .list item)
      (tokens (sepBy ", " parts) ++ .word "FROM" true :: ts) (some (.word "FROM" true :: ts)) := by
  have hlist : Reads (depth + 2) (.list item)
      (tokens (sepBy ", " parts) ++ .word "FROM" true :: ts) (some (.word "FROM" true :: ts)) :=
    reads_sepBy hne rfl fun q hq _ hmore => (h q hq).reads hmore
  obtain ⟨p, ps, rfl⟩ := List.exists_cons_of_ne_nil hne
  rw [tokens_sepBy, List.append_assoc] at hlist ⊢
  exact ((h p List.mem_cons_self).opens _).seq hlist

/-- All columns. -/
lemma reads_star (ts : List Token) :
    Reads depth (maybeDistinct ++ .maybe [.word "TOP"] top ++ .list item)
      (.sign "*" :: .word "FROM" true :: ts) (some (.word "FROM" true :: ts)) :=
  reads_of_run 100 fun _ => rfl

/-! ## Clauses -/

variable {opening : String} {body : Sql}

/-- A clause that may be left out. -/
lemma reads_clause {ahead : List Kind} {r : Rule Part} (hplain : ahead.any Kind.asksText = false)
    (hopening : ∀ ts, Kind.after? ahead (tokens (word opening) ++ ts) = some ts)
    (habsent : Kind.after? ahead rest = none)
    (hbody : body ≠ [] → Reads depth r (tokens body ++ rest) (some rest)) :
    Reads depth (.maybe ahead r) (tokens (clause opening body) ++ rest) (some rest) := by
  unfold clause
  split_ifs with hempty
  · exact .maybe_no habsent
  · rw [tokens_append, List.append_assoc]
    exact .on_yes hplain (hopening _) (hbody fun hnil => hempty (hnil ▸ rfl))

/-- A clause that is left out lets what comes after it come next. -/
lemma begins_clause {t : Token} {more set : List Token}
    (hopening : tokens (word opening) = t :: more) (h : Begins set rest) :
    Begins (t :: set) (tokens (clause opening body) ++ rest) := by
  unfold clause
  split_ifs
  · exact h.mono (List.subset_cons_self t set)
  · rw [tokens_append, hopening]
    exact .cons List.mem_cons_self

/-- Expressions end at every clause. -/
lemma clauseWords_subset_ends : clauseWords ⊆ ends := by decide

/-- What rows are grouped by. -/
lemma reads_groups (h : Begins clauseWords rest) {cs : List Ident} (hne : Sql.columns cs ≠ []) :
    Reads (depth + 1) groups (tokens (Sql.columns cs) ++ rest) (some rest) := by
  have hcs : cs ≠ [] := fun hnil => hne (hnil ▸ rfl)
  have hitem : ∀ (c : Ident) {ts : List Token}, ts = rest ∨ (∃ more, ts = .sign "," :: more) →
      Reads (depth + 1) groupItem (tokens (Sql.column c) ++ ts) (some ts) := by
    intro c ts hts
    have hends : Begins ends ts := by
      rcases hts with rfl | ⟨more, rfl⟩
      · exact h.mono clauseWords_subset_ends
      · exact .cons (by decide)
    have hoperand : Reads depth operand (tokens (Sql.column c) ++ ts) (some ts) :=
      reads_name (hends.mono ends_subset_follows) c.text
    exact .first_none (reads_expression hends hoperand) rfl
  have hlist : Reads (depth + 1) (.list groupItem) (tokens (Sql.columns cs) ++ rest)
      (some rest) := by
    refine reads_sepBy (by simpa using hcs) (h.after?_eq_none rfl _) fun q hq ts hts => ?_
    obtain ⟨c, -, rfl⟩ := List.mem_map.mp hq
    exact hitem c hts
  obtain ⟨c, cs, rfl⟩ := List.exists_cons_of_ne_nil hcs
  rw [Sql.columns, List.map_cons, tokens_sepBy, List.append_assoc] at hlist ⊢
  exact .on_no rfl hlist

/-- A sort key. -/
lemma reads_sortKey (k : SortKey) {ts : List Token}
    (hts : ts = .word "LIMIT" true :: rest ∨ ∃ more, ts = .sign "," :: more) :
    Reads (depth + 1) sortKey
      (tokens (Sql.column k.column ++ word (if k.descending then " DESC" else " ASC")) ++ ts)
      (some ts) := by
  rw [tokens_append, List.append_assoc]
  rcases hts with rfl | ⟨more, rfl⟩ <;> cases k.descending <;> exact reads_of_run 100 fun _ => rfl

/-- The sort order, up to the bounds on rows. -/
lemma reads_sortKeys {keys : List SortKey} (hne : sortKeys keys ≠ []) :
    Reads (depth + 1) (.list sortKey) (tokens (sortKeys keys) ++ .word "LIMIT" true :: rest)
      (some (.word "LIMIT" true :: rest)) := by
  refine reads_sepBy (fun hnil => hne (by rw [sortKeys, hnil, sepBy_nil])) rfl
    fun q hq ts hts => ?_
  obtain ⟨k, -, rfl⟩ := List.mem_map.mp hq
  exact reads_sortKey k hts

/-- A text that opens with `SELECT` or `WITH` and is read as a query is a statement. -/
lemma reads_statement {t : Token} (ht : t = .word "SELECT" true ∨ t = .word "WITH" true)
    {ts : List Token} (h : Reads depth query (t :: ts) (some [])) :
    Reads (depth + 1) (.part .statement) (t :: ts) (some []) := by
  rcases ht with rfl | rfl <;> exact .nest rfl (.first_none (.look_yes rfl h) rfl)

end QueryGate.Sql.Language
