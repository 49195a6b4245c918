import QueryGate.Proofs.Outcome
import QueryGate.Sql.Select

set_option relaxedAutoImplicit false
set_option autoImplicit false

/-!
# What a query shows

The parts of a query that depend on whether it aggregates, case by case, and when its text becomes
a statement.

## Main definitions

* `QueryGate.Plan.resolved` — a condition on groups with its reference resolved.

## Main results

* `QueryGate.Query.shown_eq_ok` — what a query shows, if it shows anything.
* `QueryGate.Query.statement_eq_ok`, `QueryGate.Comparison.statement_eq_ok`,
  `QueryGate.distinctStatement_eq_ok` — a statement is the text of its request with its literals.
-/

namespace QueryGate

open Sql Outcome

/-- A condition on groups with its reference resolved. -/
def Plan.resolved (p : Plan) (f : ColumnFilter) : ColumnFilter :=
  { f with column := p.remap f.column }

/-- Conditions on groups that are accepted have their references resolved and nothing else
changed. -/
lemma Plan.remapHaving_eq_ok {p : Plan} {filters resolved : List ColumnFilter}
    (h : p.remapHaving filters = .ok resolved) : resolved = filters.map p.resolved := by
  refine eq_map_of_mapM_eq_ok (fun f g hfg => ?_) h
  unfold remapFilter at hfg
  dsimp only at hfg
  split_ifs at hfg with hknown
  · exact (Except.ok.inj hfg).symm

namespace Query

/-- What a query shows without aggregation, if it shows anything. -/
lemma shownPlain_eq_ok {q : Query} {s : Shown} (h : q.shownPlain = .ok s) :
    q.having = [] ∧
      s = ⟨if q.select.isEmpty then word "*" else columns q.select, ⟨[], []⟩, q.orderBy⟩ := by
  unfold shownPlain at h
  by_cases hempty : (!q.having.isEmpty) = true
  · rw [if_pos hempty] at h
    exact absurd h nofun
  · rw [if_neg hempty] at h
    exact ⟨by simpa using hempty, (Except.ok.inj h).symm⟩

/-- What a query shows with aggregation, if it shows anything. -/
lemma shownGrouped_eq_ok {q : Query} {s : Shown} (h : q.shownGrouped = .ok s) :
    ∃ p, Plan.build q.aggregations q.select q.groupBy = .ok p ∧
      s = ⟨sepBy ", " p.projection, p.groupConditions (q.having.map p.resolved),
        p.remapKeys q.orderBy⟩ := by
  obtain ⟨p, hp, h⟩ := bind_eq_ok_iff.mp h
  obtain ⟨having, hhaving, h⟩ := bind_eq_ok_iff.mp h
  rw [Plan.remapHaving_eq_ok hhaving] at h
  exact ⟨p, hp, (Except.ok.inj h).symm⟩

/-- What a query shows, if it shows anything: its columns, or the items of its plan. -/
lemma shown_eq_ok {q : Query} {s : Shown} (h : q.shown = .ok s) :
    (q.aggregations = [] ∧ q.having = [] ∧
      s = ⟨if q.select.isEmpty then word "*" else columns q.select, ⟨[], []⟩, q.orderBy⟩) ∨
    (q.aggregations ≠ [] ∧ ∃ p, Plan.build q.aggregations q.select q.groupBy = .ok p ∧
      s = ⟨sepBy ", " p.projection, p.groupConditions (q.having.map p.resolved),
        p.remapKeys q.orderBy⟩) := by
  unfold shown at h
  split_ifs at h with hempty
  · exact Or.inl ⟨by simpa using hempty, shownPlain_eq_ok h⟩
  · exact Or.inr ⟨by simpa using hempty, shownGrouped_eq_ok h⟩

end Query

/-! ## Statements -/

variable {reader : Reader} {st : Statement}

/-- A statement is the text and the literals that it was made of. -/
lemma Statement.verified_eq_ok {sql : Sql} {params : List Literal}
    (h : Statement.verified reader sql params = .ok st) : st = ⟨sql, params⟩ := by
  unfold verified at h
  dsimp only at h
  split_ifs at h
  split at h
  · exact absurd h nofun
  · exact (Except.ok.inj h).symm
  · exact absurd h nofun

/-- A query that shows nothing has no statement. -/
lemma Query.statement_of_refused (table : Ident) {q : Query} {r : Refusal}
    (h : q.shown = .error r) : q.statement table reader = .error r.failure := by
  rw [statement, h, Except.mapError.eq_1, error_bind]

/-- The text of a query that shows something is put before the reader. -/
lemma Query.statement_of_shown (table : Ident) {q : Query} {s : Shown} (h : q.shown = .ok s) :
    q.statement table reader =
      (Statement.verified reader (q.fragment table s).sql (q.fragment table s).params).mapError
        StatementFault.failure := by
  rw [statement, h, Except.mapError.eq_2, ok_bind]

/-- The statement of a query is its text with its literals. -/
lemma Query.statement_eq_ok {table : Ident} {q : Query}
    (h : q.statement table reader = .ok st) :
    ∃ s, q.shown = .ok s ∧ st = ⟨(q.fragment table s).sql, (q.fragment table s).params⟩ := by
  obtain ⟨s, hs, h⟩ := bind_eq_ok_iff.mp h
  exact ⟨s, mapError_eq_ok_iff.mp hs, Statement.verified_eq_ok (mapError_eq_ok_iff.mp h)⟩

/-- The statement of a comparison is its text with its literals. -/
lemma Comparison.statement_eq_ok {table : Ident} {c : Comparison}
    (h : c.statement table reader = .ok st) :
    st = ⟨(c.fragment table).sql, (c.fragment table).params⟩ := by
  rw [statement] at h
  exact Statement.verified_eq_ok (mapError_eq_ok_iff.mp h)

/-- The statement for the different values of a column is its text. -/
lemma distinctStatement_eq_ok {table c : Ident}
    (h : distinctStatement table c reader = .ok st) : st = ⟨distinctText table c, []⟩ := by
  rw [distinctStatement] at h
  exact Statement.verified_eq_ok (mapError_eq_ok_iff.mp h)

end QueryGate
