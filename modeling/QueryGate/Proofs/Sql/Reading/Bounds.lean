import QueryGate.Proofs.Sql.Reading.Depth

set_option relaxedAutoImplicit false
set_option autoImplicit false

/-!
# The depth of the query language

A statement is read with a thousand levels of rules for each of its tokens. That is more than the
grammar ever uses: between two tokens that are taken, fewer rules stand in each other.

## Main definitions

* `QueryGate.Sql.Language.bounds` — for each part of the language the room that it needs.

## Main results

* `QueryGate.Sql.afterStatement?_eq` — a reading with more levels comes to the same.
-/

namespace QueryGate.Sql

namespace Language

/-- The parts that surely take a token. -/
def takesToken : Part → Bool
  | .statement | .query | .body | .expression | .operand _ | .type _ | .source => true
  | _ => false

/-- The room that a part needs: how deep the rules of the grammar stand in each other before a
token is taken. -/
def reach : Part → Nat
  | .dotted | .starred | .views | .locks | .references | .locations => 2
  | .pivots | .untilEquals | .untilMark | .modes _ => 3
  | .closing _ | .modifiers | .attributes | .parameters | .formats => 4
  | .merges | .copyOptions | .commaOptions => 5
  | .body | .analyses => 6
  | .joins _ => 8
  | .source | .columns => 10
  | .joinedSources => 13
  | .query | .type _ => 14
  | .columnOptions _ => 15
  | .operand _ | .spanOperators => 30
  | .expression => 31
  | .operators _ => 33
  | .branches => 35
  | .statement => 51
  | .block => 54

set_option maxRecDepth 4000

/-- The parts that should take a token do. -/
lemma takes_rule (p : Part) (h : takesToken p = true) : (rule p).takes takesToken = true := by
  cases p with
  | statement | query | body | expression | operand _ | type _ | source => rfl
  | _ => exact absurd h nofun

/-- The operators of a level are few, and each opens with a token. -/
lemma fits_operators (level : Nat) :
    (operators level).fits takesToken reach 1000 (reach (.operators level)) = true := by
  refine Rule.fits_first rfl ?_ ?_
  · intro way hway
    obtain ⟨operator, hoperator, rfl⟩ := List.mem_map.mp hway
    have hall : (logicalOperators ++ plainOperators).all (fun operator =>
        !operator.2.1.isEmpty &&
          (operator.2.2 ++ Rule.part (Part.operators level)).fits takesToken reach 1000 1000) =
        true := rfl
    have hthis := List.all_eq_true.mp hall operator (List.mem_of_mem_filter hoperator)
    rw [Bool.and_eq_true, Bool.not_eq_true'] at hthis
    exact hthis
  · rw [List.length_map]
    exact Nat.lt_of_le_of_lt (List.length_filter_le _ _)
      (show (logicalOperators ++ plainOperators).length < 33 by decide)

/-- Every part has the room that it needs. -/
lemma fits_rule (p : Part) : (rule p).fits takesToken reach 1000 (reach p) = true := by
  cases p with
  | operators level => exact fits_operators level
  | closing opened =>
    match opened with
    | 0 | 1 | _ + 2 => rfl
  | joins must | columnOptions must | modes must => cases must <;> rfl
  | _ => rfl

/-- The bounds of the language. -/
def bounds : grammar.Bounds where
  parts := takesToken
  reach := reach
  gain := 1000
  gain_pos := by decide
  takes_rule := takes_rule
  fits_rule := fits_rule

end Language

/-- **More levels change nothing.** What follows a statement is the same with every number of
levels from `maxRules` on.

**Proof sketch.** The part that is a statement needs fewer than a thousand levels before its first
token, and `Language.bounds` has a thousand more for each token. -/
theorem afterStatement?_eq {fuel : Nat} {ts : List Token} (hfuel : maxRules ts ≤ fuel) :
    afterStatement? ts =
      Language.grammar.rest? fuel Language.maxNesting (.part .statement) ts := by
  refine Language.bounds.rest?_eq _ _ _ 1000 _ ts (by decide) ?_ ?_
  · rw [maxRules, Nat.mul_succ, Nat.add_comm]
    exact Nat.le_refl _
  · rw [maxRules, Nat.mul_succ, Nat.add_comm] at hfuel
    exact hfuel

end QueryGate.Sql
