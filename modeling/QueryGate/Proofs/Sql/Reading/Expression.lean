import QueryGate.Proofs.Sql.Reading.Reads
import QueryGate.Proofs.Sql.Reading.Spacing

set_option relaxedAutoImplicit false
set_option autoImplicit false
-- Running a reading goes through the words and the operators of the language.
set_option maxRecDepth 10000

/-!
# Expressions of the texts put together here

The operands in these texts are columns, values of aggregates and places. A condition is an operand
with an operator behind it and the right side of that operator, and conditions stand in
conjunctions. Each of them is read as the expression that it is, as far as it ends at a comma, at a
parenthesis or at a later clause.

## Main definitions

* `QueryGate.Sql.Language.ends`, `QueryGate.Sql.Language.stops`, `QueryGate.Sql.Language.follows` —
  the tokens at which an expression, a condition and an operand end.
* `QueryGate.Sql.Language.IsTarget` — what conditions can be about.
* `QueryGate.Sql.Language.IsConjunct` — what is read as a part of a conjunction.

## Main results

* `QueryGate.Sql.Language.isConjunct_condition` — a condition is a part of a conjunction.
* `QueryGate.Sql.Language.reads_conjunction` — a conjunction is an expression.
* `QueryGate.Sql.Language.reads_conditions` — the conditions of filters are an expression.
-/

namespace QueryGate.Sql

namespace Language

/-! ## What comes after an expression -/

/-- The tokens at which an expression ends. -/
def ends : List Token := [
  .sign ",", .sign ")", .word "FROM" true, .word "AS" true, .word "WHERE" true, .word "GROUP" true,
  .word "HAVING" true, .word "ORDER" true, .word "LIMIT" true]

/-- The tokens at which a condition ends. -/
def stops : List Token := .word "AND" true :: ends

/-- The tokens at which an operand ends. -/
def follows : List Token := stops ++ [
  .sign "=", .sign ">=", .sign "<=", .sign ">", .sign "<", .word "IS" true, .word "IN" true,
  .word "BETWEEN" true, .word "LIKE" true]

variable {depth : Nat} {rest : List Token}

/-! ## Operands -/

-- An operand that opens with a name is first tried as a text of a type, as in `DATE '2020-01-01'`.

/-- A name is not the type of a text. -/
lemma typedText_name (h : Begins follows rest) (n : String) :
    Reads depth typedText (.quoted '"' n :: rest) none := by
  have hcustom : Reads depth customType (.quoted '"' n :: rest) (some rest) :=
    ((Reads.one rfl).seq (.part rfl (.absent h rfl))).seq (.absent h rfl)
  have hbrackets : Kind.after? [.sign "["] rest = none := h.after?_eq_none rfl _
  exact .seq_none (.on_no rfl (.first_none
    (hcustom.seq (.seq_none (.seq_none (.one hbrackets)))) rfl))

/-- A name is an operand. -/
lemma reads_name (h : Begins follows rest) (n : String) :
    Reads depth operand (.quoted '"' n :: rest) (some rest) := by
  have hname : Reads depth (Rule.part .dotted ++ Rule.maybe [.sign "("] call) rest (some rest) :=
    (Reads.part rfl (.absent h rfl)).seq (.absent h rfl)
  exact .attempt_no (typedText_name h n) (.on_no rfl
    ((Reads.first_some rfl hname).seq (.absent h rfl)))

/-- A call is not the type of a text. -/
lemma typedText_call (h : Begins follows rest) (f : Aggregator) (n : String) :
    Reads depth typedText (tokens (word f.opening) ++ .quoted '"' n :: .sign ")" :: rest) none := by
  have hbrackets : Kind.after? [.sign "["] rest = none := h.after?_eq_none rfl _
  have hcustom : Reads depth customType
      (tokens (word f.opening) ++ .quoted '"' n :: .sign ")" :: rest) (some rest) := by
    cases f <;> exact reads_of_run 40 fun _ => rfl
  cases f <;> exact .seq_none (.on_no rfl (.first_none
    (hcustom.seq (.seq_none (.seq_none (.one hbrackets)))) rfl))

/-- A call on a name is an operand. -/
lemma reads_call (h : Begins follows rest) (f : Aggregator) (n : String) :
    Reads (depth + 1) operand (tokens (word f.opening) ++ .quoted '"' n :: .sign ")" :: rest)
      (some rest) := by
  have harguments : Reads (depth + 1) (maybeDistinct ++ orderedArguments)
      ((tokens (word f.opening)).drop 2 ++ .quoted '"' n :: .sign ")" :: rest) (some rest) := by
    cases f <;> exact reads_of_run 100 fun _ => rfl
  have hcall : Reads (depth + 1) call
      ((tokens (word f.opening)).drop 2 ++ .quoted '"' n :: .sign ")" :: rest) (some rest) :=
    ((harguments.seq (.absent h rfl)).seq (.absent h rfl)).seq (.absent h rfl)
  refine .attempt_no (typedText_call h f n) ?_
  cases f <;> exact .on_no rfl ((Reads.first_some rfl
    ((Reads.part rfl (.maybe_no rfl)).seq (.on_yes rfl rfl hcall))).seq
      (.absent h rfl))

/-- The place of a literal is an operand. -/
lemma reads_place (h : Begins follows rest) : Reads depth operand (.place :: rest) (some rest) := by
  have htext : Reads depth typedText (.place :: rest) none := reads_of_run 40 fun _ => rfl
  exact .attempt_no htext (.on_no rfl
    ((Reads.first_some rfl .done).seq (.absent h rfl)))

/-! ## Operators -/

/-- Where no operator comes next, nothing is taken. -/
lemma reads_operators {set : List Token} (h : Begins set rest) {level : Nat}
    (hlevel : ((logicalOperators ++ plainOperators).filter fun (own, _, _) => level < own).all
      (fun (_, opening, _) => opening.head?.any fun k => set.all fun t => !k.accepts t) = true) :
    Reads depth (.part (.operators level)) rest (some rest) := by
  refine .part rfl (.first_none .done (pick_eq_none h ?_))
  rw [List.all_map]
  exact hlevel

/-- An operand without operators after it. -/
lemma reads_operand {ts set : List Token} (h : Begins set rest) {level : Nat}
    (hoperand : Reads depth operand (ts ++ rest) (some rest))
    (hlevel : ((logicalOperators ++ plainOperators).filter fun (own, _, _) => level < own).all
      (fun (_, opening, _) => opening.head?.any fun k => set.all fun t => !k.accepts t) = true) :
    Reads depth (.part (.operand level)) (ts ++ rest) (some rest) :=
  .part rfl (hoperand.seq (reads_operators h hlevel))

/-- Conditions end where operands do. -/
lemma stops_subset_follows : stops ⊆ follows := List.subset_append_left _ _

/-- Expressions end where conditions do. -/
lemma ends_subset_stops : ends ⊆ stops := List.subset_cons_self _ _

/-- Expressions end where operands do. -/
lemma ends_subset_follows : ends ⊆ follows :=
  List.Subset.trans ends_subset_stops stops_subset_follows

/-- A place on the right side of an operator. -/
lemma reads_slot (h : Begins stops rest) :
    Reads depth (.part (.operand 20)) (.place :: rest) (some rest) := by
  have hplace : Reads depth operand ([.place] ++ rest) (some rest) :=
    reads_place (h.mono stops_subset_follows)
  exact reads_operand h hplace rfl

/-- An expression without operators. -/
lemma reads_expression {ts : List Token} (h : Begins ends rest)
    (hoperand : Reads depth operand (ts ++ rest) (some rest)) :
    Reads (depth + 1) expression (ts ++ rest) (some rest) :=
  .expression (reads_operand h hoperand rfl)

/-- Texts with commas between are read as a list. -/
lemma reads_sepBy {item : Rule Part} {parts : List Sql} (hne : parts ≠ [])
    (hrest : Kind.after? [.sign ","] rest = none)
    (h : ∀ q ∈ parts, ∀ ts, ts = rest ∨ (∃ more, ts = .sign "," :: more) →
      Reads depth item (tokens q ++ ts) (some ts)) :
    Reads depth (.list item) (tokens (sepBy ", " parts) ++ rest) (some rest) := by
  obtain ⟨p, ps, rfl⟩ := List.exists_cons_of_ne_nil hne
  have htokens : tokens (sepBy ", " (p :: ps)) =
      tokens p ++ ((ps.map tokens).flatMap fun q => .sign "," :: q) := by
    rw [tokens_sepBy, List.flatMap_map]
    rfl
  rw [htokens]
  refine Reads.list hrest fun q hq => ?_
  rw [← List.map_cons] at hq
  obtain ⟨part, hpart, rfl⟩ := List.mem_map.mp hq
  exact h part hpart

/-- Places between parentheses, as the right side of `IN`. -/
lemma reads_inWhat {n : Nat} (hn : n ≠ 0) :
    Reads (depth + 1) inWhat (.sign "(" :: (tokens (slots n) ++ .sign ")" :: rest))
      (some rest) := by
  have hlist : Reads (depth + 1) expressions (tokens (slots n) ++ .sign ")" :: rest)
      (some (.sign ")" :: rest)) := by
    refine reads_sepBy (by simpa using hn) rfl fun q hq ts hts => ?_
    obtain rfl := List.eq_of_mem_replicate hq
    have hends : Begins ends ts := by
      rcases hts with rfl | ⟨more, rfl⟩ <;> exact .cons (by decide)
    exact reads_expression hends
      (reads_place (hends.mono ends_subset_follows))
  have hplace : Kind.after? [.anyWord ["SELECT", "WITH"]]
      (tokens (slots n) ++ .sign ")" :: rest) = none := by
    obtain ⟨m, rfl⟩ := Nat.exists_eq_succ_of_ne_zero hn
    rw [slots, List.replicate_succ, tokens_sepBy]
    rfl
  exact .on_no rfl (((Reads.one rfl).seq (.look_no hplace hlist)).seq (.one rfl))

/-! ## Conditions -/

/-- What a condition is about, if it is about a target. -/
def subject (target : List Token) : Condition → List Token
  | .contains _ =>
    .word "CAST" true :: .sign "(" ::
      (target ++ [.word "AS" true, .word "VARCHAR" true, .sign ")"])
  | _ => target

/-- What a condition says about it. -/
def predicate : Condition → List Token
  | .scalar _ => [.sign "=", .place]
  | .isNull => [.word "IS" true, .word "NULL" true]
  | .inSet values => .word "IN" true :: .sign "(" :: (tokens (slots values.length) ++ [.sign ")"])
  | .between _ _ => [.word "BETWEEN" true, .place, .word "AND" true, .place]
  | .compare op _ => [.sign op.sign, .place]
  | .contains _ => [.word "LIKE" true, .place]

/-- The tokens of a condition. -/
lemma tokens_condition (target : Sql) (c : Condition) :
    tokens (c.sql target) = subject (tokens target) c ++ predicate c := by
  cases c with
  | compare op _ =>
    cases op <;> simp only [Condition.sql, tokens_append, List.append_assoc] <;> rfl
  | inSet values =>
    simp only [Condition.sql, tokens_append, List.append_assoc]
    rfl
  | contains _ =>
    simp only [Condition.sql, subject, predicate, tokens_append, List.append_assoc,
      List.cons_append]
    rfl
  | _ =>
    simp only [Condition.sql, tokens_append, List.append_assoc]
    rfl

/-- The tokens of something that conditions can be about. -/
structure IsTarget (ts : List Token) : Prop where
  /-- They are an operand. -/
  operand : ∀ {depth : Nat} {rest : List Token}, Begins follows rest →
    Reads (depth + 1) operand (ts ++ rest) (some rest)
  /-- They can be taken for a text. -/
  text : ∀ {depth : Nat} {rest : List Token}, Reads (depth + 2) Language.operand
    (.word "CAST" true :: .sign "(" :: (ts ++ .word "AS" true :: .word "VARCHAR" true ::
      .sign ")" :: .word "LIKE" true :: rest)) (some (.word "LIKE" true :: rest))
  /-- They do not open with a word that asks for any or all of some values. -/
  opens : ∀ rest, Kind.after? [.anyWord ["ANY", "ALL"]] (ts ++ rest) = none

/-- A column is a target. -/
lemma isTarget_name (n : String) : IsTarget [.quoted '"' n] where
  operand h := reads_name h n
  text := reads_of_run 200 fun _ => rfl
  opens _ := rfl

/-- The value of an aggregate is a target. -/
lemma isTarget_call (f : Aggregator) (n : String) :
    IsTarget (tokens (word f.opening) ++ [.quoted '"' n, .sign ")"]) where
  operand h := by
    rw [List.append_assoc]
    exact reads_call h f n
  text := by cases f <;> exact reads_of_run 200 fun _ => rfl
  opens _ := by cases f <;> rfl

/-- A column can have conditions. -/
lemma isTarget_column (c : Ident) : IsTarget (tokens (Sql.column c)) := isTarget_name c.text

/-- What a name of a plan stands for can have conditions. -/
lemma isTarget_expression (p : Plan) (c : Ident) : IsTarget (tokens (p.expression c)) := by
  unfold Plan.expression
  split
  · next a _ =>
    have htokens : tokens a.expression =
        tokens (word a.func.opening) ++ [.quoted '"' a.source.text, .sign ")"] := by
      simp only [Aggregate.expression, Aggregator.apply, tokens_append, List.append_assoc]
      rfl
    rw [htokens]
    exact isTarget_call a.func a.source.text
  · exact isTarget_name c.text

/-- An operator with its right side, and then what comes after it. -/
lemma reads_predicate {c : Condition} (hc : c ≠ .inSet []) {level : Nat}
    (hlevel : level = 0 ∨ level = 10) (h : Begins stops rest) {out : Option (List Token)}
    (hmore : Reads (depth + 1) (.part (.operators level)) rest out) :
    Reads (depth + 1) (.part (.operators level)) (predicate c ++ rest) out := by
  have hslot : Reads (depth + 1) (.part (.operand 20)) (.place :: rest) (some rest) := reads_slot h
  cases c with
  | scalar _ =>
    rcases hlevel with rfl | rfl <;>
      exact .part rfl (.first_some rfl (.seq (.on_no rfl hslot) hmore))
  | isNull =>
    have hnull : Reads (depth + 1) isWhat (.word "NULL" true :: rest) (some rest) :=
      reads_of_run 20 fun _ => rfl
    rcases hlevel with rfl | rfl <;> exact .part rfl (.first_some rfl (.seq hnull hmore))
  | inSet values =>
    have hvalues : values.length ≠ 0 := by
      rintro hzero
      exact hc (congrArg Condition.inSet (List.eq_nil_of_length_eq_zero hzero))
    have hin : Reads (depth + 1) inWhat
        (.sign "(" :: (tokens (slots values.length) ++ [.sign ")"] ++ rest)) (some rest) := by
      rw [List.append_assoc]
      exact reads_inWhat hvalues
    rcases hlevel with rfl | rfl <;> exact .part rfl (.first_some rfl (.seq hin hmore))
  | between _ _ =>
    have hlow : Reads (depth + 1) (.part (.operand 20))
        (.place :: .word "AND" true :: .place :: rest)
        (some (.word "AND" true :: .place :: rest)) :=
      reads_slot (.cons (by decide))
    have hboth : Reads (depth + 1) betweenWhat (.place :: .word "AND" true :: .place :: rest)
        (some rest) :=
      (hlow.seq (.one rfl)).seq hslot
    rcases hlevel with rfl | rfl <;> exact .part rfl (.first_some rfl (.seq hboth hmore))
  | compare op _ =>
    cases op <;> rcases hlevel with rfl | rfl <;>
      exact .part rfl (.first_some rfl (.seq (.on_no rfl hslot) hmore))
  | contains _ =>
    have hplace : Reads (depth + 1) operand ([.place] ++ rest) (some rest) :=
      reads_place (h.mono stops_subset_follows)
    have hlike : Reads (depth + 1) likeWhat (.place :: rest) (some rest) :=
      (reads_operand h hplace rfl).seq (.absent h rfl)
    rcases hlevel with rfl | rfl <;> exact .part rfl (.first_some rfl (.seq hlike hmore))

/-- Tokens that are read as a part of a conjunction. -/
structure IsConjunct (ts : List Token) : Prop where
  /-- Operators may come after them. -/
  reads : ∀ {depth level : Nat} {rest : List Token} {out : Option (List Token)},
    level = 0 ∨ level = 10 → Begins stops rest →
    Reads (depth + 2) (.part (.operators level)) rest out →
    Reads (depth + 2) (.part (.operand level)) (ts ++ rest) out
  /-- They do not open with a word that asks for any or all of some values. -/
  opens : ∀ rest, Kind.after? [.anyWord ["ANY", "ALL"]] (ts ++ rest) = none

/-- A condition is a part of a conjunction. -/
lemma isConjunct_condition {target : Sql} (ht : IsTarget (tokens target)) {c : Condition}
    (hc : c ≠ .inSet []) : IsConjunct (tokens (c.sql target)) where
  reads {depth level rest out} hlevel h hmore := by
    have hpredicate := reads_predicate hc hlevel h hmore
    rw [tokens_condition, List.append_assoc]
    cases c with
    | contains part =>
      have hsubject : subject (tokens target) (.contains part) ++
          (predicate (.contains part) ++ rest) =
          .word "CAST" true :: .sign "(" :: (tokens target ++ .word "AS" true ::
            .word "VARCHAR" true :: .sign ")" :: .word "LIKE" true :: .place :: rest) := by
        simp [subject, predicate]
      rw [hsubject]
      exact .part rfl (ht.text.seq hpredicate)
    | compare op _ => cases op <;> exact .part rfl ((ht.operand (.cons (by decide))).seq hpredicate)
    | _ => exact .part rfl ((ht.operand (.cons (by decide))).seq hpredicate)
  opens rest := by
    rw [tokens_condition, List.append_assoc]
    cases c with
    | contains part => rfl
    | _ => exact ht.opens _

/-- After a part of a conjunction comes an `AND`, or what comes after the conjunction. -/
lemma begins_more (h : Begins ends rest) : ∀ ps : List Sql,
    Begins stops ((ps.flatMap fun q => tokens (word " AND ") ++ tokens q) ++ rest)
  | [] => h.mono ends_subset_stops
  | _ :: _ => .cons (by decide)

/-- The parts of a conjunction after the first. -/
lemma reads_more (h : Begins ends rest) : ∀ {ps : List Sql}, (∀ p ∈ ps, IsConjunct (tokens p)) →
    Reads (depth + 2) (.part (.operators 0))
      ((ps.flatMap fun q => tokens (word " AND ") ++ tokens q) ++ rest) (some rest)
  | [], _ => reads_operators h rfl
  | p :: ps, hps => by
    obtain ⟨hp, hps⟩ := List.forall_mem_cons.mp hps
    have ih := reads_more h hps
    have hnext := begins_more h ps
    have hend : Reads (depth + 2) (.part (.operators 10)) _ _ := reads_operators hnext rfl
    have hright := hp.reads (.inr rfl) hnext hend
    rw [List.flatMap_cons, List.append_assoc, List.append_assoc]
    exact .part rfl (.first_some rfl (.seq (.look_no (hp.opens _) hright) ih))

/-- **A conjunction is an expression.**

**Proof sketch.** Induction on the parts after the first. Each is the right side of an `AND`, which
ends at the next one, and at what comes after the conjunction no operator comes next. -/
theorem reads_conjunction (h : Begins ends rest) {parts : List Sql} (hne : parts ≠ [])
    (hparts : ∀ p ∈ parts, IsConjunct (tokens p)) :
    Reads (depth + 3) expression (tokens (sepBy " AND " parts) ++ rest) (some rest) := by
  obtain ⟨p, ps, rfl⟩ := List.exists_cons_of_ne_nil hne
  obtain ⟨hp, hps⟩ := List.forall_mem_cons.mp hparts
  rw [tokens_sepBy, List.append_assoc]
  exact .expression (hp.reads (.inl rfl) (begins_more h ps) (reads_more h hps))

/-- Conditions on columns, or on what columns stand for, are an expression. -/
theorem reads_conditions (h : Begins ends rest) {target : Ident → Sql}
    (ht : ∀ c, IsTarget (tokens (target c))) {filters : List ColumnFilter}
    (hfilters : IsWritable filters) (hne : (conditions target filters).sql ≠ []) :
    Reads (depth + 3) expression (tokens (conditions target filters).sql ++ rest) (some rest) := by
  refine reads_conjunction h (fun hnil => hne (by rw [conditions, hnil, sepBy_nil])) fun p hp => ?_
  obtain ⟨f, hf, hp⟩ := List.mem_flatMap.mp hp
  obtain ⟨c, hc, rfl⟩ := List.mem_map.mp hp
  exact isConjunct_condition (ht f.column) fun hempty => hfilters f hf (hempty ▸ hc)

end Language

end QueryGate.Sql
