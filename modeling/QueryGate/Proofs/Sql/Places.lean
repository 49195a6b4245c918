import Mathlib.Data.List.Basic
import QueryGate.Proofs.Sql.Pieces

set_option relaxedAutoImplicit false
set_option autoImplicit false

/-!
# Places and their literals

The text of a statement and its literals are put together apart from each other. Here the literals
are put into the places of the text one after the other, and the outcome is compared with the text
in which every condition carries its own literals.

## Main definitions

* `QueryGate.Sql.fill` — a text with its places filled from a list of literals, left to right.
* `QueryGate.Query.filled`, `QueryGate.Comparison.filled` — the text of a request with the literals
  of each condition in that condition.

## Main results

* `QueryGate.Sql.Fills.conditions` — the conditions of some filters take their own literals.
* `QueryGate.literals_fill_places` — every generated text has one place for each literal, and that
  place is in the condition of the literal.
-/

namespace QueryGate

namespace Sql

/-! ## Filling places -/

/-- A character of a text, or a literal in the place of one. -/
inductive Filled
  | char (c : Char)
  | literal (l : Literal)

/-- A text with its places filled from a list of literals, left to right. Places that no literal
is left for stay as they are. -/
def fill : List Char → List Literal → List Filled
  | [], _ => []
  | c :: cs, [] => .char c :: fill cs []
  | c :: cs, l :: ls => if c = '?' then .literal l :: fill cs ls else .char c :: fill cs (l :: ls)

/-- Text that has no places, as it stands. -/
def still (sql : Sql) : List Filled := sql.chars.map .char

/-- Filled texts with fixed words between them. -/
def filledSepBy (separator : String) (parts : List (List Filled)) : List Filled :=
  List.intercalate (still (word separator)) parts

/-- Where no literal is left, the text stays as it is. -/
lemma fill_nil : ∀ cs : List Char, fill cs [] = cs.map .char
  | [] => rfl
  | c :: cs => by rw [fill, fill_nil cs, List.map_cons]

/-- A filled text is as long as the text. -/
lemma length_fill : ∀ (cs : List Char) (ls : List Literal), (fill cs ls).length = cs.length
  | [], _ => rfl
  | c :: cs, [] => by rw [fill, List.length_cons, length_fill, List.length_cons]
  | c :: cs, l :: ls => by
    rw [fill]
    split_ifs <;> rw [List.length_cons, length_fill, List.length_cons]

/-- A character that is no place stays as it is. -/
lemma fill_cons_of_ne {c : Char} (h : c ≠ '?') (cs : List Char) :
    ∀ ls : List Literal, fill (c :: cs) ls = .char c :: fill cs ls
  | [] => rfl
  | _ :: _ => by rw [fill, if_neg h]

/-- A place takes the first literal. -/
lemma fill_cons_place (cs : List Char) (l : Literal) (ls : List Literal) :
    fill ('?' :: cs) (l :: ls) = .literal l :: fill cs ls := by
  rw [fill, if_pos rfl]

/-- Text with as many places as there are literals leaves none for what follows. -/
lemma fill_append : ∀ {a : List Char} {ls : List Literal}, a.count '?' = ls.length →
    ∀ (b : List Char) (ls' : List Literal), fill (a ++ b) (ls ++ ls') = fill a ls ++ fill b ls'
  | [], ls, h, b, ls' => by
    obtain rfl : ls = [] := List.length_eq_zero_iff.mp h.symm
    rfl
  | c :: a, ls, h, b, ls' => by
    by_cases hc : c = '?'
    · subst hc
      rw [List.count_cons_self] at h
      cases ls with
      | nil => exact absurd h (Nat.succ_ne_zero _)
      | cons l ls =>
        have ha : a.count '?' = ls.length := Nat.succ.inj h
        rw [List.cons_append, List.cons_append, fill_cons_place, fill_cons_place,
          fill_append ha, List.cons_append]
    · rw [List.count_cons_of_ne hc] at h
      rw [List.cons_append, fill_cons_of_ne hc, fill_cons_of_ne hc, fill_append h,
        List.cons_append]

/-- A text has as many places as there are literals, and is `out` once they are filled. -/
structure Fills (sql : Sql) (ls : List Literal) (out : List Filled) : Prop where
  /-- There is one place for each literal. -/
  places : sql.chars.count '?' = ls.length
  /-- The places in order take the literals in order. -/
  filled : fill sql.chars ls = out

namespace Fills

variable {numbers : List Nat} {a b : Sql} {ls ls' : List Literal} {out out' : List Filled}

/-- Two texts one after the other take their literals one after the other. -/
lemma append (h : Fills a ls out) (h' : Fills b ls' out') :
    Fills (a ++ b) (ls ++ ls') (out ++ out') := by
  constructor
  · rw [chars_append, List.count_append, h.places, h'.places, List.length_append]
  · rw [chars_append, fill_append h.places, h.filled, h'.filled]

/-- Text that has no places takes no literal. -/
lemma still (h : Drawn False numbers a) : Fills a [] (still a) :=
  ⟨List.count_eq_zero.mpr h.not_mem_chars, fill_nil _⟩

/-- A word of the template takes no literal. -/
lemma ofWord {w : String} (h : w ∈ templateWords) : Fills (word w) [] (Sql.still (word w)) :=
  have hdrawn : Drawn False [] (word w) := drawn_word.mpr h
  still hdrawn

/-- A place takes one literal. -/
lemma place (l : Literal) : Fills [.slot] [l] [.literal l] := ⟨rfl, rfl⟩

/-- Joined texts take the literals of each in turn. -/
lemma sepBy {α : Type} {s : String} (hs : s ∈ templateWords) {sql : α → Sql}
    {literals : α → List Literal} {filled : α → List Filled} :
    ∀ {xs : List α}, (∀ x ∈ xs, Fills (sql x) (literals x) (filled x)) →
      Fills (sepBy s (xs.map sql)) (xs.flatMap literals) (filledSepBy s (xs.map filled))
  | [], _ => ⟨rfl, rfl⟩
  | [x], h => by
    have hx := h x List.mem_cons_self
    simpa [filledSepBy] using hx
  | x :: next :: rest, h => by
    have hx := h x List.mem_cons_self
    have ih := sepBy hs fun y hy => h y (List.mem_cons_of_mem x hy)
    have happ := (hx.append (ofWord hs)).append ih
    rw [List.append_nil] at happ
    rw [List.map_cons, List.map_cons, sepBy_cons_cons, List.flatMap_cons]
    simpa [filledSepBy] using happ

/-- Text without pieces is the only text that is filled to nothing. -/
lemma eq_nil_iff {places : Prop} (hdrawn : Drawn places numbers a) (h : Fills a ls out) :
    a = [] ↔ out = [] := by
  rw [← hdrawn.chars_eq_nil_iff, ← h.filled, ← List.length_eq_zero_iff, ← List.length_eq_zero_iff,
    length_fill]

end Fills

/-! ## Conditions with their literals -/

/-- Literals with commas between them. -/
def listed (ls : List Literal) : List Filled := filledSepBy ", " (ls.map fun l => [.literal l])

end Sql

open Sql

/-- The text of a condition on a target with the literals of the condition. -/
def Condition.filled (target : Sql) : Condition → List Filled
  | scalar value => still (target ++ word " = ") ++ [.literal value]
  | isNull => still (target ++ word " IS NULL")
  | inSet values => still (target ++ word " IN (") ++ listed values ++ still (word ")")
  | between low high =>
    still (target ++ word " BETWEEN ") ++ [.literal low] ++ still (word " AND ") ++ [.literal high]
  | compare op value => still (target ++ word (" " ++ op.sign ++ " ")) ++ [.literal value]
  | contains part =>
    still (word "CAST(" ++ target ++ word " AS VARCHAR) LIKE ") ++
      [.literal (.text ("%" ++ part ++ "%"))]

namespace Sql

/-- All conditions of some filters, joined, with their literals. -/
def filledConditions (target : Ident → Sql) (filters : List ColumnFilter) : List Filled :=
  filledSepBy " AND "
    (filters.flatMap fun f => f.conditions.map (Condition.filled (target f.column)))

/-- A clause that stands only where it has a body. -/
def filledClause (opening : String) (body : List Filled) : List Filled :=
  if body.isEmpty then [] else still (word opening) ++ body

/-- The literals in the conditions of some filters, in order. -/
def literalsIn (filters : List ColumnFilter) : List Literal :=
  filters.flatMap fun f => f.conditions.flatMap Condition.literals

namespace Fills

variable {numbers : List Nat}

/-- Places with commas between them take one literal each. -/
lemma slots (ls : List Literal) : Fills (slots ls.length) ls (listed ls) := by
  have hcomma : ", " ∈ templateWords := by decide
  have h := sepBy hcomma fun (l : Literal) (_ : l ∈ ls) => place l
  rwa [List.flatMap_singleton', List.map_const'] at h

/-- A condition takes its literals. -/
lemma condition {target : Sql} (ht : Drawn False numbers target) :
    ∀ c : Condition, Fills (c.sql target) c.literals (c.filled target)
  | .scalar value =>
    (still (drawn_append.mpr ⟨ht, drawn_word.mpr (by decide)⟩)).append (place value)
  | .isNull => still (drawn_append.mpr ⟨ht, drawn_word.mpr (by decide)⟩)
  | .inSet values => by
    have hopen : Fills (target ++ word " IN (") [] (Sql.still (target ++ word " IN (")) :=
      still (drawn_append.mpr ⟨ht, drawn_word.mpr (by decide)⟩)
    have h := (hopen.append (slots values)).append (ofWord (by decide : ")" ∈ templateWords))
    rwa [List.append_nil] at h
  | .between low high => by
    have hopen : Fills (target ++ word " BETWEEN ") [] (Sql.still (target ++ word " BETWEEN ")) :=
      still (drawn_append.mpr ⟨ht, drawn_word.mpr (by decide)⟩)
    exact ((hopen.append (place low)).append (ofWord (by decide))).append (place high)
  | .compare op value => by
    have hsign : " " ++ op.sign ++ " " ∈ templateWords := by cases op <;> decide
    exact (still (drawn_append.mpr ⟨ht, drawn_word.mpr hsign⟩)).append (place value)
  | .contains part => by
    have hcast : Drawn False numbers (word "CAST(" ++ target ++ word " AS VARCHAR) LIKE ") :=
      drawn_append.mpr ⟨drawn_append.mpr ⟨drawn_word.mpr (by decide), ht⟩,
        drawn_word.mpr (by decide)⟩
    exact (still hcast).append (place _)

/-- **The conditions of some filters take their own literals.** -/
theorem conditions {target : Ident → Sql} (ht : ∀ c, Drawn False [] (target c))
    (filters : List ColumnFilter) :
    Fills (conditions target filters).sql (literalsIn filters)
      (filledConditions target filters) := by
  let each : List (Ident × Condition) :=
    filters.flatMap fun f => f.conditions.map fun c => (f.column, c)
  have hand : " AND " ∈ templateWords := by decide
  have h := sepBy hand fun x (_ : x ∈ each) => condition (ht x.1) x.2
  simp only [each, List.map_flatMap, List.map_map, List.flatMap_assoc, List.flatMap_map] at h
  exact h

/-- A clause that stands only where it has a body takes the literals of the body. -/
lemma clause {opening : String} (ho : opening ∈ templateWords) {body : Sql}
    (hdrawn : Drawn True [] body) {ls : List Literal} {out : List Filled}
    (h : Fills body ls out) : Fills (clause opening body) ls (filledClause opening out) := by
  by_cases hbody : body = []
  · have hout := (h.eq_nil_iff hdrawn).mp hbody
    subst hbody hout
    exact h
  · have hout := mt (h.eq_nil_iff hdrawn).mpr hbody
    rw [Sql.clause, if_neg (by simpa using hbody), filledClause, if_neg (by simpa using hout)]
    exact (ofWord ho).append h

/-- Text that is followed by a word only where it is not empty takes its literals. -/
lemma before {w : String} (hw : w ∈ templateWords) {body : Sql}
    (hdrawn : Drawn True [] body) {ls : List Literal} {out : List Filled}
    (h : Fills body ls out) :
    Fills (if body.isEmpty then [] else body ++ word w) ls
      (if out.isEmpty then [] else out ++ Sql.still (word w)) := by
  by_cases hbody : body = []
  · have hout := (h.eq_nil_iff hdrawn).mp hbody
    subst hbody hout
    exact h
  · have hout := mt (h.eq_nil_iff hdrawn).mpr hbody
    rw [if_neg (by simpa using hbody), if_neg (by simpa using hout)]
    have happ := h.append (ofWord hw)
    rwa [List.append_nil] at happ

end Fills

end Sql

/-! ## Requests with their literals -/

/-- The conditions on groups of a query with their literals. -/
def Query.filledHaving (q : Query) : List Filled :=
  if q.aggregations.isEmpty then []
  else
    match Plan.build q.aggregations q.select q.groupBy with
    | .error _ => []
    | .ok p => filledConditions p.expression (q.having.map p.resolved)

/-- The text of a query with the literals of each condition in that condition. -/
def Query.filled (table : Ident) (q : Query) (s : Query.Shown) : List Filled :=
  still (word "SELECT " ++ s.projection ++ word " FROM " ++ tableRef table.text) ++
    filledClause " WHERE " (filledConditions column q.filters) ++
    still (clause " GROUP BY " (columns q.groupBy)) ++
    filledClause " HAVING " q.filledHaving ++
    still (clause " ORDER BY " (sortKeys s.orderBy)) ++ still q.bounds

/-- The text of a comparison with the literals of each condition in that condition, and with its
years. -/
def Comparison.filled (table : Ident) (c : Comparison) : List Filled :=
  let rows := filledConditions column c.filters
  still (c.opening table) ++ (if rows.isEmpty then [] else rows ++ still (word " AND ")) ++
    still (column c.yearColumn ++ word " IN (") ++
    listed [.integer c.baseYear, .integer c.compareYear] ++
    still c.pairing ++ [.literal (.integer c.baseYear)] ++
    still (word " AND c.period = ") ++ [.literal (.integer c.compareYear)] ++ still c.ranking

namespace Query

/-- The conditions on groups of a query take their own literals. -/
lemma fills_having {q : Query} {s : Shown} (h : q.shown = .ok s) :
    Fills s.having.sql (literalsIn q.having) q.filledHaving ∧
      s.having.params = literalsIn q.having := by
  rcases shown_eq_ok h with ⟨hnone, hhaving, rfl⟩ | ⟨hsome, p, hp, rfl⟩
  · rw [filledHaving, hnone, hhaving]
    exact ⟨⟨rfl, rfl⟩, rfl⟩
  · have hliterals : literalsIn (q.having.map p.resolved) = literalsIn q.having := by
      rw [literalsIn, List.flatMap_map]
      rfl
    have hfilled : q.filledHaving = filledConditions p.expression (q.having.map p.resolved) := by
      rw [filledHaving, if_neg (by simpa using hsome), hp]
    rw [hfilled, ← hliterals]
    exact ⟨Fills.conditions p.drawn_expression _, rfl⟩

/-- The text of a query takes the literals of its conditions on rows, then of those on groups. -/
lemma fills_fragment (table : Ident) {q : Query} {s : Shown} (h : q.shown = .ok s) :
    Fills (q.fragment table s).sql (literalsIn q.filters ++ literalsIn q.having)
      (q.filled table s) := by
  have hhead : Drawn False []
      (word "SELECT " ++ s.projection ++ word " FROM " ++ tableRef table.text) := by
    simp only [drawn_append, drawn_word, drawn_tableRef, drawn_projection h, and_true]
    decide
  have hrows := Fills.clause (by decide : " WHERE " ∈ templateWords)
    (drawn_conditions drawn_column q.filters) (Fills.conditions drawn_column q.filters)
  have hgroups : Drawn False [] (clause " GROUP BY " (columns q.groupBy)) :=
    drawn_clause (by decide) (drawn_columns _)
  have hhaving := Fills.clause (by decide : " HAVING " ∈ templateWords) (drawn_having h)
    (fills_having h).1
  have hkeys : Drawn False [] (clause " ORDER BY " (sortKeys s.orderBy)) :=
    drawn_clause (by decide) (drawn_sortKeys _)
  have hall := (((((Fills.still hhead).append hrows).append (Fills.still hgroups)).append
    hhaving).append (Fills.still hkeys)).append (Fills.still q.drawn_bounds)
  simp only [List.nil_append, List.append_nil] at hall
  rw [fragment_sql]
  exact hall

end Query

/-- The text of a comparison takes the literals of its conditions and then its years, twice. -/
lemma Comparison.fills_fragment (table : Ident) (c : Comparison) :
    Fills (c.fragment table).sql
      (literalsIn c.filters ++ [.integer c.baseYear, .integer c.compareYear, .integer c.baseYear,
        .integer c.compareYear]) (c.filled table) := by
  have hopening : Drawn False [] (c.opening table) := c.drawn_opening table
  have hrows := Fills.before (by decide : " AND " ∈ templateWords)
    (drawn_conditions drawn_column c.filters) (Fills.conditions drawn_column c.filters)
  have hin : Drawn False [] (column c.yearColumn ++ word " IN (") :=
    drawn_append.mpr ⟨drawn_column _, drawn_word.mpr (by decide)⟩
  have hyears : Fills (slots 2) [.integer c.baseYear, .integer c.compareYear]
      (listed [.integer c.baseYear, .integer c.compareYear]) :=
    Fills.slots [.integer c.baseYear, .integer c.compareYear]
  have hpairing : Drawn False [] c.pairing := c.drawn_pairing
  have hand : " AND c.period = " ∈ templateWords := by decide
  have hall := ((((((((Fills.still hopening).append hrows).append (Fills.still hin)).append
    hyears).append (Fills.still hpairing)).append (Fills.place (.integer c.baseYear))).append
    (Fills.ofWord hand)).append (Fills.place (.integer c.compareYear))).append
    (Fills.still c.drawn_ranking)
  rw [fragment_sql, filled]
  simpa only [List.append_assoc, List.cons_append, List.nil_append, List.append_nil] using hall

/-! ## Statements -/

/-- Whether a fault is about the number of places. -/
def StatementFault.isUneven : StatementFault → Bool
  | unevenSlots _ _ => true
  | _ => false

/-- A fault about the number of places is told from the others by its first letter. -/
lemma StatementFault.head_detail (f : StatementFault) :
    f.failure.detail.toList.head? = some (if f.isUneven then 'S' else 'G') := by
  cases f <;> simp [failure, Failure.detail, isUneven]

/-- A text with as many places as literals is not refused for their number. -/
lemma Statement.verified_ne_uneven (reader : Reader) {sql : Sql} {params : List Literal}
    (h : countSlots sql.render = params.length) (slots count : Nat) :
    (verified reader sql params).mapError StatementFault.failure ≠
      .error (StatementFault.unevenSlots slots count).failure := by
  have hfault : ∀ f, verified reader sql params = .error f → f.isUneven = false := by
    intro f hf
    unfold verified at hf
    dsimp only at hf
    rw [if_neg (not_not.mpr h)] at hf
    split at hf
    · obtain rfl := Except.error.inj hf
      rfl
    · exact absurd hf nofun
    · obtain rfl := Except.error.inj hf
      rfl
  cases hv : verified reader sql params with
  | ok st => exact nofun
  | error f =>
    intro heq
    have hhead := f.head_detail
    rw [hfault f hv, Except.error.inj heq, StatementFault.head_detail] at hhead
    simp [StatementFault.isUneven] at hhead

/-- What a text takes for its places, in terms of the text itself. -/
lemma Sql.Fills.render {sql : Sql} {ls : List Literal} {out : List Filled} (h : Fills sql ls out) :
    Statement.countSlots sql.render = ls.length ∧ fill sql.render.toList ls = out := by
  rw [Statement.countSlots, toList_render]
  exact ⟨h.places, h.filled⟩

/-- The literals of a query are those of its conditions on rows, then those on groups. -/
lemma Query.params_fragment (table : Ident) {q : Query} {s : Shown} (h : q.shown = .ok s) :
    (q.fragment table s).params = literalsIn q.filters ++ literalsIn q.having := by
  have hhaving := (fills_having h).2
  rw [fragment, hhaving]
  rfl

/-- The literals of a comparison are those of its conditions, then its years, twice. -/
lemma Comparison.params_fragment (table : Ident) (c : Comparison) :
    (c.fragment table).params = literalsIn c.filters ++ [.integer c.baseYear,
      .integer c.compareYear, .integer c.baseYear, .integer c.compareYear] := rfl

/-- No query is refused because its places and its literals differ in number. -/
lemma Query.statement_ne_uneven (table : Ident) (q : Query) (reader : Reader) (slots count : Nat) :
    q.statement table reader ≠ .error (StatementFault.unevenSlots slots count).failure := by
  cases h : q.shown with
  | error r =>
    rw [statement_of_refused table h]
    intro heq
    exact absurd (congrArg Failure.code (Except.error.inj heq)) nofun
  | ok s =>
    rw [statement_of_shown table h]
    refine Statement.verified_ne_uneven reader ?_ slots count
    rw [q.params_fragment table h]
    exact (q.fills_fragment table h).render.1

/-- A text with as many places as literals is a statement, if the reader takes it for one query. -/
lemma Statement.verified_of_taken {reader : Reader} {sql : Sql} {params : List Literal}
    (h : countSlots sql.render = params.length) (htaken : reader sql.render = .ok [true]) :
    (verified reader sql params).mapError StatementFault.failure = .ok ⟨sql, params⟩ := by
  rw [verified, if_neg (not_not.mpr h), htaken]
  rfl

/-- A query that shows something has a statement, if the reader takes its text for one query. -/
lemma Query.statement_of_taken (table : Ident) {reader : Reader} {q : Query} {s : Shown}
    (h : q.shown = .ok s) (htaken : reader (q.fragment table s).sql.render = .ok [true]) :
    q.statement table reader = .ok ⟨(q.fragment table s).sql, (q.fragment table s).params⟩ := by
  have hplaces := (q.fills_fragment table h).render.1
  rw [← q.params_fragment table h] at hplaces
  rw [statement_of_shown table h, Statement.verified_of_taken hplaces htaken]

/-- A comparison has a statement, if the reader takes its text for one query. -/
lemma Comparison.statement_of_taken (table : Ident) {reader : Reader} (c : Comparison)
    (htaken : reader (c.fragment table).sql.render = .ok [true]) :
    c.statement table reader = .ok ⟨(c.fragment table).sql, (c.fragment table).params⟩ := by
  rw [statement]
  exact Statement.verified_of_taken (c.fills_fragment table).render.1 htaken

/-- There is a statement for the different values of a column, if the reader takes its text for one
query. -/
lemma distinctStatement_of_taken {table c : Ident} {reader : Reader}
    (htaken : reader (distinctText table c).render = .ok [true]) :
    distinctStatement table c reader = .ok ⟨distinctText table c, []⟩ := by
  rw [distinctStatement]
  exact Statement.verified_of_taken (Fills.still (drawn_distinctText table c)).render.1 htaken

/-- **Every literal has its place.** Once a query is known to show something, its literals are
those of its conditions on rows and then those of its conditions on groups; its text has one place
for each; and the places, filled in turn, put every literal into its own condition. So it is with a
comparison, whose years follow the literals of its conditions. No request is refused because its
places and its literals differ in number, whatever the reader makes of its text.

**Proof sketch.** What a text takes for its places is followed piece by piece: a condition takes its
own literals and leaves the rest for what comes after it, and nothing else in a text has places
(`fills_fragment`). So there are as many places as literals, and a text for which that is so is
never refused for their number (`Statement.verified_ne_uneven`). -/
theorem literals_fill_places (table : Ident) :
    (∀ (q : Query) (s : Query.Shown), q.shown = .ok s →
      let f := q.fragment table s
      f.params = literalsIn q.filters ++ literalsIn q.having ∧
      Statement.countSlots f.sql.render = f.params.length ∧
      fill f.sql.render.toList f.params = q.filled table s) ∧
    (∀ c : Comparison,
      let f := c.fragment table
      f.params = literalsIn c.filters ++ [.integer c.baseYear, .integer c.compareYear,
        .integer c.baseYear, .integer c.compareYear] ∧
      Statement.countSlots f.sql.render = f.params.length ∧
      fill f.sql.render.toList f.params = c.filled table) ∧
    ∀ (reader : Reader) (slots count : Nat),
      let uneven := (StatementFault.unevenSlots slots count).failure
      (∀ q : Query, q.statement table reader ≠ .error uneven) ∧
      (∀ c : Comparison, c.statement table reader ≠ .error uneven) ∧
      ∀ column : Ident, distinctStatement table column reader ≠ .error uneven := by
  refine ⟨fun q s h => ?_, fun c => ⟨c.params_fragment table, (c.fills_fragment table).render⟩,
    fun reader slots count => ⟨fun q => q.statement_ne_uneven table reader slots count,
      fun c => ?_, fun column => ?_⟩⟩
  · have hparams := q.params_fragment table h
    refine ⟨hparams, ?_⟩
    rw [hparams]
    exact (q.fills_fragment table h).render
  · rw [Comparison.statement]
    exact Statement.verified_ne_uneven reader (c.fills_fragment table).render.1 slots count
  · rw [distinctStatement]
    refine Statement.verified_ne_uneven reader ?_ slots count
    exact (Fills.still (drawn_distinctText table column)).render.1

/-- A table in a schema. -/
def emissionsTable : Ident := ⟨"main.emissions", by decide⟩

/-- The column of the sectors. -/
def sectorColumn : Ident := ⟨"sector", by decide⟩

/-- The column of the countries. -/
def countryColumn : Ident := ⟨"country", by decide⟩

/-- The column of the years. -/
def yearColumn : Ident := ⟨"year", by decide⟩

/-- The column of the emissions. -/
def tonnesColumn : Ident := ⟨"tonnes", by decide⟩

/-- A query with conditions of all kinds, two of them on an aggregated column. -/
def emissionsQuery : Query where
  select := [sectorColumn]
  filters := [
    ⟨countryColumn, [.scalar (.text "what? \" where?"), .contains "land"]⟩,
    ⟨yearColumn,
      [.between (.integer 2015) (.integer 2022), .inSet [.integer 2016, .integer 2020], .isNull]⟩]
  groupBy := [sectorColumn]
  orderBy := [⟨tonnesColumn, true⟩]
  limit := 100
  offset := 20
  aggregations := [(tonnesColumn, .sum)]
  having := [⟨tonnesColumn, [.compare .above (.integer 10), .compare .below (.integer 90)]⟩]

/-- The literals of the query, a question mark and a quote among them, each find their place. -/
theorem literals_fill_places_emissions :
    ∃ s, emissionsQuery.shown = .ok s ∧
      (emissionsQuery.fragment emissionsTable s).params = [
        .text "what? \" where?", .text "%land%", .integer 2015, .integer 2022, .integer 2016,
        .integer 2020, .integer 10, .integer 90] ∧
      Statement.countSlots (emissionsQuery.fragment emissionsTable s).sql.render = 8 ∧
      fill (emissionsQuery.fragment emissionsTable s).sql.render.toList
          (emissionsQuery.fragment emissionsTable s).params =
        emissionsQuery.filled emissionsTable s :=
  have h := (literals_fill_places emissionsTable).1 emissionsQuery _ rfl
  ⟨_, rfl, h.1, h.2.1, h.2.2⟩

end QueryGate
