import Mathlib.Data.List.Basic
import QueryGate.Proofs.Sql.Places
import QueryGate.Proofs.Sql.Reading.Texts

set_option relaxedAutoImplicit false
set_option autoImplicit false

/-!
# What stands between quotes

The double quotes of a generated statement cut its text into parts that stand in turn outside and
inside quotes. Inside are the names that the request asks for, none of them cut short or extended;
outside are template words, places and numbers.

## Main definitions

* `QueryGate.Sql.Quotes` — the parts inside and outside the quotes of a text.
* `QueryGate.Query.names`, `QueryGate.Comparison.names`, `QueryGate.distinctNames` — the names that
  a statement has to hold, in the order of its clauses.

## Main results

* `QueryGate.Sql.quotes_render` — the quotes of a text made of pieces hold the names of its pieces.
* `QueryGate.quotes_of_statement` — every generated statement quotes exactly the names asked for.
-/

namespace QueryGate

namespace Sql

/-! ## The parts of a text -/

/-- A template word, a place, or one of the given numbers in digits. -/
def IsWord (numbers : List Nat) (w : String) : Prop :=
  w ∈ templateWords ∨ w = "?" ∨ ∃ n ∈ numbers, w = toString n

/-- Text put together from such words only. -/
def FromTemplate (numbers : List Nat) (text : String) : Prop :=
  ∃ words : List String, text = String.join words ∧ ∀ w ∈ words, IsWord numbers w

/-- The parts into which the double quotes of a text cut it, in turn outside and inside. -/
structure Quotes (names : List String) (numbers : List Nat) (text : String) : Prop where
  /-- Inside are the names, in order. -/
  inside : Text.inside (Text.fields '"' text) = names
  /-- Every quote that is opened is closed. -/
  closed : (Text.fields '"' text).length = 2 * names.length + 1
  /-- Outside is only text from the template. -/
  outside : ∀ part ∈ Text.outside (Text.fields '"' text), FromTemplate numbers part

variable {places : Prop} {numbers : List Nat}

/-- No word holds a double quote. -/
lemma IsWord.not_mem {w : String} (h : IsWord numbers w) : '"' ∉ w.toList := by
  rcases h with h | rfl | ⟨n, -, rfl⟩
  · have hall : ∀ w ∈ templateWords, '"' ∉ w.toList := by decide +kernel
    exact hall w h
  · decide
  · exact not_mem_toString n (by decide)

/-- The empty text is from the template. -/
lemma fromTemplate_nil : FromTemplate numbers "" := ⟨[], rfl, by simp⟩

/-- A word before text from the template. -/
lemma FromTemplate.cons {w text : String} (hw : IsWord numbers w)
    (h : FromTemplate numbers text) : FromTemplate numbers (w ++ text) := by
  obtain ⟨words, rfl, hwords⟩ := h
  refine ⟨w :: words, String.join_cons.symm, fun v hv => ?_⟩
  rcases List.mem_cons.mp hv with rfl | hv
  · exact hw
  · exact hwords v hv

/-- The name of a piece that is one. -/
def Piece.name? : Piece → Option String
  | quoted name => some name
  | _ => none

/-- The names among the pieces of a text, in order. -/
def names (sql : Sql) : List String := sql.filterMap Piece.name?

/-- A piece that is no name is a word. -/
lemma Piece.isWord {p : Piece} (h : p.Drawn places numbers) (hp : p.name? = none) :
    IsWord numbers p.text := by
  cases p with
  | fixed w => exact Or.inl h
  | quoted name => exact absurd hp nofun
  | slot => exact Or.inr (Or.inl rfl)
  | number n => exact Or.inr (Or.inr ⟨n, h, rfl⟩)

/-- The parts into which the double quotes among some characters cut them. -/
structure QuotesIn (names : List String) (numbers : List Nat) (cs : List Char) : Prop where
  /-- Inside are the names, in order. -/
  inside : Text.inside (Text.fieldsOf '"' cs) = names.map String.toList
  /-- Every quote that is opened is closed. -/
  closed : (Text.fieldsOf '"' cs).length = 2 * names.length + 1
  /-- Outside is only text from the template. -/
  outside : ∀ part ∈ Text.outside (Text.fieldsOf '"' cs), FromTemplate numbers (String.ofList part)

namespace QuotesIn

variable {held : List String} {cs : List Char}

/-- No characters. -/
lemma nil : QuotesIn [] numbers [] := by
  refine ⟨rfl, rfl, fun part hpart => ?_⟩
  obtain rfl : part = [] := by simpa [Text.fieldsOf, Text.outside] using hpart
  exact fromTemplate_nil

/-- A word holds no quote, so it joins the first part, which is outside. -/
lemma word {w : String} (hw : IsWord numbers w) (h : QuotesIn held numbers cs) :
    QuotesIn held numbers (w.toList ++ cs) := by
  have hfields := Text.fieldsOf_append w.toList cs hw.not_mem
  refine ⟨?_, ?_, fun part hpart => ?_⟩
  · rw [hfields, Text.inside_modifyHead, h.inside]
  · rw [hfields, List.length_modifyHead, h.closed]
  · rw [hfields, Text.outside_modifyHead] at hpart
    have hout := h.outside
    cases ho : Text.outside (Text.fieldsOf '"' cs) with
    | nil => simp [ho] at hpart
    | cons first rest =>
      rw [ho] at hpart hout
      rcases List.mem_cons.mp hpart with rfl | hpart
      · rw [String.ofList_append, String.ofList_toList]
        exact (hout first List.mem_cons_self).cons hw
      · exact hout part (List.mem_cons_of_mem _ hpart)

/-- A name between quotes adds an empty part outside and itself inside. -/
lemma quoted {name : String} (hname : '"' ∉ name.toList) (h : QuotesIn held numbers cs) :
    QuotesIn (name :: held) numbers ('"' :: (name.toList ++ '"' :: cs)) := by
  have hfields : Text.fieldsOf '"' ('"' :: (name.toList ++ '"' :: cs)) =
      [] :: name.toList :: Text.fieldsOf '"' cs := by
    rw [Text.fieldsOf_cons_self, Text.fieldsOf_append_cons _ _ hname]
  refine ⟨?_, ?_, fun part hpart => ?_⟩
  · rw [hfields, Text.inside, h.inside, List.map_cons]
  · rw [hfields, List.length_cons, List.length_cons, h.closed, List.length_cons]
    omega
  · rw [hfields] at hpart
    rcases List.mem_cons.mp hpart with rfl | hpart
    · exact fromTemplate_nil
    · exact h.outside part hpart

end QuotesIn

/-- The quotes among the characters of some pieces hold exactly the names of the pieces. -/
lemma quotesIn_chars {sql : Sql} (h : Drawn places numbers sql) :
    QuotesIn (names sql) numbers sql.chars := by
  induction sql with
  | nil => exact .nil
  | cons p sql ih =>
    have hp : p.Drawn places numbers := h p List.mem_cons_self
    have hrest := ih fun q hq => h q (List.mem_cons_of_mem p hq)
    rw [chars_cons]
    cases hname : p.name? with
    | none =>
      have hnames : names (p :: sql) = names sql := by simp [names, hname]
      rw [hnames]
      exact hrest.word (p.isWord hp hname)
    | some name =>
      obtain rfl : p = .quoted name := by
        cases p with
        | quoted n => rw [Option.some.inj hname]
        | _ => exact absurd hname nofun
      have hquote : '"' ∉ name.toList := fun hmem => absurd (hp '"' hmem) (by decide)
      have htext : (Piece.quoted name).text.toList = '"' :: (name.toList ++ ['"']) := by
        simp [Piece.text]
      rw [htext, List.cons_append, List.append_assoc, List.singleton_append]
      exact hrest.quoted hquote

/-- **The quotes of a text made of pieces hold exactly the names of its pieces.** -/
theorem quotes_render {sql : Sql} (h : Drawn places numbers sql) :
    Quotes (names sql) numbers sql.render := by
  obtain ⟨hin, hlen, hout⟩ := quotesIn_chars h
  rw [← toList_render] at hin hlen hout
  refine ⟨?_, ?_, fun part hpart => ?_⟩
  · rw [Text.fields, Text.inside_map, hin, List.map_map]
    simp
  · rw [Text.fields, List.length_map, hlen]
  · rw [Text.fields, Text.outside_map] at hpart
    obtain ⟨cs, hcs, rfl⟩ := List.mem_map.mp hpart
    exact hout cs hcs

/-! ## The names in a text -/

/-- The names in two texts one after the other. -/
@[simp] lemma names_append (a b : Sql) : names (a ++ b) = names a ++ names b := by
  simp [names]

/-- Fixed words hold no name. -/
@[simp] lemma names_word (w : String) : names (word w) = [] := rfl

/-- A place holds no name. -/
@[simp] lemma names_slot_cons (sql : Sql) : names (.slot :: sql) = names sql := rfl

/-- A number holds no name. -/
@[simp] lemma names_number_cons (n : Nat) (sql : Sql) : names (.number n :: sql) = names sql := rfl

/-- A name between quotes. -/
@[simp] lemma names_quoted_cons (name : String) (sql : Sql) :
    names (.quoted name :: sql) = name :: names sql := rfl

/-- No pieces hold no name. -/
@[simp] lemma names_nil : names [] = [] := rfl

/-- A column holds its name. -/
@[simp] lemma names_column (c : Ident) : names (column c) = [c.text] := rfl

/-- The names in joined texts. -/
@[simp] lemma names_sepBy (s : String) : ∀ parts : List Sql,
    names (sepBy s parts) = parts.flatMap names
  | [] => rfl
  | [p] => by simp
  | p :: next :: rest => by
    rw [sepBy_cons_cons, names_append, names_append, names_sepBy s (next :: rest)]
    simp

/-- Columns hold their names. -/
@[simp] lemma names_columns (cs : List Ident) : names (columns cs) = cs.map (·.text) := by
  rw [columns, names_sepBy, List.flatMap_map, List.map_eq_flatMap]
  rfl

/-- Joined names hold themselves. -/
lemma names_sepBy_quoted (s : String) (parts : List String) :
    names (sepBy s (parts.map fun part => [.quoted part])) = parts := by
  rw [names_sepBy, List.flatMap_map]
  exact List.flatMap_singleton' _

/-- A table holds the parts of its name. -/
@[simp] lemma names_tableRef (table : String) :
    names (tableRef table) = Text.fields '.' table :=
  names_sepBy_quoted "." (Text.fields '.' table)

/-- Places hold no name. -/
@[simp] lemma names_slots (n : Nat) : names (slots n) = [] := by
  rw [slots, names_sepBy, List.flatMap_eq_nil_iff]
  intro p hp
  rw [List.eq_of_mem_replicate hp]
  rfl

/-- A condition holds the names of its target. -/
@[simp] lemma names_condition (target : Sql) (c : Condition) :
    names (c.sql target) = names target := by
  cases c <;> simp [Condition.sql]

/-- A clause that may be left out holds the names of its body. -/
@[simp] lemma names_clause (opening : String) (body : Sql) :
    names (clause opening body) = names body := by
  unfold clause
  split_ifs with hempty
  · rw [List.isEmpty_iff.mp hempty]
  · simp

/-- The sort order holds the names of its columns. -/
@[simp] lemma names_sortKeys (keys : List SortKey) :
    names (sortKeys keys) = keys.map (·.column.text) := by
  rw [sortKeys, names_sepBy, List.flatMap_map, List.map_eq_flatMap]
  simp

/-- What the conditions of some filters are about, once for each condition. -/
def targets (target : Ident → String) (filters : List ColumnFilter) : List String :=
  filters.flatMap fun f => f.conditions.map fun _ => target f.column

/-- Conditions hold what they are about. -/
lemma names_conditions {target : Ident → Sql} {name : Ident → String}
    (h : ∀ c, names (target c) = [name c]) (filters : List ColumnFilter) :
    names (conditions target filters).sql = targets name filters := by
  rw [conditions, names_sepBy, List.flatMap_assoc, targets]
  congr 1
  funext f
  rw [List.flatMap_map, List.map_eq_flatMap]
  simp [h]

end Sql

open Sql

/-! ## The names that a statement has to hold -/

/-- The column that the name of an item stands for in a condition: the aggregated column of a
value, else the column itself. -/
def Plan.target (p : Plan) (c : Ident) : Ident :=
  match p.aggregates.find? fun a => decide (a.label = c) with
  | some a => a.source
  | none => c

/-- The names of the items that a plan shows: the plain columns, then for every value its column
and the generated name. -/
def Plan.names (p : Plan) : List String :=
  p.plain.map (·.text) ++ p.aggregates.flatMap fun a => [a.source.text, a.label.text]

/-- The names that the statement of a query has to hold, in the order of its clauses: what is
shown, the table, the conditions on rows, the grouping, the conditions on groups and the sort
order. -/
def Query.names (table : Ident) (q : Query) : List String :=
  let clauses := fun shown having keys : List String =>
    shown ++ Text.fields '.' table.text ++ targets Ident.text q.filters ++
      q.groupBy.map (·.text) ++ having ++ keys
  if q.aggregations.isEmpty then
    clauses (q.select.map (·.text)) [] (q.orderBy.map (·.column.text))
  else
    match Plan.build q.aggregations q.select q.groupBy with
    | .error _ => []
    | .ok p =>
      clauses p.names (targets (fun c => (p.target (p.remap c)).text) q.having)
        (q.orderBy.map fun k => (p.remap k.column).text)

/-- The names that the statement of a comparison has to hold. -/
def Comparison.names (table : Ident) (c : Comparison) : List String :=
  [c.keyColumn.text, c.yearColumn.text, c.valueColumn.text] ++ Text.fields '.' table.text ++
    targets Ident.text c.filters ++
    [c.yearColumn.text, c.keyColumn.text, c.yearColumn.text] ++
    ["key", "base", "compare", "delta", "pct"] ++ ["delta", "key"]

/-- The names that the statement for the different values of a column has to hold. -/
def distinctNames (table c : Ident) : List String :=
  [c.text] ++ Text.fields '.' table.text ++ [c.text, c.text]

/-! ## The names that a statement holds -/

namespace Plan

/-- The names in the items that a plan shows. -/
lemma names_projection (p : Plan) : Sql.names (sepBy ", " p.projection) = p.names := by
  rw [names_sepBy, projection, List.flatMap_append, List.flatMap_map, List.flatMap_map, names,
    List.map_eq_flatMap]
  rfl

/-- The names in the expression that the name of an item stands for. -/
lemma names_expression (p : Plan) (c : Ident) :
    Sql.names (p.expression c) = [(p.target c).text] := by
  unfold expression target
  cases p.aggregates.find? fun a => decide (a.label = c) with
  | none => rfl
  | some a => simp [Aggregate.expression, Aggregator.apply]

/-- Conditions on groups hold what their resolved references stand for. -/
lemma names_groupConditions (p : Plan) (filters : List ColumnFilter) :
    Sql.names (p.groupConditions (filters.map p.resolved)).sql =
      targets (fun c => (p.target (p.remap c)).text) filters := by
  rw [groupConditions, names_conditions p.names_expression, targets, List.flatMap_map]
  rfl

end Plan

/-- The text of a query holds the names that it has to hold. -/
lemma Query.names_fragment (table : Ident) {q : Query} {s : Shown} (h : q.shown = .ok s) :
    Sql.names (q.fragment table s).sql = q.names table := by
  have hrows : Sql.names (rowConditions q.filters).sql = targets Ident.text q.filters :=
    names_conditions names_column q.filters
  have hoffset :
      Sql.names (if q.offset = 0 then [] else word " OFFSET " ++ [.number q.offset]) = [] := by
    split_ifs <;> simp
  rcases shown_eq_ok h with ⟨hnone, -, rfl⟩ | ⟨hsome, p, hp, rfl⟩
  · have hprojection :
        Sql.names (if q.select.isEmpty then word "*" else columns q.select) =
          q.select.map (·.text) := by
      split_ifs with hempty
      · rw [List.isEmpty_iff.mp hempty]
        rfl
      · exact names_columns _
    simp [-List.isEmpty_iff, fragment, names, hnone, hrows, hoffset, hprojection]
  · have hnone : q.aggregations.isEmpty = false := by simpa using hsome
    simp [fragment, names, hnone, hp, hrows, hoffset, p.names_projection,
      p.names_groupConditions, Plan.remapKeys]

/-- The text of a comparison holds the names that it has to hold. -/
lemma Comparison.names_fragment (table : Ident) (c : Comparison) :
    Sql.names (c.fragment table).sql = c.names table := by
  have hrows : Sql.names (if (rowConditions c.filters).sql.isEmpty then []
      else (rowConditions c.filters).sql ++ word " AND ") = targets Ident.text c.filters := by
    rw [← names_conditions names_column c.filters]
    change _ = Sql.names (rowConditions c.filters).sql
    split_ifs with hempty
    · rw [List.isEmpty_iff.mp hempty]
    · simp
  unfold fragment names
  simp [-List.isEmpty_iff, hrows]

/-- The text for the different values of a column holds the names that it has to hold. -/
lemma names_distinctText (table c : Ident) :
    Sql.names (distinctText table c) = distinctNames table c := by
  simp [distinctText, distinctNames]

/-- **Quotes in generated statements hold exactly the names asked for.** The double quotes of a
statement cut its text into parts, in turn outside and inside. Inside are the names that the
request asks for, in the order of the clauses and as they are; outside are only template words,
places, and the numbers that bound the rows. This holds for whatever reader has accepted the
text.

**Proof sketch.** A statement is made of pieces: template words, names between quotes, places and
numbers (`drawn_fragment`, `drawn_distinctText`). No template word holds a quote, and no name does
either since names have an alphabet, so that the quotes of the text are those around its names
(`quotes_render`). What remains is to list the names of the pieces clause by clause
(`names_fragment`). -/
theorem quotes_of_statement (reader : Reader) (table : Ident) :
    (∀ (q : Query) (st : Statement), q.statement table reader = .ok st →
      Quotes (q.names table) [q.limit, q.offset] st.text) ∧
    (∀ (c : Comparison) (st : Statement), c.statement table reader = .ok st →
      Quotes (c.names table) [c.topCount] st.text) ∧
    (∀ (column : Ident) (st : Statement), distinctStatement table column reader = .ok st →
      Quotes (distinctNames table column) [] st.text) := by
  refine ⟨fun q st h => ?_, fun c st h => ?_, fun column st h => ?_⟩
  · obtain ⟨s, hs, rfl⟩ := q.statement_eq_ok h
    rw [← q.names_fragment table hs]
    exact quotes_render (q.drawn_fragment table hs)
  · rw [c.statement_eq_ok h, ← c.names_fragment table]
    exact quotes_render (c.drawn_fragment table)
  · rw [distinctStatement_eq_ok h, ← names_distinctText table column]
    exact quotes_render (drawn_distinctText table column)

/-- The names between the quotes of a statement: what is shown, the two parts of the table's name,
the conditions, the grouping and the sort order. -/
theorem quotes_of_statement_emissions :
    ∃ st, emissionsQuery.statement emissionsTable grammatical = .ok st ∧
      Quotes ["sector", "tonnes", "tonnes_sum", "main", "emissions", "country", "country", "year",
        "year", "year", "sector", "tonnes", "tonnes", "tonnes_sum"] [100, 20] st.text := by
  have hfilters : IsWritable emissionsQuery.filters := by simp [IsWritable, emissionsQuery]
  have hhaving : IsWritable emissionsQuery.having := by simp [IsWritable, emissionsQuery]
  have htaken := takesBuilt_grammatical.query emissionsTable hfilters hhaving rfl
  have h := Query.statement_of_taken emissionsTable rfl htaken
  exact ⟨_, h, (quotes_of_statement grammatical emissionsTable).1 emissionsQuery _ h⟩

end QueryGate
