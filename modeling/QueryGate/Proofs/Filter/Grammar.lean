import QueryGate.Filter.Reading
import QueryGate.Proofs.Alphabet
import QueryGate.Proofs.Outcome

set_option relaxedAutoImplicit false
set_option autoImplicit false

/-!
# The grammar of filters

Values are checked as a whole, operand by operand and item by item, and each check leaves something
for another one: objects are not entered by the first, and nested lists pass it. Together they take
what the grammar of filters says and nothing else.

## Main definitions

* `QueryGate.Harmless` — texts that are short and hold no character that might end a literal.
* `QueryGate.Json.IsScalar`, `QueryGate.Json.AreChoices`, `QueryGate.Json.IsOperation`,
  `QueryGate.Json.IsFilter` — the grammar.
* `QueryGate.Literal.Written`, `QueryGate.Condition.Written`, `QueryGate.Condition.AllWritten`,
  `QueryGate.ColumnFilter.Written` — what is meant by what is written.

## Main results

* `QueryGate.ColumnFilter.ofJson_eq_ok_iff` — a filter is read when it is meant.
* `QueryGate.Json.isFilter_iff` — what is of the grammar has a meaning.
* `QueryGate.readFilters_exactly` — objects of filters are read when they are of the grammar, and as
  they are meant.
-/

namespace QueryGate

open Outcome

/-! ## What may be written -/

/-- Texts that are short and hold no character that might end a literal. -/
structure Harmless (s : String) : Prop where
  /-- There are at most 500 characters. -/
  short : s.toList.length ≤ 500
  /-- None is a semicolon, a quote or a backslash. -/
  plain : ∀ c ∈ s.toList, c ≠ ';' ∧ c ≠ '\'' ∧ c ≠ '"' ∧ c ≠ '\\'

namespace Json

/-- A short text without characters that might end a literal, a number, or a truth value. -/
def IsScalar : Json → Prop
  | str s => Harmless s
  | int _ | float _ | bool _ => True
  | null | arr _ | obj _ => False

/-- One to a hundred scalars. -/
def AreChoices (items : List Json) : Prop :=
  1 ≤ items.length ∧ items.length ≤ 100 ∧ ∀ j ∈ items, j.IsScalar

/-- An operator in lower case with an operand that it may have. -/
inductive IsOperation : String → Json → Prop
  /-- Most operators have a scalar. -/
  | single {op : String} {operand : Json}
    (hop : op ∈ ["eq", "gte", "lte", "gt", "lt", "contains"]) (h : operand.IsScalar) :
    IsOperation op operand
  /-- One has a list of choices. -/
  | choices {items : List Json} (h : AreChoices items) : IsOperation "in" (.arr items)
  /-- One has a list of two scalars. -/
  | range {low high : Json} (hlow : low.IsScalar) (hhigh : high.IsScalar) :
    IsOperation "between" (.arr [low, high])

/-- The value of a column in an object of filters. -/
inductive IsFilter : Json → Prop
  /-- Null. -/
  | null : IsFilter .null
  /-- A scalar. -/
  | scalar {j : Json} (h : j.IsScalar) : IsFilter j
  /-- A list of choices. -/
  | list {items : List Json} (h : AreChoices items) : IsFilter (.arr items)
  /-- An object of operators, in any letter case, with their operands. -/
  | operations {members : List (String × Json)} (hsome : members ≠ [])
    (h : ∀ m ∈ members, IsOperation (Text.lower m.1) m.2) : IsFilter (.obj members)

end Json

/-! ## What is meant by it -/

/-- A scalar is written for a literal. Integers stay integers as far as those of the engine go. -/
inductive Literal.Written : Json → Literal → Prop
  | text {s : String} (h : Harmless s) : Written (.str s) (.text s)
  | bool (b : Bool) : Written (.bool b) (.bool b)
  | integer {n : Int} (h : Word.isSigned n = true) : Written (.int n) (.integer n)
  | large {n : Int} (h : Word.isSigned n = false) : Written (.int n) (.float (Decimal.ofInt n))
  | float (x : Float) : Written (.float x) (.float x)

/-- The operator of a comparison. -/
def Comparator.word : Comparator → String
  | atLeast => "gte"
  | atMost => "lte"
  | above => "gt"
  | below => "lt"

namespace Condition

/-- Choices are written for literals, in their order. -/
structure ChoicesWritten (items : List Json) (values : List Literal) : Prop where
  /-- There is a choice. -/
  some : 1 ≤ items.length
  /-- There are at most a hundred. -/
  few : items.length ≤ 100
  /-- Each is written for its literal. -/
  each : List.Forall₂ Literal.Written items values

/-- An operator in lower case is written with its operand for a condition. -/
inductive Written : String → Json → Condition → Prop
  | eq {j : Json} {l : Literal} (h : Literal.Written j l) : Written "eq" j (.scalar l)
  | compare {j : Json} {l : Literal} (op : Comparator) (h : Literal.Written j l) :
    Written op.word j (.compare op l)
  | inSet {items : List Json} {values : List Literal} (h : ChoicesWritten items values) :
    Written "in" (.arr items) (.inSet values)
  | between {low high : Json} {l l' : Literal} (hlow : Literal.Written low l)
    (hhigh : Literal.Written high l') : Written "between" (.arr [low, high]) (.between l l')
  | contains {j : Json} {l : Literal} (h : Literal.Written j l) :
    Written "contains" j (.contains l.display)

/-- The value of a column is written for conditions, one for each operator in their order. -/
inductive AllWritten : Json → List Condition → Prop
  | null : AllWritten .null [.isNull]
  | scalar {j : Json} {l : Literal} (h : Literal.Written j l) : AllWritten j [.scalar l]
  | list {items : List Json} {values : List Literal} (h : ChoicesWritten items values) :
    AllWritten (.arr items) [.inSet values]
  | operations {members : List (String × Json)} {conditions : List Condition}
    (hsome : members ≠ [])
    (h : List.Forall₂ (fun m c => Written (Text.lower m.1) m.2 c) members conditions) :
    AllWritten (.obj members) conditions

end Condition

/-- A column with its value is written for a filter. -/
structure ColumnFilter.Written (name : String) (value : Json) (f : ColumnFilter) : Prop where
  /-- The filter is on this column. -/
  column : f.column.text = name
  /-- The value is written for its conditions. -/
  conditions : Condition.AllWritten value f.conditions

/-! ## Scalars -/

/-- A text passes the check when it is harmless. -/
lemma checkText_eq_ok_iff {s : String} : checkText s = .ok () ↔ Harmless s := by
  constructor
  · intro h
    unfold checkText at h
    split_ifs at h with hlong
    cases hfind : s.toList.find? isForbidden with
    | some c =>
      rw [hfind] at h
      exact absurd h nofun
    | none =>
      refine ⟨Nat.le_of_not_lt hlong, fun c hc => ?_⟩
      simpa [isForbidden, and_assoc] using List.find?_eq_none.mp hfind c hc
  · intro h
    have hshort : ¬ textLimit < s.toList.length := Nat.not_lt.mpr h.short
    have hnone : s.toList.find? isForbidden = none := by
      refine List.find?_eq_none.mpr fun c hc => ?_
      simpa [isForbidden, and_assoc] using h.plain c hc
    rw [checkText, if_neg hshort, hnone]

/-- The items of a list are checked one by one. -/
lemma checkValues_eq_ok_iff : ∀ {items : List Json},
    checkValues items = .ok () ↔ ∀ j ∈ items, checkValue j = .ok ()
  | [] => by simp [checkValues]
  | j :: rest => by
    rw [checkValues, List.forall_mem_cons, ← checkValues_eq_ok_iff]
    cases checkValue j <;> simp

/-- A list passes the check when it is short and all its items pass. -/
lemma checkValue_arr_eq_ok_iff {items : List Json} :
    checkValue (.arr items) = .ok () ↔
      items.length ≤ 100 ∧ ∀ j ∈ items, checkValue j = .ok () := by
  rw [checkValue, ← checkValues_eq_ok_iff]
  split_ifs with hlong
  · have hmany : ¬ items.length ≤ 100 := Nat.not_le.mpr hlong
    simp [hmany]
  · exact ⟨fun h => ⟨Nat.le_of_not_lt hlong, h⟩, And.right⟩

/-- Numbers, truth values, objects and null pass the check. -/
lemma checkValue_of_bare {j : Json} (hstr : ∀ s, j ≠ .str s) (harr : ∀ items, j ≠ .arr items) :
    checkValue j = .ok () := by
  rw [checkValue]
  · exact hstr
  · exact harr

variable (column : Ident) {j operand : Json} {items : List Json}

/-- A value is checked and read as a literal when it is written for it. -/
lemma Literal.ofJson_eq_ok_iff {l : Literal} :
    (checkValue j = .ok () ∧ ofJson column j = .ok l) ↔ Literal.Written j l := by
  constructor
  · rintro ⟨hvalue, h⟩
    cases j with
    | str s =>
      obtain rfl := Except.ok.inj h
      rw [checkValue, checkText_eq_ok_iff] at hvalue
      exact .text hvalue
    | bool b => exact Except.ok.inj h ▸ .bool b
    | int n =>
      simp only [ofJson] at h
      split_ifs at h with hword
      · exact Except.ok.inj h ▸ .integer hword
      · exact Except.ok.inj h ▸ .large (by simpa using hword)
    | float x => exact Except.ok.inj h ▸ .float x
    -- These pass the check, or may pass it, and are no literals all the same.
    | null | arr _ | obj _ => simp [ofJson] at h
  · rintro (h | b | h | h | x)
    · exact ⟨by rwa [checkValue, checkText_eq_ok_iff], rfl⟩
    · exact ⟨checkValue_of_bare (by simp) (by simp), rfl⟩
    · exact ⟨checkValue_of_bare (by simp) (by simp), by simp [ofJson, h]⟩
    · exact ⟨checkValue_of_bare (by simp) (by simp), by simp [ofJson, h]⟩
    · exact ⟨checkValue_of_bare (by simp) (by simp), rfl⟩

/-- A value is written for a literal when it is a scalar. -/
lemma Literal.exists_written_iff : (∃ l, Literal.Written j l) ↔ j.IsScalar := by
  constructor
  · rintro ⟨l, h | _ | _ | _ | _⟩
    · exact h
    all_goals trivial
  · intro h
    cases j with
    | str s => exact ⟨_, .text h⟩
    | bool b => exact ⟨_, .bool b⟩
    | int n =>
      cases hword : Word.isSigned n with
      | true => exact ⟨_, .integer hword⟩
      | false => exact ⟨_, .large hword⟩
    | float x => exact ⟨_, .float x⟩
    | null | arr _ | obj _ => exact h.elim

/-! ## Lists -/

/-- Every member of a list has a partner when there is a list of partners. -/
lemma exists_forall₂_iff {α β : Type} {R : α → β → Prop} : ∀ {xs : List α},
    (∃ ys, List.Forall₂ R xs ys) ↔ ∀ x ∈ xs, ∃ y, R x y
  | [] => by simp
  | x :: xs => by
    rw [List.forall_mem_cons, ← exists_forall₂_iff]
    simp only [List.forall₂_cons_left_iff]
    constructor
    · rintro ⟨ys, y, ys', hy, hys', rfl⟩
      exact ⟨⟨y, hy⟩, ys', hys'⟩
    · rintro ⟨⟨y, hy⟩, ys', hys'⟩
      exact ⟨y :: ys', y, ys', hy, hys', rfl⟩

namespace Condition

/-- A list is checked and read as literals when it is written for them as choices. -/
lemma readList_eq_ok_iff {values : List Literal} :
    (checkValue (.arr items) = .ok () ∧ readList column items = .ok values) ↔
      ChoicesWritten items values := by
  have heach : List.Forall₂ Literal.Written items values ↔
      (∀ j ∈ items, checkValue j = .ok ()) ∧
        List.Forall₂ (fun j l => Literal.ofJson column j = .ok l) items values := by
    rw [← List.forall₂_and_left]
    simp only [Literal.ofJson_eq_ok_iff column]
  -- The check bounds the list from above, and the reading from below.
  unfold readList
  rw [checkValue_arr_eq_ok_iff]
  split_ifs with hempty
  · refine ⟨fun h => absurd h.2 nofun, fun h => ?_⟩
    rw [List.isEmpty_iff.mp hempty] at h
    exact absurd h.some (by decide)
  · have hsome : 1 ≤ items.length := by
      rw [Nat.one_le_iff_ne_zero, ne_eq, List.length_eq_zero_iff, ← List.isEmpty_iff]
      exact hempty
    rw [mapM_eq_ok_iff]
    exact ⟨fun ⟨⟨hfew, hchecked⟩, hread⟩ => ⟨hsome, hfew, heach.mpr ⟨hchecked, hread⟩⟩,
      fun h => ⟨⟨h.few, (heach.mp h.each).1⟩, (heach.mp h.each).2⟩⟩

/-- A list is written for choices when it is a list of them. -/
lemma exists_choicesWritten_iff :
    (∃ values, ChoicesWritten items values) ↔ Json.AreChoices items := by
  have hscalars : (∃ values, List.Forall₂ Literal.Written items values) ↔
      ∀ j ∈ items, j.IsScalar := by
    simp only [exists_forall₂_iff, Literal.exists_written_iff]
  rw [Json.AreChoices, ← hscalars]
  exact ⟨fun ⟨values, h⟩ => ⟨h.some, h.few, values, h.each⟩,
    fun ⟨hsome, hfew, values, heach⟩ => ⟨values, hsome, hfew, heach⟩⟩

/-! ## Operators -/

/-- An operand is checked and read with its operator as a condition when both are written for it. -/
lemma ofOperator_eq_ok_iff {op : String} {c : Condition} :
    (checkValue operand = .ok () ∧ ofOperator column op operand = .ok c) ↔
      Written (Text.lower op) operand c := by
  unfold ofOperator
  generalize Text.lower op = word
  constructor
  · rintro ⟨hvalue, h⟩
    have hscalar : ∀ {l}, Literal.ofJson column operand = .ok l → Literal.Written operand l :=
      fun hl => (Literal.ofJson_eq_ok_iff column).mp ⟨hvalue, hl⟩
    split at h
    case h_1 =>
      obtain ⟨l, hl, rfl⟩ := map_eq_ok_iff.mp h
      exact .eq (hscalar hl)
    case h_2 =>
      split at h
      · obtain ⟨values, hvalues, rfl⟩ := map_eq_ok_iff.mp h
        exact .inSet ((readList_eq_ok_iff column).mp ⟨hvalue, hvalues⟩)
      · exact absurd h nofun
    case h_3 =>
      split at h
      · obtain ⟨l, hl, h⟩ := bind_eq_ok_iff.mp h
        obtain ⟨l', hl', h⟩ := bind_eq_ok_iff.mp h
        obtain rfl := Except.ok.inj h
        -- The bounds were checked with the list that they stand in.
        have hitems := (checkValue_arr_eq_ok_iff.mp hvalue).2
        exact .between ((Literal.ofJson_eq_ok_iff column).mp ⟨hitems _ (by simp), hl⟩)
          ((Literal.ofJson_eq_ok_iff column).mp ⟨hitems _ (by simp), hl'⟩)
      · exact absurd h nofun
    case h_4 =>
      obtain ⟨l, hl, rfl⟩ := map_eq_ok_iff.mp h
      exact .compare .atLeast (hscalar hl)
    case h_5 =>
      obtain ⟨l, hl, rfl⟩ := map_eq_ok_iff.mp h
      exact .compare .atMost (hscalar hl)
    case h_6 =>
      obtain ⟨l, hl, rfl⟩ := map_eq_ok_iff.mp h
      exact .compare .above (hscalar hl)
    case h_7 =>
      obtain ⟨l, hl, rfl⟩ := map_eq_ok_iff.mp h
      exact .compare .below (hscalar hl)
    case h_8 =>
      split at h
      · obtain ⟨_, hpart, h⟩ := bind_eq_ok_iff.mp h
        obtain rfl := Except.ok.inj h
        exact .contains (.text (checkText_eq_ok_iff.mp hpart))
      · obtain ⟨l, hl, rfl⟩ := map_eq_ok_iff.mp h
        exact .contains (hscalar hl)
    case h_9 => exact absurd h nofun
  · intro h
    cases h with
    | eq h =>
      obtain ⟨hvalue, hl⟩ := (Literal.ofJson_eq_ok_iff column).mpr h
      exact ⟨hvalue, map_eq_ok_iff.mpr ⟨_, hl, rfl⟩⟩
    | compare op h =>
      obtain ⟨hvalue, hl⟩ := (Literal.ofJson_eq_ok_iff column).mpr h
      cases op <;> exact ⟨hvalue, map_eq_ok_iff.mpr ⟨_, hl, rfl⟩⟩
    | inSet h =>
      obtain ⟨hvalue, hvalues⟩ := (readList_eq_ok_iff column).mpr h
      exact ⟨hvalue, map_eq_ok_iff.mpr ⟨_, hvalues, rfl⟩⟩
    | between hlow hhigh =>
      obtain ⟨hvalue, hl⟩ := (Literal.ofJson_eq_ok_iff column).mpr hlow
      obtain ⟨hvalue', hl'⟩ := (Literal.ofJson_eq_ok_iff column).mpr hhigh
      refine ⟨checkValue_arr_eq_ok_iff.mpr ⟨by simp, by simp [hvalue, hvalue']⟩, ?_⟩
      exact bind_eq_ok_iff.mpr ⟨_, hl, bind_eq_ok_iff.mpr ⟨_, hl', rfl⟩⟩
    | contains h =>
      obtain ⟨hvalue, hl⟩ := (Literal.ofJson_eq_ok_iff column).mpr h
      cases h with
      -- A text that is looked for is checked once more.
      | text h =>
        exact ⟨hvalue, bind_eq_ok_iff.mpr ⟨(), checkText_eq_ok_iff.mpr h, rfl⟩⟩
      | _ => exact ⟨hvalue, map_eq_ok_iff.mpr ⟨_, hl, rfl⟩⟩

/-- An operator and an operand are written for a condition when they are an operation. -/
lemma exists_written_iff {word : String} :
    (∃ c, Written word operand c) ↔ Json.IsOperation word operand := by
  constructor
  · rintro ⟨c, h⟩
    cases h with
    | eq h => exact .single (by decide) (Literal.exists_written_iff.mp ⟨_, h⟩)
    | compare op h =>
      exact .single (by cases op <;> decide) (Literal.exists_written_iff.mp ⟨_, h⟩)
    | inSet h => exact .choices (exists_choicesWritten_iff.mp ⟨_, h⟩)
    | between hlow hhigh =>
      exact .range (Literal.exists_written_iff.mp ⟨_, hlow⟩)
        (Literal.exists_written_iff.mp ⟨_, hhigh⟩)
    | contains h => exact .single (by decide) (Literal.exists_written_iff.mp ⟨_, h⟩)
  · intro h
    cases h with
    | single hop h =>
      obtain ⟨l, hl⟩ := Literal.exists_written_iff.mpr h
      simp only [List.mem_cons, List.not_mem_nil, or_false] at hop
      rcases hop with rfl | rfl | rfl | rfl | rfl | rfl
      · exact ⟨_, .eq hl⟩
      · exact ⟨_, .compare .atLeast hl⟩
      · exact ⟨_, .compare .atMost hl⟩
      · exact ⟨_, .compare .above hl⟩
      · exact ⟨_, .compare .below hl⟩
      · exact ⟨_, .contains hl⟩
    | choices h =>
      obtain ⟨values, hvalues⟩ := exists_choicesWritten_iff.mpr h
      exact ⟨_, .inSet hvalues⟩
    | range hlow hhigh =>
      obtain ⟨l, hl⟩ := Literal.exists_written_iff.mpr hlow
      obtain ⟨l', hl'⟩ := Literal.exists_written_iff.mpr hhigh
      exact ⟨_, .between hl hl'⟩

/-! ## Columns -/

/-- Operators are read as conditions when they are written for them, one by one. -/
lemma readOperators_eq_ok_iff {members : List (String × Json)} {conditions : List Condition} :
    readOperators column members = .ok conditions ↔
      List.Forall₂ (fun m c => Written (Text.lower m.1) m.2 c) members conditions := by
  -- An object passes the check unseen, so each operand is checked with its operator.
  have hstep : ∀ (m : String × Json) (c : Condition),
      (checkValue m.2 >>= fun _ => ofOperator column m.1 m.2) = .ok c ↔
        Written (Text.lower m.1) m.2 c := by
    intro m c
    rw [bind_eq_ok_iff, ← ofOperator_eq_ok_iff column]
    exact ⟨fun ⟨(), h⟩ => h, fun h => ⟨(), h⟩⟩
  simp only [← hstep]
  exact mapM_eq_ok_iff

/-- The value of a column is checked and read as conditions when it is written for them. -/
lemma readConditions_eq_ok_iff {value : Json} {conditions : List Condition} :
    (checkValue value = .ok () ∧ readConditions column value = .ok conditions) ↔
      AllWritten value conditions := by
  constructor
  · rintro ⟨hvalue, h⟩
    unfold readConditions at h
    split at h
    case h_1 => exact Except.ok.inj h ▸ .null
    case h_2 =>
      obtain ⟨values, hvalues, rfl⟩ := map_eq_ok_iff.mp h
      exact .list ((readList_eq_ok_iff column).mp ⟨hvalue, hvalues⟩)
    case h_3 =>
      split_ifs at h with hempty
      exact .operations (by simpa using hempty) ((readOperators_eq_ok_iff column).mp h)
    case h_4 =>
      obtain ⟨l, hl, rfl⟩ := map_eq_ok_iff.mp h
      exact .scalar ((Literal.ofJson_eq_ok_iff column).mp ⟨hvalue, hl⟩)
  · intro h
    cases h with
    | null => exact ⟨checkValue_of_bare (by simp) (by simp), rfl⟩
    | scalar h =>
      obtain ⟨hvalue, hl⟩ := (Literal.ofJson_eq_ok_iff column).mpr h
      have hscalar : readConditions column value =
          (Literal.ofJson column value).map fun l => [.scalar l] := by cases h <;> rfl
      exact ⟨hvalue, hscalar ▸ map_eq_ok_iff.mpr ⟨_, hl, rfl⟩⟩
    | list h =>
      obtain ⟨hvalue, hvalues⟩ := (readList_eq_ok_iff column).mpr h
      exact ⟨hvalue, map_eq_ok_iff.mpr ⟨_, hvalues, rfl⟩⟩
    | operations hsome h =>
      refine ⟨checkValue_of_bare (by simp) (by simp), ?_⟩
      rw [readConditions, if_neg (by simpa using hsome)]
      exact (readOperators_eq_ok_iff column).mpr h

end Condition

/-- What is of the grammar is written for conditions, and nothing else is. -/
theorem Json.isFilter_iff : (∃ conditions, Condition.AllWritten j conditions) ↔ j.IsFilter := by
  constructor
  · rintro ⟨conditions, h⟩
    cases h with
    | null => exact .null
    | scalar h => exact .scalar (Literal.exists_written_iff.mp ⟨_, h⟩)
    | list h => exact .list (Condition.exists_choicesWritten_iff.mp ⟨_, h⟩)
    | operations hsome h =>
      have hall := exists_forall₂_iff.mp ⟨_, h⟩
      exact .operations hsome fun m hm => Condition.exists_written_iff.mp (hall m hm)
  · intro h
    cases h with
    | null => exact ⟨_, .null⟩
    | scalar h =>
      obtain ⟨l, hl⟩ := Literal.exists_written_iff.mpr h
      exact ⟨_, .scalar hl⟩
    | list h =>
      obtain ⟨values, hvalues⟩ := Condition.exists_choicesWritten_iff.mpr h
      exact ⟨_, .list hvalues⟩
    | operations hsome h =>
      obtain ⟨conditions, hconditions⟩ := exists_forall₂_iff.mpr fun m hm =>
        Condition.exists_written_iff.mpr (h m hm)
      exact ⟨conditions, .operations hsome hconditions⟩

namespace ColumnFilter

variable {name : String} {value : Json}

/-- A column with its value is read as a filter when it is written for it. -/
theorem ofJson_eq_ok_iff {f : ColumnFilter} : ofJson name value = .ok f ↔ Written name value f := by
  rw [ofJson, bind_eq_ok_iff]
  constructor
  · rintro ⟨column, hcolumn, h⟩
    obtain ⟨_, hvalue, h⟩ := bind_eq_ok_iff.mp h
    obtain ⟨conditions, hconditions, h⟩ := bind_eq_ok_iff.mp h
    obtain rfl := Except.ok.inj h
    exact ⟨Ident.column_eq_ok_iff.mp hcolumn,
      (Condition.readConditions_eq_ok_iff column).mp ⟨hvalue, hconditions⟩⟩
  · rintro ⟨hcolumn, hconditions⟩
    obtain ⟨hvalue, h⟩ := (Condition.readConditions_eq_ok_iff f.column).mpr hconditions
    exact ⟨f.column, Ident.column_eq_ok_iff.mpr hcolumn,
      bind_eq_ok_iff.mpr ⟨(), hvalue, bind_eq_ok_iff.mpr ⟨_, h, rfl⟩⟩⟩

/-- A column with its value is written for a filter when the one is the name of a column and the
other is of the grammar. -/
lemma exists_written_iff : (∃ f, Written name value f) ↔ IsColumnName name ∧ value.IsFilter := by
  rw [← Json.isFilter_iff, ← Ident.exists_column_iff]
  simp only [Ident.column_eq_ok_iff]
  exact ⟨fun ⟨f, hcolumn, hconditions⟩ => ⟨⟨f.column, hcolumn⟩, f.conditions, hconditions⟩,
    fun ⟨⟨c, hcolumn⟩, conditions, hconditions⟩ => ⟨⟨c, conditions⟩, hcolumn, hconditions⟩⟩

end ColumnFilter

/-- An object of filters is read as the filters it is written for, one by one. -/
lemma readFilters_eq_ok_iff {members : List (String × Json)} {filters : List ColumnFilter} :
    readFilters members = .ok filters ↔
      List.Forall₂ (fun m f => ColumnFilter.Written m.1 m.2 f) members filters := by
  simp only [← ColumnFilter.ofJson_eq_ok_iff]
  exact mapM_eq_ok_iff

/-- An object of filters is read exactly when every column in it has the name of one and a value of
the grammar; and it is read as the filters it is written for, one for each column in their order.

**Proof sketch.** Members are read one by one and in order, so that this is about a single
member. A value is read just as the literals, conditions and lists in it are
(`Literal.ofJson_eq_ok_iff`, `ColumnFilter.ofJson_eq_ok_iff`), and the grammar has a filter for it
just if each part has one (`ColumnFilter.exists_written_iff`). -/
theorem readFilters_exactly (members : List (String × Json)) :
    ((∃ filters, readFilters members = .ok filters) ↔
      ∀ m ∈ members, IsColumnName m.1 ∧ m.2.IsFilter) ∧
    ∀ filters, readFilters members = .ok filters ↔
      List.Forall₂ (fun m f => ColumnFilter.Written m.1 m.2 f) members filters := by
  have hread : ∀ filters, readFilters members = .ok filters ↔
      List.Forall₂ (fun m f => ColumnFilter.Written m.1 m.2 f) members filters := by
    intro filters
    simp only [← ColumnFilter.ofJson_eq_ok_iff]
    exact mapM_eq_ok_iff
  refine ⟨?_, hread⟩
  simp only [hread, exists_forall₂_iff, ColumnFilter.exists_written_iff]

/-- Values of all shapes are read, and no object inside a list is. -/
theorem readFilters_exactly_shapes :
    (∃ filters, readFilters [("ended", .null), ("gas", .arr [.str "CO2", .str "CH4"]),
      ("year", .obj [("GTE", .int 2000), ("between", .arr [.int 1990, .int 2010])])] =
        .ok filters) ∧
    ¬ ∃ filters, readFilters [("gas", .arr [.obj []])] = .ok filters := by
  refine ⟨(readFilters_exactly _).1.mpr ?_, fun h => ?_⟩
  · have hgas : Harmless "CO2" ∧ Harmless "CH4" :=
      ⟨checkText_eq_ok_iff.mp rfl, checkText_eq_ok_iff.mp rfl⟩
    have hlower : Text.lower "GTE" = "gte" ∧ Text.lower "between" = "between" := by
      constructor <;> decide +kernel
    have hnames : IsColumnName "ended" ∧ IsColumnName "gas" ∧ IsColumnName "year" :=
      ⟨Ident.isColumnName ⟨"ended", by decide⟩, Ident.isColumnName ⟨"gas", by decide⟩,
        Ident.isColumnName ⟨"year", by decide⟩⟩
    simp only [List.forall_mem_cons]
    refine ⟨⟨hnames.1, .null⟩, ⟨hnames.2.1, .list ?_⟩, ⟨hnames.2.2, .operations nofun ?_⟩, nofun⟩
    · exact ⟨by decide, by decide, by simp [hgas, Json.IsScalar]⟩
    · simp only [List.forall_mem_cons, hlower]
      exact ⟨.single (by decide) trivial, .range trivial trivial, nofun⟩
  · have hfilter := ((readFilters_exactly _).1.mp h _ List.mem_cons_self).2
    rcases hfilter with _ | hscalar | hlist | _
    · exact hscalar
    · exact hlist.2.2 _ List.mem_cons_self

end QueryGate
