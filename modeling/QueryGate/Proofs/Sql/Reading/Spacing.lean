import QueryGate.Proofs.Sql.Reading.Textless
import QueryGate.Proofs.Sql.Reading.Tokens

set_option relaxedAutoImplicit false
set_option autoImplicit false
-- The words of a comparison are cut character by character.
set_option maxRecDepth 10000

/-!
# Tokens of the texts put together here

The scanner sees a text as characters, without the pieces that it was put together from. It finds
the tokens of each piece where no piece runs into the next one, as a word or a number would that
goes on behind its end. The texts of queries, of comparisons and for different values keep their
pieces apart.

## Main definitions

* `QueryGate.Sql.tokens` — the tokens of the pieces of a text.
* `QueryGate.Sql.spaced` — whether no piece of a text runs into the next one.
* `QueryGate.Sql.IsPhrase`, `QueryGate.Sql.IsLead`, `QueryGate.Sql.IsTail` — the parts of texts, by
  what they may come after and before.

## Main results

* `QueryGate.Sql.tokens?_chars` — the tokens of a text are those of its pieces.
* `QueryGate.Query.spaced_fragment`, `QueryGate.Comparison.spaced_fragment`,
  `QueryGate.spaced_distinctText` — no piece of the texts put together here runs into the next one.
-/

namespace QueryGate

namespace Sql

open Scan (Border)

/-! ## Pieces -/

/-- The tokens of a piece. -/
def Piece.tokens : Piece → List Token
  | fixed w => ((Scan.cut? w.length .free w.toList).map (·.1)).getD []
  | quoted name => [.quoted '"' name]
  | slot => [.place]
  | number n => [.number (toString n) false]

/-- What a piece leaves behind. -/
def Piece.border : Piece → Border
  | fixed w => ((Scan.cut? w.length .free w.toList).map (·.2)).getD .free
  | quoted _ => .name
  | slot => .place
  | number _ => .number

/-- The tokens of a text. -/
def tokens (sql : Sql) : List Token := sql.flatMap Piece.tokens

/-- Whether a piece may come after what another one left behind. -/
def Piece.follows : Border → Piece → Bool
  | .free, _ => true
  | .point, quoted _ => true
  | b, fixed w => w.toList.head?.all b.allows
  | _, _ => false

/-- Whether no piece of a text runs into the next one. -/
def spaced : Border → Sql → Bool
  | _, [] => true
  | b, p :: sql => p.follows b && spaced p.border sql

@[simp] lemma tokens_append (a b : Sql) : tokens (a ++ b) = tokens a ++ tokens b := by
  simp [tokens]

/-- The tokens of texts joined by a word. -/
lemma tokens_sepBy (w : String) (p : Sql) : ∀ ps : List Sql,
    tokens (sepBy w (p :: ps)) = tokens p ++ ps.flatMap fun q => tokens (word w) ++ tokens q := by
  intro ps
  induction ps generalizing p with
  | nil => simp
  | cons q ps ih =>
    rw [sepBy_cons_cons, tokens_append, tokens_append, ih]
    simp

/-- The template has no words whose tokens depend on what comes after them, and none of these
tokens is a text. -/
lemma exists_cut? {w : String} (hw : w ∈ templateWords) :
    ∃ ts b, Scan.cut? w.length .free w.toList = some (ts, b) ∧ IsTextless ts := by
  have hall : ∀ w ∈ templateWords,
      (Scan.cut? w.length .free w.toList).any (fun found => found.1.all fun t => !t.isText) =
        true := by
    decide +kernel
  have hthis := hall w hw
  cases hcut : Scan.cut? w.length .free w.toList with
  | none =>
    rw [hcut] at hthis
    exact absurd hthis Bool.false_ne_true
  | some found =>
    rw [hcut] at hthis
    exact ⟨found.1, found.2, rfl, fun t ht => by simpa using List.all_eq_true.mp hthis t ht⟩

/-- No token of a text put together here is a text. -/
lemma isTextless_tokens {places : Prop} {numbers : List Nat} {sql : Sql}
    (h : Drawn places numbers sql) : IsTextless (tokens sql) := by
  intro t ht
  obtain ⟨p, hp, ht⟩ := List.mem_flatMap.mp ht
  cases p with
  | fixed w =>
    obtain ⟨ts, b, hcut, hts⟩ := exists_cut? (h (.fixed w) hp)
    have htokens : (Piece.fixed w).tokens = ts := by simp [Piece.tokens, hcut]
    exact hts t (htokens ▸ ht)
  | quoted _ | slot | number _ =>
    obtain rfl := List.mem_singleton.mp ht
    rfl

/-- A text that may come after something does not begin with what belongs to it. -/
lemma admits_of_spaced {places : Prop} {numbers : List Nat} {sql : Sql}
    (hdrawn : Drawn places numbers sql) {b : Border} (h : spaced b sql = true) :
    b.admits sql.chars := by
  cases sql with
  | nil => exact nofun
  | cons p sql =>
    have hne := (hdrawn p List.mem_cons_self).text_ne_nil
    have hfollows := (Bool.and_eq_true_iff.mp h).1
    intro c hc
    rw [chars_cons, List.head?_append_of_ne_nil _ hne, Option.mem_def] at hc
    cases b with
    | free => rfl
    | point =>
      cases p with
      | fixed w =>
        rw [Piece.text] at hc
        have hhead : w.toList.head?.all Border.point.allows = true := hfollows
        rwa [hc] at hhead
      | quoted name =>
        obtain rfl : '"' = c := by simpa [Piece.text] using hc
        rfl
      | _ => exact absurd hfollows Bool.false_ne_true
    | word | number | name | place =>
      cases p with
      | fixed w =>
        rw [Piece.text] at hc
        simpa [Piece.follows, hc] using hfollows
      | _ => exact absurd hfollows Bool.false_ne_true

/-- **The tokens of a text are those of its pieces**, where no piece runs into the next one.

**Proof sketch.** Induction on the pieces. Each kind of piece is read on its own as far as the next
one does not begin with a character that belongs to it. -/
theorem tokens?_chars {places : Prop} {numbers : List Nat} : ∀ {sql : Sql} {b : Border},
    Drawn places numbers sql → spaced b sql = true → Scan.tokens? sql.chars = some sql.tokens
  | [], _, _, _ => by rw [chars, List.flatMap_nil, Scan.tokens?.eq_def]; rfl
  | p :: sql, b, hdrawn, h => by
    obtain ⟨hp, hsql⟩ := List.forall_mem_cons.mp hdrawn
    have hspaced := (Bool.and_eq_true_iff.mp h).2
    have hadmits := admits_of_spaced hsql hspaced
    have ih := tokens?_chars hsql hspaced
    have htokens : tokens (p :: sql) = p.tokens ++ tokens sql := List.flatMap_cons
    rw [chars_cons, htokens]
    cases p with
    | fixed w =>
      obtain ⟨ts, b', hcut, -⟩ := exists_cut? hp
      have hborder : (Piece.fixed w).border = b' := by simp [Piece.border, hcut]
      rw [hborder] at hadmits
      rw [Piece.text, Scan.tokens?_of_cut? hcut hadmits, ih]
      simp [Piece.tokens, hcut]
    | quoted name =>
      have hname : '"' ∉ name.toList := fun hmem => absurd (hp '"' hmem) (by decide)
      have hchars : (Piece.quoted name).text.toList ++ chars sql =
          '"' :: (name.toList ++ '"' :: chars sql) := by
        simp [Piece.text]
      rw [hchars, Scan.tokens?_name hname hadmits, ih]
      simp [Piece.tokens]
    | slot =>
      have hchars : Piece.slot.text.toList ++ chars sql = '?' :: chars sql := rfl
      rw [hchars, Scan.tokens?_place hadmits, ih]
      rfl
    | number n =>
      have hchars : (Piece.number n).text.toList = Nat.toDigits 10 n := by
        simp [Piece.text, Nat.toString_eq_repr, Nat.toList_repr]
      have hdigits : ∀ d ∈ Nat.toDigits 10 n, d.isDigit = true :=
        fun d hd => Nat.isDigit_of_mem_toDigits (by decide) (by decide) hd
      have htext : toString n = String.ofList (Nat.toDigits 10 n) := by
        rw [← hchars, Piece.text, String.ofList_toList]
      obtain ⟨d, ds, hds⟩ : ∃ d ds, Nat.toDigits 10 n = d :: ds :=
        List.exists_cons_of_ne_nil (by simp)
      rw [Piece.tokens, htext, hchars, hds, List.cons_append,
        Scan.tokens?_number (hds ▸ hdigits) hadmits, ih]
      rfl

/-! ## Parts of texts -/

/-- A text that may come after anything. -/
def IsApart (sql : Sql) : Prop := ∀ b, spaced b sql = true

/-- A text that may come after a blank, before a text that may come after anything. -/
def IsPhrase (sql : Sql) : Prop := ∀ rest, IsApart rest → spaced .free (sql ++ rest) = true

/-- A text that may come after a blank, before whatever may come after a blank. -/
def IsLead (sql : Sql) : Prop :=
  ∀ rest, spaced .free rest = true → spaced .free (sql ++ rest) = true

/-- A text that may come after anything, before a text that may come after anything. -/
def IsTail (sql : Sql) : Prop := ∀ rest, IsApart rest → IsApart (sql ++ rest)

/-- Words that open with a blank, a comma or a parenthesis. -/
def opensApart (w : String) : Bool := w.toList.head?.any [' ', ',', ')'].contains

/-- Such words may come after anything. -/
lemma follows_of_opensApart {w : String} (hw : opensApart w = true) (b : Border) :
    (Piece.fixed w).follows b = true := by
  have hall : [' ', ',', ')'].all b.allows = true := by cases b <;> decide +kernel
  have hhead : w.toList.head?.all b.allows = true := by
    unfold opensApart at hw
    cases hchars : w.toList.head? with
    | none => rfl
    | some c =>
      rw [hchars] at hw
      exact List.all_eq_true.mp hall c (List.contains_iff_mem.mp hw)
  cases b <;> first | rfl | exact hhead

variable {x y : Sql} {w : String}

/-- No text at all. -/
lemma isApart_nil : IsApart [] := fun _ => rfl

lemma isTail_nil : IsTail [] := fun _ h => h

/-- A single piece. -/
lemma isPhrase_piece (p : Piece) : IsPhrase [p] := by
  intro rest h
  cases p <;> exact h _

/-- Words behind something. -/
lemma isTail_word (hw : opensApart w = true) : IsTail (word w) := by
  intro rest h b
  exact Bool.and_eq_true_iff.mpr ⟨follows_of_opensApart hw b, h _⟩

lemma isLead_word (hw : (Piece.fixed w).border = .free) : IsLead (word w) := by
  intro rest h
  refine Bool.and_eq_true_iff.mpr ⟨rfl, ?_⟩
  rw [hw]
  exact h

namespace IsLead

lemma append (hx : IsLead x) (hy : IsLead y) : IsLead (x ++ y) := by
  intro rest h
  rw [List.append_assoc]
  exact hx _ (hy rest h)

lemma phrase (hx : IsLead x) (hy : IsPhrase y) : IsPhrase (x ++ y) := by
  intro rest h
  rw [List.append_assoc]
  exact hx _ (hy rest h)

end IsLead

namespace IsPhrase

lemma append (hx : IsPhrase x) (hy : IsTail y) : IsPhrase (x ++ y) := by
  intro rest h
  rw [List.append_assoc]
  exact hx _ (hy rest h)

/-- Words behind a text, before whatever may come after a blank. -/
lemma lead (hx : IsPhrase x) (hopens : opensApart w = true) (hw : (Piece.fixed w).border = .free) :
    IsLead (x ++ word w) := by
  intro rest h
  rw [List.append_assoc]
  refine hx _ fun b => Bool.and_eq_true_iff.mpr ⟨follows_of_opensApart hopens b, ?_⟩
  rw [hw]
  exact h

/-- Two texts with words between them. -/
lemma joined (hx : IsPhrase x) (hopens : opensApart w = true) (hw : (Piece.fixed w).border = .free)
    (hy : IsPhrase y) : IsPhrase (x ++ word w ++ y) :=
  (hx.lead hopens hw).phrase hy

end IsPhrase

lemma IsTail.append (hx : IsTail x) (hy : IsTail y) : IsTail (x ++ y) := by
  intro rest h
  rw [List.append_assoc]
  exact hx _ (hy rest h)

/-- Words before a text. -/
lemma isTail_word_append (hopens : opensApart w = true) (hw : (Piece.fixed w).border = .free)
    (hx : IsPhrase x) : IsTail (word w ++ x) := by
  intro rest h b
  refine Bool.and_eq_true_iff.mpr ⟨follows_of_opensApart hopens b, ?_⟩
  rw [hw]
  exact hx rest h

/-- Texts with words between them. -/
lemma isPhrase_sepBy (hopens : opensApart w = true) (hw : (Piece.fixed w).border = .free) :
    ∀ {parts : List Sql}, (∀ p ∈ parts, IsPhrase p) → IsPhrase (sepBy w parts)
  | [], _ => fun _ h => h .free
  | [p], h => by
    rw [sepBy_singleton]
    exact h p List.mem_cons_self
  | p :: q :: ps, h => by
    have ih := isPhrase_sepBy hopens hw fun r hr => h r (List.mem_cons_of_mem p hr)
    rw [sepBy_cons_cons]
    exact (h p List.mem_cons_self).joined hopens hw ih

/-- A clause behind something. -/
lemma isTail_clause (hopens : opensApart w = true) (hw : (Piece.fixed w).border = .free)
    (hx : IsPhrase x) : IsTail (clause w x) := by
  unfold clause
  split_ifs
  · exact isTail_nil
  · exact isTail_word_append hopens hw hx

/-! ## The builders -/

/-- A column. -/
lemma isPhrase_column (c : Ident) : IsPhrase (column c) := isPhrase_piece _

/-- Columns. -/
lemma isPhrase_columns (cs : List Ident) : IsPhrase (columns cs) := by
  refine isPhrase_sepBy rfl rfl fun p hp => ?_
  obtain ⟨c, -, rfl⟩ := List.mem_map.mp hp
  exact isPhrase_column c

/-- Places. -/
lemma isPhrase_slots (n : Nat) : IsPhrase (slots n) := by
  refine isPhrase_sepBy rfl rfl fun p hp => ?_
  rw [List.eq_of_mem_replicate hp]
  exact isPhrase_piece .slot

/-- A table. The points in it stand between quoted names. -/
lemma isPhrase_tableRef (table : String) : IsPhrase (tableRef table) := by
  intro rest h
  have hall : ∀ (names : List String) (n : String) (b : Border), b = .free ∨ b = .point →
      spaced b (sepBy "." ((n :: names).map fun part => [.quoted part]) ++ rest) = true := by
    intro names
    induction names with
    | nil =>
      intro n b hb
      rcases hb with rfl | rfl <;> exact h .name
    | cons next names ih =>
      intro n b hb
      have hnext := ih next .point (.inr rfl)
      rw [List.map_cons] at hnext
      rw [List.map_cons, List.map_cons, sepBy_cons_cons, List.append_assoc, List.append_assoc]
      rcases hb with rfl | rfl <;> exact hnext
  unfold tableRef
  cases hfields : Text.fields '.' table with
  | nil => exact h .free
  | cons n names => exact hall names n .free (.inl rfl)

/-- A condition on a target. -/
lemma isPhrase_condition {target : Sql} (ht : IsPhrase target) (c : Condition) :
    IsPhrase (c.sql target) := by
  cases c with
  | scalar _ => exact ht.joined rfl rfl (isPhrase_piece .slot)
  | isNull => exact ht.append (isTail_word rfl)
  | inSet values =>
    exact (ht.joined rfl rfl (isPhrase_slots values.length)).append (isTail_word rfl)
  | between _ _ =>
    exact (ht.joined rfl rfl (isPhrase_piece .slot)).joined rfl rfl (isPhrase_piece .slot)
  | compare op _ => cases op <;> exact ht.joined rfl rfl (isPhrase_piece .slot)
  | contains _ =>
    have hcast : IsLead (word "CAST(") := isLead_word rfl
    exact (hcast.phrase ht).joined rfl rfl (isPhrase_piece .slot)

/-- Conditions. -/
lemma isPhrase_conditions {target : Ident → Sql} (ht : ∀ c, IsPhrase (target c))
    (filters : List ColumnFilter) : IsPhrase (conditions target filters).sql := by
  refine isPhrase_sepBy rfl rfl fun p hp => ?_
  obtain ⟨f, -, hp⟩ := List.mem_flatMap.mp hp
  obtain ⟨c, -, rfl⟩ := List.mem_map.mp hp
  exact isPhrase_condition (ht f.column) c

/-- The sort order. -/
lemma isPhrase_sortKeys (keys : List SortKey) : IsPhrase (sortKeys keys) := by
  refine isPhrase_sepBy rfl rfl fun p hp => ?_
  obtain ⟨k, -, rfl⟩ := List.mem_map.mp hp
  refine (isPhrase_column k.column).append (isTail_word ?_)
  cases k.descending <;> rfl

end Sql

open Sql

/-- The value of an aggregate. -/
lemma Aggregate.isPhrase_expression (a : Aggregate) : IsPhrase a.expression := by
  have hopening : (Piece.fixed a.func.opening).border = .free := by cases a.func <;> rfl
  exact ((isLead_word hopening).phrase (isPhrase_column a.source)).append (isTail_word rfl)

/-- An aggregate as it is shown. -/
lemma Aggregate.isPhrase_projection (a : Aggregate) : IsPhrase a.projection :=
  a.isPhrase_expression.joined rfl rfl (isPhrase_column a.label)

/-- What a name of a plan stands for. -/
lemma Plan.isPhrase_expression (p : Plan) (c : Ident) : IsPhrase (p.expression c) := by
  unfold expression
  split
  · exact Aggregate.isPhrase_expression _
  · exact isPhrase_column c

/-- The items that a plan shows. -/
lemma Plan.isPhrase_projection (p : Plan) : IsPhrase (sepBy ", " p.projection) := by
  refine isPhrase_sepBy rfl rfl fun q hq => ?_
  rcases List.mem_append.mp hq with hq | hq
  · obtain ⟨c, -, rfl⟩ := List.mem_map.mp hq
    exact isPhrase_column c
  · obtain ⟨a, -, rfl⟩ := List.mem_map.mp hq
    exact a.isPhrase_projection

namespace Query

/-- What a query shows. -/
lemma isPhrase_projection {q : Query} {s : Shown} (h : q.shown = .ok s) :
    IsPhrase s.projection := by
  rcases shown_eq_ok h with ⟨-, -, rfl⟩ | ⟨-, p, -, rfl⟩
  · dsimp only
    split_ifs
    · exact isPhrase_piece _
    · exact isPhrase_columns _
  · exact p.isPhrase_projection

/-- The conditions on groups of a query. -/
lemma isPhrase_having {q : Query} {s : Shown} (h : q.shown = .ok s) : IsPhrase s.having.sql := by
  rcases shown_eq_ok h with ⟨-, -, rfl⟩ | ⟨-, p, -, rfl⟩
  · exact fun _ hrest => hrest .free
  · exact isPhrase_conditions p.isPhrase_expression _

/-- The end of a query. -/
lemma isTail_bounds (q : Query) : IsTail q.bounds := by
  refine (isTail_word_append rfl rfl (isPhrase_piece (.number q.limit))).append ?_
  split_ifs
  · exact isTail_nil
  · exact isTail_word_append rfl rfl (isPhrase_piece (.number q.offset))

/-- No piece in the text of a query runs into the next one. -/
theorem spaced_fragment (table : Ident) {q : Query} {s : Shown} (h : q.shown = .ok s) :
    spaced .free (q.fragment table s).sql = true := by
  have hrows := isPhrase_conditions isPhrase_column q.filters
  have hselect : IsLead (word "SELECT ") := isLead_word rfl
  have hopening : IsPhrase (word "SELECT " ++ s.projection ++ word " FROM " ++
      tableRef table.text) :=
    (hselect.phrase (isPhrase_projection h)).joined rfl rfl (isPhrase_tableRef table.text)
  have hphrase : IsPhrase (q.fragment table s).sql := by
    rw [fragment_sql]
    exact ((((hopening.append (isTail_clause rfl rfl hrows)).append
      (isTail_clause rfl rfl (isPhrase_columns q.groupBy))).append
      (isTail_clause rfl rfl (isPhrase_having h))).append
      (isTail_clause rfl rfl (isPhrase_sortKeys s.orderBy))).append q.isTail_bounds
  simpa using hphrase [] isApart_nil

end Query

/-- No piece in the text of a comparison runs into the next one. -/
theorem Comparison.spaced_fragment (table : Ident) (c : Comparison) :
    spaced .free (c.fragment table).sql = true := by
  have hopening : IsLead (c.opening table) := by
    have hitems : IsLead (word "WITH yearly AS (SELECT " ++ column c.keyColumn ++
        word " AS entity_key, " ++ column c.yearColumn ++ word " AS period, SUM(" ++
        column c.valueColumn ++ word ") AS amount FROM ") := fun _ h => h
    exact (hitems.phrase (isPhrase_tableRef table.text)).lead rfl rfl
  have hrows : IsLead (if (conditions column c.filters).sql.isEmpty then []
      else (conditions column c.filters).sql ++ word " AND ") := by
    split_ifs
    · exact fun _ h => h
    · exact (isPhrase_conditions isPhrase_column c.filters).lead rfl rfl
  have hyears : IsLead (column c.yearColumn ++ word " IN (") :=
    (isPhrase_column c.yearColumn).lead rfl rfl
  have hrest : spaced .free (slots 2 ++ c.pairing ++ [.slot] ++ word " AND c.period = " ++
      [.slot] ++ c.ranking) = true := by
    unfold ranking
    cases c.direction <;> rfl
  have hall := ((hopening.append hrows).append hyears) _ hrest
  rw [fragment_sql]
  simpa only [List.append_assoc] using hall

/-- No piece in the text for the different values of a column runs into the next one. -/
theorem spaced_distinctText (table c : Ident) : spaced .free (distinctText table c) = true := by
  have hdistinct : IsLead (word "SELECT DISTINCT ") := isLead_word rfl
  have hphrase : IsPhrase (distinctText table c) :=
    (((hdistinct.phrase (isPhrase_column c)).joined rfl rfl (isPhrase_tableRef table.text)).joined
      rfl rfl (isPhrase_column c)).joined rfl rfl (isPhrase_column c)
  simpa using hphrase [] isApart_nil

end QueryGate
