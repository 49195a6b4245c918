import QueryGate.Proofs.Sql.Reading.Depth

set_option relaxedAutoImplicit false
set_option autoImplicit false

/-!
# Reading without texts

Some ways of a grammar open only where a text between quotes comes next. A text put together here
has none, since its literals stand in places. Without such ways a grammar looks at the name of a
column or of a table only to see that it is a name, and reads such a text all the same.

## Main definitions

* `QueryGate.Sql.IsTextless` — tokens among which there are no texts.
* `QueryGate.Sql.Grammar.textless` — a grammar without the ways that open at a text.

## Main results

* `QueryGate.Sql.Grammar.rest?_textless` — both grammars read tokens without texts alike.
-/

namespace QueryGate.Sql

variable {Part : Type}

/-- Whether a token is a text between quotes. -/
def Token.isText : Token → Bool
  | .text _ | .written _ => true
  | _ => false

/-- There are no texts among some tokens. -/
def IsTextless (ts : List Token) : Prop := ∀ t ∈ ts, t.isText = false

namespace Kind

/-- Whether a kind asks for a text between quotes. -/
def asksText : Kind → Bool
  | text | written _ => true
  | _ => false

/-- No other token is of such a kind. -/
lemma isText_of_accepts {k : Kind} {t : Token} (hk : k.asksText = true)
    (h : k.accepts t = true) : t.isText = true := by
  cases k <;> first | exact absurd hk Bool.false_ne_true | skip
  all_goals cases t <;> first | rfl | exact absurd h Bool.false_ne_true

/-- Kinds that ask for a text do not come next where there is none. -/
lemma after?_eq_none_of_asksText {ks : List Kind} {ts : List Token} (h : IsTextless ts)
    (hks : ks.any asksText = true) : after? ks ts = none := by
  induction ks generalizing ts with
  | nil => exact absurd hks Bool.false_ne_true
  | cons k ks ih =>
    cases ts with
    | nil => rfl
    | cons t ts =>
      obtain ⟨ht, hts⟩ := List.forall_mem_cons.mp h
      unfold after?
      split_ifs with haccepts
      · rw [List.any_cons, Bool.or_eq_true] at hks
        rcases hks with hk | hks
        · have htext := isText_of_accepts hk haccepts
          exact absurd (ht.symm.trans htext) Bool.false_ne_true
        · exact ih hts hks
      · rfl

end Kind

/-- A rule without the ways that open at a text. -/
def Rule.textless : Rule Part → Rule Part
  | .done => .done
  | .one k => .one k
  | .seq first second => .seq first.textless second.textless
  | .list item => .list item.textless
  | .on ahead yes no =>
    if ahead.any Kind.asksText then .seq .done no.textless else .on ahead yes.textless no.textless
  | .look ahead yes no => .look ahead yes.textless no.textless
  | .attempt first yes no => .attempt first.textless yes.textless no.textless
  | .part p => .part p

namespace Grammar

/-- A grammar without the ways that open at a text. -/
def textless (g : Grammar Part) : Grammar Part where
  rule p := (g.rule p).textless
  nests := g.nests

/-- **Tokens without texts are read alike**, with the ways that open at a text and without them.

**Proof sketch.** Induction on the depth, by cases on the rule. A way that opens at a text is not
taken, as what is left of tokens without texts has no texts either; everything else is kept. -/
theorem rest?_textless (g : Grammar Part) : ∀ (fuel depth : Nat) (r : Rule Part) {ts : List Token},
    IsTextless ts → g.textless.rest? fuel depth r.textless ts = g.rest? fuel depth r ts := by
  intro fuel
  induction fuel with
  | zero => exact fun _ _ _ _ => rfl
  | succ fuel ih =>
    intro depth r ts hts
    have hleft : ∀ {d : Nat} {r : Rule Part} {rest : List Token},
        g.rest? fuel d r ts = some rest → IsTextless rest :=
      fun h t ht => hts t ((suffix_of_rest? h).subset ht)
    cases r with
    | done => rfl
    | one k => rfl
    | seq first second =>
      rw [Rule.textless, rest?_seq, rest?_seq, ih depth first hts]
      cases hmid : g.rest? fuel depth first ts with
      | none => rfl
      | some mid => exact ih depth second (hleft hmid)
    | list item =>
      rw [Rule.textless, rest?_list, rest?_list, ih depth item hts]
      cases hmid : g.rest? fuel depth item ts with
      | none => rfl
      | some mid =>
        simp only [Option.bind_some]
        cases hcomma : Kind.after? [.sign ","] mid with
        | none => rfl
        | some more =>
          have hmore := (Kind.shrinks_of_after? hcomma).1.subset
          exact ih depth (.list item) fun t ht => hleft hmid t (hmore ht)
    | on ahead yes no =>
      rw [rest?_on, Rule.textless]
      split_ifs with hasks
      · rw [Kind.after?_eq_none_of_asksText hts hasks, rest?_seq]
        cases fuel with
        | zero => rfl
        | succ fuel => exact ih depth no hts
      · rw [rest?_on]
        cases hahead : Kind.after? ahead ts with
        | none => exact ih depth no hts
        | some mid =>
          have hmid := (Kind.shrinks_of_after? hahead).1.subset
          exact ih depth yes fun t ht => hts t (hmid ht)
    | look ahead yes no =>
      rw [Rule.textless, rest?_look, rest?_look, ih depth yes hts, ih depth no hts]
    | attempt first yes no =>
      rw [Rule.textless, rest?_attempt, rest?_attempt, ih depth first hts]
      cases hmid : g.rest? fuel depth first ts with
      | none => exact ih depth no hts
      | some mid => exact ih depth yes (hleft hmid)
    | part p =>
      have hrule : ∀ depth, g.textless.rest? fuel depth (g.textless.rule p) ts =
          g.rest? fuel depth (g.rule p) ts :=
        fun depth => ih depth (g.rule p) hts
      have hsame : g.textless.nests p = g.nests p := rfl
      rw [Rule.textless]
      cases hnests : g.nests p with
      | false =>
        rw [hnests] at hsame
        rw [rest?_part_of_not_nests _ _ _ hsame, rest?_part_of_not_nests _ _ _ hnests, hrule]
      | true =>
        rw [hnests] at hsame
        cases depth with
        | zero => rw [rest?_part_zero _ _ hsame, rest?_part_zero _ _ hnests]
        | succ depth =>
          rw [rest?_part_of_nests _ _ _ hsame, rest?_part_of_nests _ _ _ hnests, hrule]

end Grammar

end QueryGate.Sql
