import QueryGate.Proofs.Sql.Reading.Bounds
import QueryGate.Proofs.Sql.Reading.Textless

set_option relaxedAutoImplicit false
set_option autoImplicit false

/-!
# Readings of the query language

What the rules of the language leave of some tokens, given enough levels, and how the readings of
larger rules are put together from those of smaller ones. A reading whose tokens are known as far
as the rules look ahead is run.

## Main definitions

* `QueryGate.Sql.Language.Reads` — what a rule leaves of some tokens.
* `QueryGate.Sql.Language.pick` — the way of a choice whose tokens come next.
* `QueryGate.Sql.Begins` — tokens of which the first, if any, is one of some.

## Main results

* `QueryGate.Sql.Language.Reads.list` — a list is read item by item.
* `QueryGate.Sql.Language.Reads.afterStatement?_eq` — what is read as a statement is one.
-/

namespace QueryGate.Sql

/-! ## The next token -/

/-- The first of some tokens, if there is any, is one of `set`. -/
def Begins (set ts : List Token) : Prop := ∀ t ∈ ts.head?, t ∈ set

namespace Begins

variable {set ts : List Token}

/-- No token at all. -/
lemma nil : Begins set [] := nofun

/-- A first token. -/
lemma cons {t : Token} (h : t ∈ set) : Begins set (t :: ts) := by
  intro t' ht'
  obtain rfl := Option.some.inj ht'
  exact h

/-- A larger set. -/
lemma mono (h : Begins set ts) {set' : List Token} (hsub : set ⊆ set') : Begins set' ts :=
  fun t ht => hsub (h t ht)

/-- Kinds that no token of a set is of do not come next. -/
lemma after?_eq_none (h : Begins set ts) {k : Kind} (hk : set.all (fun t => !k.accepts t) = true)
    (ks : List Kind) : Kind.after? (k :: ks) ts = none := by
  cases ts with
  | nil => rfl
  | cons t ts =>
    have ht := List.all_eq_true.mp hk t (h t rfl)
    rw [Bool.not_eq_true'] at ht
    rw [Kind.after?, if_neg (Bool.eq_false_iff.mp ht)]

end Begins

namespace Language

/-! ## Readings -/

/-- What a rule leaves of some tokens without texts, whatever the number of levels from some on. -/
def Reads (depth : Nat) (r : Rule Part) (ts : List Token) (out : Option (List Token)) : Prop :=
  ∃ n, ∀ fuel, n ≤ fuel → grammar.textless.rest? fuel depth r.textless ts = out

/-- A reading that comes to the same with every number of levels above some is one. -/
lemma reads_of_run {depth : Nat} {r : Rule Part} {ts : List Token} {out : Option (List Token)}
    (n : Nat) (h : ∀ fuel, grammar.textless.rest? (fuel + n) depth r.textless ts = out) :
    Reads depth r ts out := by
  refine ⟨n, fun fuel hfuel => ?_⟩
  obtain ⟨more, rfl⟩ := Nat.exists_eq_add_of_le' hfuel
  exact h more

namespace Reads

variable {depth : Nat} {ts mid : List Token} {out : Option (List Token)} {r r' yes no : Rule Part}
  {ahead : List Kind}

/-- A reading that comes to the same with one level more than any number from some on. -/
lemma of_succ (n : Nat)
    (h : ∀ fuel, n ≤ fuel → grammar.textless.rest? (fuel + 1) depth r.textless ts = out) :
    Reads depth r ts out := by
  refine ⟨n + 1, fun fuel hfuel => ?_⟩
  obtain ⟨fuel, rfl⟩ := Nat.exists_eq_succ_of_ne_zero (Nat.ne_zero_of_lt hfuel)
  exact h fuel (Nat.le_of_succ_le_succ hfuel)

/-- A rule that is read as another one on one level less. -/
lemma step {depth' : Nat} {ts' : List Token} (h : Reads depth' r' ts' out)
    (hstep : ∀ fuel, grammar.textless.rest? (fuel + 1) depth r.textless ts =
      grammar.textless.rest? fuel depth' r'.textless ts') : Reads depth r ts out := by
  obtain ⟨n, hn⟩ := h
  exact of_succ n fun fuel hfuel => (hstep fuel).trans (hn fuel hfuel)

/-- Two readings come to the same together, whatever the number of levels from some on. -/
lemma both {depth' : Nat} {ts' : List Token} {out' : Option (List Token)}
    (h : Reads depth r ts out) (h' : Reads depth' r' ts' out') :
    ∃ n, ∀ fuel, n ≤ fuel → grammar.textless.rest? fuel depth r.textless ts = out ∧
      grammar.textless.rest? fuel depth' r'.textless ts' = out' := by
  obtain ⟨n, hn⟩ := h
  obtain ⟨n', hn'⟩ := h'
  exact ⟨max n n', fun fuel hfuel => ⟨hn fuel (by omega), hn' fuel (by omega)⟩⟩

/-- Nothing leaves everything. -/
lemma done : Reads depth .done ts (some ts) := reads_of_run 1 fun _ => rfl

/-- One token. -/
lemma one {k : Kind} (h : Kind.after? [k] ts = out) : Reads depth (.one k) ts out :=
  reads_of_run 1 fun _ => h

/-- One thing after another. -/
lemma seq (h : Reads depth r ts (some mid)) (h' : Reads depth r' mid out) :
    Reads depth (r ++ r') ts out := by
  obtain ⟨n, hn⟩ := both h h'
  refine of_succ n fun fuel hfuel => ?_
  show (grammar.textless.rest? fuel depth r.textless ts).bind _ = _
  rw [(hn fuel hfuel).1]
  exact (hn fuel hfuel).2

/-- Where the first of two things fails, both do. -/
lemma seq_none (h : Reads depth r ts none) : Reads depth (r ++ r') ts none := by
  obtain ⟨n, hn⟩ := h
  refine of_succ n fun fuel hfuel => ?_
  show (grammar.textless.rest? fuel depth r.textless ts).bind _ = _
  rw [hn fuel hfuel]
  rfl

/-- Tokens that come next are taken. -/
lemma on_yes (hplain : ahead.any Kind.asksText = false) (hahead : Kind.after? ahead ts = some mid)
    (h : Reads depth yes mid out) : Reads depth (.on ahead yes no) ts out := by
  refine h.step fun fuel => ?_
  rw [Rule.textless, if_neg (Bool.eq_false_iff.mp hplain), Grammar.rest?_on, hahead]

/-- A way that opens at a text is not taken. -/
lemma on_text (hasks : ahead.any Kind.asksText = true) (h : Reads depth no ts out) :
    Reads depth (.on ahead yes no) ts out := by
  obtain ⟨n, hn⟩ : Reads depth (.done ++ no) ts out := seq done h
  refine ⟨n, fun fuel hfuel => ?_⟩
  rw [Rule.textless, if_pos hasks]
  exact hn fuel hfuel

/-- Tokens that do not come next are not taken. -/
lemma on_no (hahead : Kind.after? ahead ts = none) (h : Reads depth no ts out) :
    Reads depth (.on ahead yes no) ts out := by
  by_cases hasks : ahead.any Kind.asksText = true
  · exact on_text hasks h
  · refine h.step fun fuel => ?_
    rw [Rule.textless, if_neg hasks, Grammar.rest?_on, hahead]

/-- Something that comes only after tokens that do not come next. -/
lemma maybe_no (hahead : Kind.after? ahead ts = none) :
    Reads depth (.maybe ahead yes) ts (some ts) :=
  on_no hahead done

/-- Something that comes only after a token that cannot come next. -/
lemma absent {set : List Token} {k : Kind} {ks : List Kind} (h : Begins set ts)
    (hk : set.all (fun t => !k.accepts t) = true) :
    Reads depth (.maybe (k :: ks) yes) ts (some ts) :=
  maybe_no (h.after?_eq_none hk ks)

/-- Where tokens come next, the first way. -/
lemma look_yes (hahead : (Kind.after? ahead ts).isSome = true) (h : Reads depth yes ts out) :
    Reads depth (.look ahead yes no) ts out := by
  refine h.step fun fuel => ?_
  rw [Rule.textless, Grammar.rest?_look, if_pos hahead]

/-- Where tokens do not come next, the second way. -/
lemma look_no (hahead : Kind.after? ahead ts = none) (h : Reads depth no ts out) :
    Reads depth (.look ahead yes no) ts out := by
  refine h.step fun fuel => ?_
  rw [Rule.textless, Grammar.rest?_look, hahead]
  rfl

/-- An attempt that fails. -/
lemma attempt_no (h : Reads depth r ts none) (hno : Reads depth no ts out) :
    Reads depth (.attempt r yes no) ts out := by
  obtain ⟨n, hn⟩ := both h hno
  refine of_succ n fun fuel hfuel => ?_
  rw [Rule.textless, Grammar.rest?_attempt, (hn fuel hfuel).1]
  exact (hn fuel hfuel).2

/-- A part that does not count for the nesting. -/
lemma part {p : Part} (hnests : p.nests = false) (h : Reads depth (rule p) ts out) :
    Reads depth (.part p) ts out :=
  h.step fun fuel => Grammar.rest?_part_of_not_nests fuel depth ts hnests

/-- A part that counts for the nesting. -/
lemma nest {p : Part} (hnests : p.nests = true) (h : Reads depth (rule p) ts out) :
    Reads (depth + 1) (.part p) ts out :=
  h.step fun fuel => Grammar.rest?_part_of_nests fuel depth ts hnests

/-- The operand that an expression is. -/
lemma expression (h : Reads depth (.part (.operand 0)) ts out) :
    Reads (depth + 1) Language.expression ts out :=
  nest rfl h

/-- A list of one item. -/
lemma list_one {item : Rule Part} {rest : List Token} (h : Reads depth item ts (some rest))
    (hrest : Kind.after? [.sign ","] rest = none) : Reads depth (.list item) ts (some rest) := by
  obtain ⟨n, hn⟩ := h
  refine of_succ n fun fuel hfuel => ?_
  rw [Rule.textless, Grammar.rest?_list, hn fuel hfuel, Option.bind_some, hrest]

/-- **A list is read item by item.** Each item has to end at a comma, and the last one at what
comes after the list.

**Proof sketch.** Induction on the items after the first. -/
theorem list {item : Rule Part} {rest : List Token} (hrest : Kind.after? [.sign ","] rest = none) :
    ∀ {p : List Token} {ps : List (List Token)},
      (∀ q ∈ p :: ps, ∀ ts, ts = rest ∨ (∃ more, ts = .sign "," :: more) →
        Reads depth item (q ++ ts) (some ts)) →
      Reads depth (.list item) (p ++ (ps.flatMap fun q => .sign "," :: q) ++ rest) (some rest)
  | p, [], h => by
    rw [List.flatMap_nil, List.append_nil]
    exact list_one (h p List.mem_cons_self rest (.inl rfl)) hrest
  | p, q :: ps, h => by
    have ih : Reads depth (.list item) (q ++ (ps.flatMap fun q => .sign "," :: q) ++ rest)
        (some rest) :=
      list hrest fun r hr => h r (List.mem_cons_of_mem p hr)
    have hfirst := h p List.mem_cons_self
      (.sign "," :: (q ++ (ps.flatMap fun q => .sign "," :: q) ++ rest)) (.inr ⟨_, rfl⟩)
    obtain ⟨n, hn⟩ := both hfirst ih
    refine of_succ n fun fuel hfuel => ?_
    have htokens : p ++ ((q :: ps).flatMap fun q => .sign "," :: q) ++ rest =
        p ++ .sign "," :: (q ++ (ps.flatMap fun q => .sign "," :: q) ++ rest) := by
      simp [List.flatMap_cons]
    rw [htokens, Rule.textless, Grammar.rest?_list, (hn fuel hfuel).1]
    exact (hn fuel hfuel).2

end Reads

/-! ## Choices -/

/-- The way of a choice whose tokens come next, and what follows these tokens. Ways that open at a
text do not count. -/
def pick : List (List Kind × Rule Part) → List Token → Option (Rule Part × List Token)
  | [], _ => none
  | (ahead, yes) :: ways, ts =>
    if ahead.any Kind.asksText then pick ways ts
    else
      match Kind.after? ahead ts with
      | some rest => some (yes, rest)
      | none => pick ways ts

/-- Nothing is picked where no way opens with the next token. -/
lemma pick_eq_none {set ts : List Token} (h : Begins set ts) :
    ∀ {ways : List (List Kind × Rule Part)},
      ways.all (fun way => way.1.head?.any fun k => set.all fun t => !k.accepts t) = true →
      pick ways ts = none
  | [], _ => rfl
  | (ahead, yes) :: ways, hways => by
    obtain ⟨hway, hways⟩ := Bool.and_eq_true_iff.mp hways
    have ih := pick_eq_none h hways
    rw [pick]
    split_ifs with hasks
    · exact ih
    · cases ahead with
      | nil => exact absurd hway Bool.false_ne_true
      | cons k ks =>
        rw [h.after?_eq_none hway ks]
        exact ih

namespace Reads

variable {depth : Nat} {ts mid : List Token} {out : Option (List Token)} {r otherwise : Rule Part}

/-- The way that is picked is read. -/
lemma first_some : ∀ {ways : List (List Kind × Rule Part)}, pick ways ts = some (r, mid) →
    Reads depth r mid out → Reads depth (.first ways otherwise) ts out
  | [], hpick, _ => absurd hpick nofun
  | (ahead, yes) :: ways, hpick, h => by
    rw [pick] at hpick
    split_ifs at hpick with hasks
    · exact on_text hasks (first_some hpick h)
    · split at hpick
      · next hahead =>
        obtain ⟨rfl, rfl⟩ := Prod.mk.inj (Option.some.inj hpick)
        exact on_yes (Bool.eq_false_iff.mpr hasks) hahead h
      · next hahead => exact on_no hahead (first_some hpick h)

/-- Where nothing is picked, what is left for that is read. -/
lemma first_none (h : Reads depth otherwise ts out) : ∀ {ways : List (List Kind × Rule Part)},
    pick ways ts = none → Reads depth (.first ways otherwise) ts out
  | [], _ => h
  | (ahead, yes) :: ways, hpick => by
    rw [pick] at hpick
    split_ifs at hpick with hasks
    · exact on_text hasks (first_none h hpick)
    · split at hpick
      · exact absurd hpick nofun
      · next hahead => exact on_no hahead (first_none h hpick)

/-- **What is read as a statement is one.** The bound on the levels does not cut the reading short,
and there are no texts for the ways that were left out.

**Proof sketch.** The reading holds for all numbers of levels from some on, and with more levels
than `maxRules` nothing changes, by `QueryGate.Sql.afterStatement?_eq`. -/
theorem afterStatement?_eq (h : Reads maxNesting (.part .statement) ts out) (hts : IsTextless ts) :
    Sql.afterStatement? ts = out := by
  obtain ⟨n, hn⟩ := h
  rw [Sql.afterStatement?_eq (Nat.le_max_right n (maxRules ts)),
    ← grammar.rest?_textless _ _ _ hts]
  exact hn _ (Nat.le_max_left n (maxRules ts))

end Reads

end Language

end QueryGate.Sql
