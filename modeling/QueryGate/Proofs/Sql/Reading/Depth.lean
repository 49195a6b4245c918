import Mathlib.Data.List.Basic
import QueryGate.Sql.Script

set_option relaxedAutoImplicit false
set_option autoImplicit false

/-!
# How deep the rules of a grammar stand in each other

`QueryGate.Sql.Grammar.rest?` stops where rules stand deeper in each other than it is told. A
grammar that reads a token before it comes back to the same part needs only so much depth for each
token. With that much, more depth changes nothing.

## Main definitions

* `QueryGate.Sql.Shrinks` — what is left after a reading is shorter, or not longer.
* `QueryGate.Sql.Rule.takes` — whether a rule surely takes a token.
* `QueryGate.Sql.Rule.fits` — whether the rules inside a rule have room before a token is taken.
* `QueryGate.Sql.Grammar.Bounds` — for each part of a grammar the room that it needs.

## Main results

* `QueryGate.Sql.Grammar.shrinks_of_rest?` — a rule that takes a token leaves fewer tokens.
* `QueryGate.Sql.Grammar.Bounds.rest?_eq` — with room enough, all readings are the same.
-/

namespace QueryGate.Sql

variable {Part : Type}

/-! ## Tokens that are taken -/

/-- What is left is an end of what there was, and a shorter one where `strict` says so. -/
def Shrinks (strict : Bool) (ts rest : List Token) : Prop :=
  rest <:+ ts ∧ (strict = true → rest.length < ts.length)

namespace Shrinks

variable {strict strict' : Bool} {ts mid rest : List Token}

/-- Nothing was taken. -/
lemma refl (ts : List Token) : Shrinks false ts ts := ⟨List.suffix_rfl, nofun⟩

/-- One reading after another. -/
lemma trans (h : Shrinks strict ts mid) (h' : Shrinks strict' mid rest) :
    Shrinks (strict || strict') ts rest := by
  refine ⟨h'.1.trans h.1, fun hor => ?_⟩
  have hle := h.1.length_le
  have hle' := h'.1.length_le
  rcases Bool.or_eq_true_iff.mp hor with hs | hs
  · exact Nat.lt_of_le_of_lt hle' (h.2 hs)
  · exact Nat.lt_of_lt_of_le (h'.2 hs) hle

/-- Less can be said. -/
lemma weaken (h : Shrinks strict ts rest) (himp : strict' = true → strict = true) :
    Shrinks strict' ts rest :=
  ⟨h.1, fun hs => h.2 (himp hs)⟩

/-- A token that was taken makes room for `gain` rules. -/
lemma gain_le (h : Shrinks strict ts rest) (gain : Nat) :
    (if strict then gain else 0) + gain * rest.length ≤ gain * ts.length := by
  cases strict with
  | false =>
    have hle := Nat.mul_le_mul_left gain h.1.length_le
    simpa using hle
  | true =>
    have hlt := Nat.mul_le_mul_left gain (h.2 rfl)
    rw [Nat.mul_succ] at hlt
    rw [if_pos rfl]
    omega

end Shrinks

/-- Some kinds take a token each. -/
lemma Kind.shrinks_of_after? : ∀ {ks : List Kind} {ts rest : List Token},
    after? ks ts = some rest → Shrinks (!ks.isEmpty) ts rest
  | [], ts, rest, h => by
    obtain rfl := Option.some.inj h
    exact Shrinks.refl ts
  | k :: ks, [], rest, h => absurd h nofun
  | k :: ks, t :: ts, rest, h => by
    unfold after? at h
    split_ifs at h
    have ih := shrinks_of_after? h
    exact ⟨ih.1.trans (List.suffix_cons t ts), fun _ => Nat.lt_succ_of_le ih.1.length_le⟩

namespace Rule

/-- Whether a rule surely takes a token, where some parts do. -/
def takes (parts : Part → Bool) : Rule Part → Bool
  | done => false
  | one _ => true
  | seq first second => first.takes parts || second.takes parts
  | list item => item.takes parts
  | on ahead yes no => (!ahead.isEmpty || yes.takes parts) && no.takes parts
  | look _ yes no => yes.takes parts && no.takes parts
  | attempt first yes no => (first.takes parts || yes.takes parts) && no.takes parts
  | part p => parts p

end Rule

namespace Grammar

variable {g : Grammar Part}

/-! ## One level of a reading -/

section Levels

variable (fuel depth : Nat) (ts : List Token)

lemma rest?_done : g.rest? (fuel + 1) depth .done ts = some ts := rfl

lemma rest?_one (k : Kind) : g.rest? (fuel + 1) depth (.one k) ts = Kind.after? [k] ts := rfl

lemma rest?_seq (first second : Rule Part) :
    g.rest? (fuel + 1) depth (.seq first second) ts =
      (g.rest? fuel depth first ts).bind (g.rest? fuel depth second) :=
  rfl

lemma rest?_list (item : Rule Part) :
    g.rest? (fuel + 1) depth (.list item) ts =
      (g.rest? fuel depth item ts).bind fun rest =>
        match Kind.after? [.sign ","] rest with
        | some more => g.rest? fuel depth (.list item) more
        | none => some rest :=
  rfl

lemma rest?_on (ahead : List Kind) (yes no : Rule Part) :
    g.rest? (fuel + 1) depth (.on ahead yes no) ts =
      match Kind.after? ahead ts with
      | some rest => g.rest? fuel depth yes rest
      | none => g.rest? fuel depth no ts :=
  rfl

lemma rest?_look (ahead : List Kind) (yes no : Rule Part) :
    g.rest? (fuel + 1) depth (.look ahead yes no) ts =
      if (Kind.after? ahead ts).isSome then g.rest? fuel depth yes ts
      else g.rest? fuel depth no ts :=
  rfl

lemma rest?_attempt (first yes no : Rule Part) :
    g.rest? (fuel + 1) depth (.attempt first yes no) ts =
      match g.rest? fuel depth first ts with
      | some rest => g.rest? fuel depth yes rest
      | none => g.rest? fuel depth no ts :=
  rfl

/-- A part that counts takes one from the depth. -/
lemma rest?_part_of_nests {p : Part} (h : g.nests p = true) :
    g.rest? (fuel + 1) (depth + 1) (.part p) ts = g.rest? fuel depth (g.rule p) ts := by
  show (if g.nests p = true then _ else _) = _
  rw [if_pos h]

/-- Below the deepest level there is no part that counts. -/
lemma rest?_part_zero {p : Part} (h : g.nests p = true) : g.rest? fuel 0 (.part p) ts = none := by
  cases fuel with
  | zero => rfl
  | succ fuel =>
    show (if g.nests p = true then _ else _) = _
    rw [if_pos h]

/-- Other parts are read as their rule says. -/
lemma rest?_part_of_not_nests {p : Part} (h : g.nests p = false) :
    g.rest? (fuel + 1) depth (.part p) ts = g.rest? fuel depth (g.rule p) ts := by
  show (if g.nests p = true then _ else _) = _
  rw [if_neg (Bool.eq_false_iff.mp h)]

end Levels

/-! ## What readings leave -/

/-- **A rule that takes a token leaves fewer tokens.** What a rule leaves is always an end of what
there was.

**Proof sketch.** Induction on the depth, by cases on the rule. A rule made of others takes what
they take, one after another; the rule of a part is one level deeper. -/
theorem shrinks_of_rest? {parts : Part → Bool}
    (hparts : ∀ p, parts p = true → (g.rule p).takes parts = true) :
    ∀ (fuel depth : Nat) (r : Rule Part) {ts rest : List Token},
      g.rest? fuel depth r ts = some rest → Shrinks (r.takes parts) ts rest := by
  intro fuel
  induction fuel with
  | zero => exact fun _ _ _ _ h => absurd h nofun
  | succ fuel ih =>
    intro depth r ts rest h
    cases r with
    | done =>
      rw [rest?_done] at h
      obtain rfl := Option.some.inj h
      exact Shrinks.refl ts
    | one k =>
      rw [rest?_one] at h
      exact Kind.shrinks_of_after? h
    | seq first second =>
      rw [rest?_seq] at h
      obtain ⟨mid, hfirst, hsecond⟩ := Option.bind_eq_some_iff.mp h
      exact (ih depth first hfirst).trans (ih depth second hsecond)
    | list item =>
      rw [rest?_list] at h
      obtain ⟨mid, hitem, hmore⟩ := Option.bind_eq_some_iff.mp h
      have hi := ih depth item hitem
      split at hmore
      · next more hcomma =>
        have hc := hi.trans (Kind.shrinks_of_after? hcomma)
        exact (hc.trans (ih depth (.list item) hmore)).weaken fun _ => by simp
      · obtain rfl := Option.some.inj hmore
        exact hi
    | on ahead yes no =>
      rw [rest?_on] at h
      split at h
      · next mid hahead =>
        have hy := (Kind.shrinks_of_after? hahead).trans (ih depth yes h)
        exact hy.weaken fun htakes => ((Bool.and_eq_true _ _).mp htakes).1
      · exact (ih depth no h).weaken fun htakes => ((Bool.and_eq_true _ _).mp htakes).2
    | look ahead yes no =>
      rw [rest?_look] at h
      split_ifs at h
      · exact (ih depth yes h).weaken fun htakes => ((Bool.and_eq_true _ _).mp htakes).1
      · exact (ih depth no h).weaken fun htakes => ((Bool.and_eq_true _ _).mp htakes).2
    | attempt first yes no =>
      rw [rest?_attempt] at h
      split at h
      · next mid hfirst =>
        have hy := (ih depth first hfirst).trans (ih depth yes h)
        exact hy.weaken fun htakes => ((Bool.and_eq_true _ _).mp htakes).1
      · exact (ih depth no h).weaken fun htakes => ((Bool.and_eq_true _ _).mp htakes).2
    | part p =>
      cases hnests : g.nests p with
      | false =>
        rw [rest?_part_of_not_nests _ _ _ hnests] at h
        exact (ih depth (g.rule p) h).weaken (hparts p)
      | true =>
        cases depth with
        | zero =>
          rw [rest?_part_zero _ _ hnests] at h
          exact absurd h nofun
        | succ depth =>
          rw [rest?_part_of_nests _ _ _ hnests] at h
          exact (ih depth (g.rule p) h).weaken (hparts p)

/-- What a rule leaves is an end of what there was. -/
lemma suffix_of_rest? {fuel depth : Nat} {r : Rule Part} {ts rest : List Token}
    (h : g.rest? fuel depth r ts = some rest) : rest <:+ ts := by
  have hnone : ∀ p, (fun _ : Part => false) p = true → (g.rule p).takes (fun _ => false) = true :=
    nofun
  exact (shrinks_of_rest? hnone fuel depth r h).1

end Grammar

/-! ## Room -/

namespace Rule

/-- Whether the rules inside a rule stand at most `room` deep in each other, where each token that
is taken makes room for `gain` more, and a part needs the room that `reach` says. -/
def fits (parts : Part → Bool) (reach : Part → Nat) (gain : Nat) : Nat → Rule Part → Bool
  | room, done => 0 < room
  | room, one _ => 0 < room
  | room, seq first second =>
    0 < room && first.fits parts reach gain (room - 1) &&
      second.fits parts reach gain (room - 1 + if first.takes parts then gain else 0)
  | room, list item => 0 < room && item.fits parts reach gain (room - 1)
  | room, on ahead yes no =>
    0 < room && yes.fits parts reach gain (room - 1 + if !ahead.isEmpty then gain else 0) &&
      no.fits parts reach gain (room - 1)
  | room, look _ yes no =>
    0 < room && yes.fits parts reach gain (room - 1) && no.fits parts reach gain (room - 1)
  | room, attempt first yes no =>
    0 < room && first.fits parts reach gain (room - 1) &&
      yes.fits parts reach gain (room - 1 + if first.takes parts then gain else 0) &&
      no.fits parts reach gain (room - 1)
  | room, part p => reach p < room

/-- Every rule needs some room. -/
lemma pos_of_fits {parts : Part → Bool} {reach : Part → Nat} {gain room : Nat} {r : Rule Part}
    (h : r.fits parts reach gain room = true) : 0 < room := by
  cases r <;> simp only [fits, Bool.and_eq_true, decide_eq_true_iff] at h <;> omega

/-- More room is room enough. -/
lemma fits_mono {parts : Part → Bool} {reach : Part → Nat} {gain : Nat} {r : Rule Part} :
    ∀ {room more : Nat}, r.fits parts reach gain room = true → room ≤ more →
      r.fits parts reach gain more = true := by
  induction r with
  | done | one _ | part _ =>
    intro room more h hle
    simp only [fits, decide_eq_true_iff] at h ⊢
    omega
  | list item ih =>
    intro room more h hle
    simp only [fits, Bool.and_eq_true, decide_eq_true_iff] at h ⊢
    exact ⟨by omega, ih h.2 (by omega)⟩
  | seq _ _ ih₁ ih₂ | on _ _ _ ih₁ ih₂ | look _ _ _ ih₁ ih₂ =>
    intro room more h hle
    simp only [fits, Bool.and_eq_true, decide_eq_true_iff] at h ⊢
    exact ⟨⟨by omega, ih₁ h.1.2 (by omega)⟩, ih₂ h.2 (by omega)⟩
  | attempt _ _ _ ih₁ ih₂ ih₃ =>
    intro room more h hle
    simp only [fits, Bool.and_eq_true, decide_eq_true_iff] at h ⊢
    exact ⟨⟨⟨by omega, ih₁ h.1.1.2 (by omega)⟩, ih₂ h.1.2 (by omega)⟩, ih₃ h.2 (by omega)⟩

/-- A choice needs a level for each of its ways, and each way has the room of its tokens. -/
lemma fits_first {parts : Part → Bool} {reach : Part → Nat} {gain : Nat} {otherwise : Rule Part}
    (ho : otherwise.fits parts reach gain 1 = true) :
    ∀ {ways : List (List Kind × Rule Part)} {room : Nat},
      (∀ way ∈ ways, way.1.isEmpty = false ∧ way.2.fits parts reach gain gain = true) →
      ways.length < room → (first ways otherwise).fits parts reach gain room = true
  | [], room, _, hroom => fits_mono ho hroom
  | way :: ways, room, h, hroom => by
    rw [List.length_cons] at hroom
    obtain ⟨hahead, hway⟩ := h way List.mem_cons_self
    have ih : (first ways otherwise).fits parts reach gain (room - 1) = true :=
      fits_first ho (fun w hw => h w (List.mem_cons_of_mem _ hw)) (by omega)
    show (on way.1 way.2 (first ways otherwise)).fits parts reach gain room = true
    simp only [fits, Bool.and_eq_true, decide_eq_true_iff, hahead, Bool.not_false, if_true]
    exact ⟨⟨by omega, fits_mono hway (by omega)⟩, ih⟩

end Rule

/-- How deep the rules of a grammar stand in each other before they take a token. -/
structure Grammar.Bounds (g : Grammar Part) where
  /-- The parts that surely take a token. -/
  parts : Part → Bool
  /-- The room that a part needs. -/
  reach : Part → Nat
  /-- The room that a token makes. -/
  gain : Nat
  /-- A token makes some room. -/
  gain_pos : 0 < gain
  /-- The rules of these parts take a token. -/
  takes_rule : ∀ p, parts p = true → (g.rule p).takes parts = true
  /-- The rule of a part has the room that it needs. -/
  fits_rule : ∀ p, (g.rule p).fits parts reach gain (reach p) = true

namespace Grammar.Bounds

variable {g : Grammar Part}

/-- **With room enough, all readings are the same.** Where a rule has its room, and each token
another `gain`, the depth that is allowed does not matter.

**Proof sketch.** Induction on the depth, by cases on the rule. A rule inside it has one level less
to itself, and what was taken before it makes up for the level, by `shrinks_of_rest?`. -/
theorem rest?_eq (b : g.Bounds) : ∀ (fuel fuel' depth room : Nat) (r : Rule Part) (ts : List Token),
    r.fits b.parts b.reach b.gain room = true → room + b.gain * ts.length ≤ fuel →
    room + b.gain * ts.length ≤ fuel' → g.rest? fuel depth r ts = g.rest? fuel' depth r ts := by
  intro fuel
  induction fuel with
  | zero =>
    intro fuel' depth room r ts hfits hfuel
    have hpos := Rule.pos_of_fits hfits
    omega
  | succ fuel ih =>
    intro fuel' depth room r ts hfits hfuel hfuel'
    have hpos := Rule.pos_of_fits hfits
    obtain ⟨fuel', rfl⟩ : ∃ n, fuel' = n + 1 := ⟨fuel' - 1, by omega⟩
    cases r with
    | done => rfl
    | one k => rfl
    | seq first second =>
      simp only [Rule.fits, Bool.and_eq_true] at hfits
      obtain ⟨⟨-, hfirst⟩, hsecond⟩ := hfits
      rw [rest?_seq, rest?_seq, ih fuel' depth _ first ts hfirst (by omega) (by omega)]
      cases hmid : g.rest? fuel' depth first ts with
      | none => rfl
      | some mid =>
        have hgain := (shrinks_of_rest? b.takes_rule _ _ _ hmid).gain_le b.gain
        exact ih fuel' depth _ second mid hsecond (by omega) (by omega)
    | list item =>
      have hitem := hfits
      simp only [Rule.fits, Bool.and_eq_true] at hitem
      rw [rest?_list, rest?_list, ih fuel' depth _ item ts hitem.2 (by omega) (by omega)]
      cases hmid : g.rest? fuel' depth item ts with
      | none => rfl
      | some mid =>
        have hle := (shrinks_of_rest? b.takes_rule _ _ _ hmid).gain_le b.gain
        simp only [Option.bind_some]
        cases hcomma : Kind.after? [.sign ","] mid with
        | none => rfl
        | some more =>
          -- The comma pays for the level that the list itself takes once more.
          have hgain : b.gain + b.gain * more.length ≤ b.gain * mid.length :=
            (Kind.shrinks_of_after? hcomma).gain_le b.gain
          have hgainpos := b.gain_pos
          exact ih fuel' depth room (.list item) more hfits (by omega) (by omega)
    | on ahead yes no =>
      simp only [Rule.fits, Bool.and_eq_true] at hfits
      obtain ⟨⟨-, hyes⟩, hno⟩ := hfits
      rw [rest?_on, rest?_on]
      cases hahead : Kind.after? ahead ts with
      | none => exact ih fuel' depth _ no ts hno (by omega) (by omega)
      | some mid =>
        have hgain := (Kind.shrinks_of_after? hahead).gain_le b.gain
        exact ih fuel' depth _ yes mid hyes (by omega) (by omega)
    | look ahead yes no =>
      simp only [Rule.fits, Bool.and_eq_true] at hfits
      obtain ⟨⟨-, hyes⟩, hno⟩ := hfits
      rw [rest?_look, rest?_look, ih fuel' depth _ yes ts hyes (by omega) (by omega),
        ih fuel' depth _ no ts hno (by omega) (by omega)]
    | attempt first yes no =>
      simp only [Rule.fits, Bool.and_eq_true] at hfits
      obtain ⟨⟨⟨-, hfirst⟩, hyes⟩, hno⟩ := hfits
      rw [rest?_attempt, rest?_attempt, ih fuel' depth _ first ts hfirst (by omega) (by omega)]
      cases hmid : g.rest? fuel' depth first ts with
      | none => exact ih fuel' depth _ no ts hno (by omega) (by omega)
      | some mid =>
        have hgain := (shrinks_of_rest? b.takes_rule _ _ _ hmid).gain_le b.gain
        exact ih fuel' depth _ yes mid hyes (by omega) (by omega)
    | part p =>
      simp only [Rule.fits, decide_eq_true_iff] at hfits
      have hrule : ∀ depth, g.rest? fuel depth (g.rule p) ts = g.rest? fuel' depth (g.rule p) ts :=
        fun depth => ih fuel' depth _ (g.rule p) ts (b.fits_rule p) (by omega) (by omega)
      cases hnests : g.nests p with
      | false =>
        rw [rest?_part_of_not_nests _ _ _ hnests, rest?_part_of_not_nests _ _ _ hnests, hrule]
      | true =>
        cases depth with
        | zero => rw [rest?_part_zero _ _ hnests, rest?_part_zero _ _ hnests]
        | succ depth =>
          rw [rest?_part_of_nests _ _ _ hnests, rest?_part_of_nests _ _ _ hnests, hrule]

end Grammar.Bounds

end QueryGate.Sql
