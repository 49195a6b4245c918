import Mathlib.Data.List.Basic
import QueryGate.Json.Reader
import QueryGate.Proofs.Alphabet
import QueryGate.Proofs.Json.Reading
import QueryGate.Proofs.Json.Shape

set_option relaxedAutoImplicit false
set_option autoImplicit false

/-!
# Values read back from their text

A text spells a value when nothing is wrong in it and nothing follows the value. The compact text of
a value without numbers spells it, as long as its lists and objects nest no deeper than they may.

## Main definitions

* `QueryGate.Json.Spells` — a text stands for a value.
* `QueryGate.Json.Shallow` — values without numbers whose lists and objects nest so deep at most.

## Main results

* `QueryGate.Json.Reader.value_chars` — the compact text of such a value is read back, whatever
  follows it.
* `QueryGate.Json.spells_render` — it spells the value.
* `QueryGate.Json.read?_of_spells` — the value that a text spells is read.

## Implementation notes

The reader is given fuel, of which a value needs no more than its text has characters.
-/

namespace QueryGate.Json

/-- A text stands for a value: nothing is wrong in it, and white space is all that follows. -/
structure Spells (text : String) (j : Json) : Prop where
  /-- The value is at the start of the text, with every key as written. -/
  draft : (readDraft text).1 = .ofJson j
  /-- Nothing but white space follows. -/
  ends : isEnd (readDraft text).2 = true

/-- Values without numbers whose lists and objects nest at most `n` deep. -/
inductive Shallow : Nat → Json → Prop
  | null {n : Nat} : Shallow n .null
  | bool {n : Nat} (b : Bool) : Shallow n (.bool b)
  | str {n : Nat} (s : String) : Shallow n (.str s)
  | arr {n : Nat} {items : List Json} (h : ∀ j ∈ items, Shallow n j) : Shallow (n + 1) (.arr items)
  | obj {n : Nat} {members : List (String × Json)} (h : ∀ m ∈ members, Shallow n m.2) :
    Shallow (n + 1) (.obj members)

/-- The text of a value without numbers begins with a letter, a quote or a bracket. -/
lemma Shallow.exists_chars_cons {n : Nat} {j : Json} (h : Shallow n j) :
    ∃ c cs, chars j = c :: cs ∧ c ∈ ['n', 't', 'f', '"', '[', '\x7b'] := by
  cases h with
  | null => exact ⟨'n', _, rfl, by decide⟩
  | bool b =>
    cases b
    · exact ⟨'f', _, rfl, by decide⟩
    · exact ⟨'t', _, rfl, by decide⟩
  | str s => exact ⟨'"', _, rfl, by decide⟩
  | arr _ => exact ⟨'[', _, rfl, by decide⟩
  | obj _ => exact ⟨'\x7b', _, rfl, by decide⟩

/-- The items of a list nest one less deep. -/
lemma Shallow.items {n : Nat} {items : List Json} (h : Shallow (n + 1) (.arr items)) :
    ∀ j ∈ items, Shallow n j := by
  cases h with
  | arr hitems => exact hitems

/-- So do the values of an object. -/
lemma Shallow.members {n : Nat} {members : List (String × Json)}
    (h : Shallow (n + 1) (.obj members)) : ∀ m ∈ members, Shallow n m.2 := by
  cases h with
  | obj hmembers => exact hmembers

namespace Reader

/-! ## Texts between quotes -/

/-- A written character is one mark, which stands for it. -/
lemma exists_mark (c : Char) : ∃ m,
    (∀ cs, marks? (escapedChar c ++ cs) = (marks? cs).map fun (ms, rest) => (m :: ms, rest)) ∧
      ∀ ms, characters? (m :: ms) = (characters? ms).map (c :: ·) := by
  unfold escapedChar
  -- Seven characters have a letter of their own, and the other control characters have a code.
  split_ifs with h₁ h₂ h₃ h₄ h₅ h₆ h₇ hlow
  · exact ⟨.plain c, fun cs => by subst h₁; rfl, fun ms => rfl⟩
  · exact ⟨.plain c, fun cs => by subst h₂; rfl, fun ms => rfl⟩
  · exact ⟨.plain c, fun cs => by subst h₃; rfl, fun ms => rfl⟩
  · exact ⟨.plain c, fun cs => by subst h₄; rfl, fun ms => rfl⟩
  · exact ⟨.plain c, fun cs => by subst h₅; rfl, fun ms => rfl⟩
  · exact ⟨.plain c, fun cs => by subst h₆; rfl, fun ms => rfl⟩
  · exact ⟨.plain c, fun cs => by subst h₇; rfl, fun ms => rfl⟩
  · have hcode : ∀ n < 0x20,
        hexCode? '0' '0' (Nat.digitChar (n / 16)) (Nat.digitChar (n % 16)) = some n := by decide
    refine ⟨.code c.toNat, fun cs => ?_, fun ms => ?_⟩
    · simp only [List.cons_append, List.nil_append, marks?, hcode _ hlow]
    · rw [characters?.eq_def]
      exact (if_pos (Or.inl (by omega))).trans (by rw [Char.ofNat_toNat])
  · refine ⟨.plain c, fun cs => ?_, fun ms => rfl⟩
    rw [List.cons_append, List.nil_append, marks?, if_neg (by simp [h₂, hlow])]
    all_goals simp_all

/-- A text between quotes, and what follows it. -/
lemma stringChars_append (s : String) (rest : List Char) :
    stringChars s ++ rest = '"' :: (s.toList.flatMap escapedChar ++ '"' :: rest) := by
  simp [stringChars]

/-- The text between quotes is read back, and its end is found. -/
lemma quoted?_chars (s : String) (rest : List Char) :
    quoted? (s.toList.flatMap escapedChar ++ '"' :: rest) = some (some s, rest) := by
  have hmarks : ∀ cs : List Char, ∃ ms,
      marks? (cs.flatMap escapedChar ++ '"' :: rest) = some (ms, rest) ∧
        characters? ms = some cs := by
    intro cs
    induction cs with
    | nil => exact ⟨[], rfl, rfl⟩
    | cons c cs ih =>
      obtain ⟨ms, hms, hcs⟩ := ih
      obtain ⟨m, hmark, hchar⟩ := exists_mark c
      refine ⟨m :: ms, ?_, ?_⟩
      · rw [List.flatMap_cons, List.append_assoc, hmark, hms, Option.map_some]
      · rw [hchar, hcs, Option.map_some]
  obtain ⟨ms, hms, hcs⟩ := hmarks s.toList
  simp only [quoted?, hms, hcs, Option.map_some, String.ofList_toList]

/-! ## Values -/

/-- Nothing is missing from the draft of a value. -/
lemma isWhole_ofJson (j : Json) : (Draft.ofJson j).isWhole = true := by
  cases j <;> rfl

/-- A list is read item by item where a value begins behind its bracket. -/
lemma value_list {fuel n : Nat} {c : Char} {cs rest : List Char} {found : List Draft}
    (hc : c ∈ ['n', 't', 'f', '"', '[', '\x7b'])
    (hitems : items fuel n (c :: cs) = (found, true, rest)) :
    value (fuel + 1) (n + 1) ('[' :: c :: cs) = (.arr found true, rest) := by
  have hread : value (fuel + 1) (n + 1) ('[' :: c :: cs) =
      (.arr (items fuel n (c :: cs)).1 (items fuel n (c :: cs)).2.1,
        (items fuel n (c :: cs)).2.2) := by
    simp only [List.mem_cons, List.not_mem_nil, or_false] at hc
    rcases hc with rfl | rfl | rfl | rfl | rfl | rfl <;> rfl
  rw [hread, hitems]

/-- An object is read member by member where a key stands behind its brace. -/
lemma value_object {fuel n : Nat} {key : String} {cs rest : List Char}
    {found : List (Option String × Draft)}
    (hmembers : members fuel n (stringChars key ++ cs) = (found, true, rest)) :
    value (fuel + 1) (n + 1) ('\x7b' :: (stringChars key ++ cs)) = (.obj found true, rest) := by
  have hread : value (fuel + 1) (n + 1) ('\x7b' :: (stringChars key ++ cs)) =
      (.obj (members fuel n (stringChars key ++ cs)).1
        (members fuel n (stringChars key ++ cs)).2.1,
        (members fuel n (stringChars key ++ cs)).2.2) := rfl
  rw [hread, hmembers]

/-- The last item of a list. -/
lemma items_last {fuel n : Nat} {cs rest : List Char} {d : Draft} (hwhole : d.isWhole = true)
    (h : value fuel n cs = (d, ']' :: rest)) : items (fuel + 1) n cs = ([d], true, rest) := by
  rw [items, h]
  simp only [hwhole]
  rfl

/-- An item of a list before others. -/
lemma items_next {fuel n : Nat} {cs cs' rest : List Char} {d : Draft} {found : List Draft}
    (hwhole : d.isWhole = true) (h : value fuel n cs = (d, ',' :: cs'))
    (hrest : items fuel n cs' = (found, true, rest)) :
    items (fuel + 1) n cs = (d :: found, true, rest) := by
  have hcomma : skipBlanks (',' :: cs') = ',' :: cs' := rfl
  rw [items, h]
  simp only [hwhole, hcomma, hrest]
  rfl

/-- A member of an object is read, and the sign behind it says whether others follow. -/
lemma members_first {fuel n : Nat} {cs rest : List Char} {key : String} {d : Draft}
    (hwhole : d.isWhole = true) (h : value fuel n cs = (d, rest)) :
    members (fuel + 1) n (stringChars key ++ ':' :: cs) =
      match skipBlanks rest with
      | '\x7d' :: rest => ([(some key, d)], true, rest)
      | ',' :: rest =>
        let (found, closed, rest) := members fuel n rest
        ((some key, d) :: found, closed, rest)
      | _ => ([(some key, d)], false, []) := by
  have hquote : skipBlanks ('"' :: (key.toList.flatMap escapedChar ++ '"' :: ':' :: cs)) =
      '"' :: (key.toList.flatMap escapedChar ++ '"' :: ':' :: cs) := rfl
  have hcolon : skipBlanks (':' :: cs) = ':' :: cs := rfl
  rw [stringChars_append, members, hquote]
  simp only [quoted?_chars, hcolon, h, hwhole]
  rfl

/-- The last member of an object. -/
lemma members_last {fuel n : Nat} {cs rest : List Char} {key : String} {d : Draft}
    (hwhole : d.isWhole = true) (h : value fuel n cs = (d, '\x7d' :: rest)) :
    members (fuel + 1) n (stringChars key ++ ':' :: cs) = ([(some key, d)], true, rest) := by
  rw [members_first hwhole h]
  rfl

/-- A member of an object before others. -/
lemma members_next {fuel n : Nat} {cs cs' rest : List Char} {key : String} {d : Draft}
    {found : List (Option String × Draft)} (hwhole : d.isWhole = true)
    (h : value fuel n cs = (d, ',' :: cs')) (hrest : members fuel n cs' = (found, true, rest)) :
    members (fuel + 1) n (stringChars key ++ ':' :: cs) =
      ((some key, d) :: found, true, rest) := by
  have hcomma : skipBlanks (',' :: cs') = ',' :: cs' := rfl
  rw [members_first hwhole h, hcomma]
  simp only [hrest]

mutual

/-- **The compact text of a value without numbers is read back**, whatever follows it. -/
theorem value_chars : ∀ {j : Json} {n fuel : Nat} (rest : List Char), Shallow n j →
    (chars j).length ≤ fuel → value fuel n (chars j ++ rest) = (.ofJson j, rest)
  | .null, n, fuel + 1, rest, _, _ => rfl
  | .bool true, n, fuel + 1, rest, _, _ => rfl
  | .bool false, n, fuel + 1, rest, _, _ => rfl
  | .str s, n, fuel + 1, rest, _, _ => by
    have hread : value (fuel + 1) n ('"' :: (s.toList.flatMap escapedChar ++ '"' :: rest)) =
        orBroken ((quoted? (s.toList.flatMap escapedChar ++ '"' :: rest)).map
          fun (s, rest) => (s.elim .unfit .str, rest)) := rfl
    rw [chars, stringChars_append, hread, quoted?_chars]
    rfl
  | .arr [], n + 1, fuel + 1, rest, _, _ => rfl
  | .arr (j :: js), n + 1, fuel + 1, rest, h, hfuel => by
    have hchars : chars (.arr (j :: js)) ++ rest = '[' :: (itemChars (j :: js) ++ ']' :: rest) := by
      simp [chars]
    have hread : items fuel n (itemChars (j :: js) ++ ']' :: rest) =
        (Draft.ofItems (j :: js), true, rest) := by
      refine items_chars rest h.items ?_
      simp only [chars, List.length_append, List.length_cons, List.length_nil] at hfuel
      omega
    obtain ⟨c, cs, hc, hmem⟩ := (h.items j List.mem_cons_self).exists_chars_cons
    rw [itemChars_cons, hc, List.append_assoc, List.cons_append] at hread
    rw [hchars, itemChars_cons, hc, List.append_assoc, List.cons_append]
    exact value_list hmem hread
  | .obj [], n + 1, fuel + 1, rest, _, _ => rfl
  | .obj ((k, v) :: ms), n + 1, fuel + 1, rest, h, hfuel => by
    have hchars : chars (.obj ((k, v) :: ms)) ++ rest =
        '\x7b' :: (memberChars ((k, v) :: ms) ++ '\x7d' :: rest) := by
      simp [chars]
    have hread : members fuel n (memberChars ((k, v) :: ms) ++ '\x7d' :: rest) =
        (Draft.ofMembers ((k, v) :: ms), true, rest) := by
      refine members_chars rest h.members ?_
      simp only [chars, List.length_append, List.length_cons, List.length_nil] at hfuel
      omega
    rw [memberChars_cons, List.append_assoc] at hread
    rw [hchars, memberChars_cons, List.append_assoc]
    exact value_object hread

/-- So are the items of a list. -/
theorem items_chars : ∀ {j : Json} {js : List Json} {n fuel : Nat} (rest : List Char),
    (∀ i ∈ j :: js, Shallow n i) → (itemChars (j :: js)).length < fuel →
      items fuel n (itemChars (j :: js) ++ ']' :: rest) = (Draft.ofItems (j :: js), true, rest)
  | j, [], n, fuel + 1, rest, h, hfuel =>
    items_last (isWhole_ofJson j)
      (value_chars (']' :: rest) (h j List.mem_cons_self) (Nat.le_of_lt_succ hfuel))
  | j, next :: js, n, fuel + 1, rest, h, hfuel => by
    have hchars : itemChars (j :: next :: js) ++ ']' :: rest =
        chars j ++ ',' :: (itemChars (next :: js) ++ ']' :: rest) := by
      simp [itemChars]
    rw [List.forall_mem_cons] at h
    simp only [itemChars, List.length_append, List.length_cons] at hfuel
    rw [hchars]
    exact items_next (isWhole_ofJson j) (value_chars _ h.1 (by omega))
      (items_chars rest h.2 (by omega))

/-- So are the members of an object. -/
theorem members_chars : ∀ {k : String} {v : Json} {ms : List (String × Json)} {n fuel : Nat}
    (rest : List Char), (∀ m ∈ (k, v) :: ms, Shallow n m.2) →
      (memberChars ((k, v) :: ms)).length < fuel →
      members fuel n (memberChars ((k, v) :: ms) ++ '\x7d' :: rest) =
        (Draft.ofMembers ((k, v) :: ms), true, rest)
  | k, v, [], n, fuel + 1, rest, h, hfuel => by
    have hchars : memberChars [(k, v)] ++ '\x7d' :: rest =
        stringChars k ++ ':' :: (chars v ++ '\x7d' :: rest) := by
      simp [memberChars]
    simp only [memberChars, List.length_append, List.length_cons] at hfuel
    rw [hchars]
    exact members_last (isWhole_ofJson v) (value_chars _ (h (k, v) List.mem_cons_self) (by omega))
  | k, v, (k', v') :: ms, n, fuel + 1, rest, h, hfuel => by
    have hchars : memberChars ((k, v) :: (k', v') :: ms) ++ '\x7d' :: rest =
        stringChars k ++ ':' :: (chars v ++ ',' ::
          (memberChars ((k', v') :: ms) ++ '\x7d' :: rest)) := by
      simp [memberChars]
    rw [List.forall_mem_cons] at h
    simp only [memberChars, List.length_append, List.length_cons] at hfuel
    rw [hchars]
    exact members_next (isWhole_ofJson v) (value_chars _ h.1 (by omega))
      (members_chars rest h.2 (by omega))

end

/-! ## White space -/

/-- White space is no digit. -/
lemma isDigit_of_isBlank {c : Char} (h : Text.isBlank c = true) : c.isDigit = false := by
  by_contra hdigit
  rw [Bool.not_eq_false] at hdigit
  have hletter : c.isAlphanum = true := by simp [Char.isAlphanum, hdigit]
  exact Bool.false_ne_true ((isBlank_eq_false_of_letter (.inl hletter)).symm.trans h)

/-- No number begins with white space. -/
lemma numeral_blank {c : Char} (h : Text.isBlank c = true) (cs : List Char) :
    Numeral.read? (c :: cs) = none := by
  have hsign : c ≠ '-' := by
    rintro rfl
    exact absurd h (by decide)
  have hread : Numeral.read? (c :: cs) = Numeral.unsigned? false (c :: cs) := by
    unfold Numeral.read?
    split
    · next heq => exact absurd (List.cons.inj heq).1 hsign
    · rfl
  rw [hread, Numeral.unsigned?]
  simp [isDigit_of_isBlank h]

/-- What follows white space is a part of the text. -/
lemma skipBlanks_suffix (cs : List Char) : skipBlanks cs <:+ cs := by
  induction cs with
  | nil => exact List.suffix_rfl
  | cons c cs ih =>
    rw [skipBlanks]
    split_ifs
    · exact ih.trans (List.suffix_cons c cs)
    · exact List.suffix_rfl

/-- There is no value in white space. -/
lemma value_blank {fuel n : Nat} {cs : List Char} (h : ∀ c ∈ cs, Text.isBlank c = true) :
    value (fuel + 1) n cs = (.broken, []) := by
  have hfirst : ∀ c rest, skipBlanks cs = c :: rest → Text.isBlank c = true := fun c rest heq =>
    h c ((skipBlanks_suffix cs).subset (heq ▸ List.mem_cons_self))
  rw [value]
  split
  case h_1 => rfl
  case h_8 hnil _ _ _ _ _ _ =>
    obtain ⟨c, rest, hrest⟩ := List.exists_cons_of_ne_nil hnil
    rw [hrest, numeral_blank (hfirst c rest hrest)]
    rfl
  -- The other characters that a value may begin with are no white space.
  all_goals
    next hstart => exact absurd (hfirst _ _ hstart) (by decide)

end Reader

/-! ## Texts that spell values -/

variable {text : String} {j : Json}

/-- **The compact text of a value without numbers spells it.** -/
theorem spells_render (h : Shallow Reader.depthLimit j) : Spells j.render j := by
  have hread : readDraft j.render = (.ofJson j, []) := by
    have hfuel : (chars j).length ≤ 2 * (chars j).length + 2 := by omega
    have hvalue := Reader.value_chars [] h hfuel
    rw [List.append_nil] at hvalue
    rw [readDraft, render, String.toList_ofList]
    exact hvalue
  exact ⟨congrArg Prod.fst hread, congrArg (fun p => isEnd p.2) hread⟩

/-- The value that a text spells is read, if it holds every key once. -/
theorem read?_of_spells (h : Spells text j) (hdistinct : Distinct j) : read? text = some j := by
  have hraw : readRaw? text = some j := by
    rw [readRaw?]
    dsimp only
    rw [if_pos h.ends, h.draft, Draft.toJson?_ofJson]
  rw [read?, hraw, Option.map_some, merged_of_distinct hdistinct]

/-- A text that spells a value holds more than white space. -/
theorem not_blank_of_spells (h : Spells text j) : text.toList.all Text.isBlank = false := by
  by_contra hblank
  rw [Bool.not_eq_false, List.all_eq_true] at hblank
  have hdraft := h.draft
  rw [readDraft, Reader.value_blank hblank] at hdraft
  cases j <;> exact absurd hdraft nofun

end QueryGate.Json
