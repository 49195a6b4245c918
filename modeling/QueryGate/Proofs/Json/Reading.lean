import Mathlib.Data.List.Perm.Basic
import QueryGate.Json.Writer

set_option relaxedAutoImplicit false
set_option autoImplicit false

/-!
# Reading JSON text back

The text of a value can be read in one way only: it says where the value ends, and which value it
is up to the way in which numbers are held.

## Main definitions

* `QueryGate.Json.Twin` — two values with the same members in the same order, whose numbers are
  written alike.

## Main results

* `QueryGate.Json.eq_of_escapedChar` — characters inside a text are told apart and end clearly.
* `QueryGate.Json.twin_of_chars` — values with one text are twins.
* `QueryGate.Json.shown_chars` — the text of a value holds no control characters.

## Implementation notes

Numbers are compared as they are written: a whole number and a floating one may be equal and are
written apart, and two floating numbers may differ and be written alike.
-/

namespace QueryGate.Json

/-! ## Values without quotes and brackets -/

/-- The characters of numbers, truth values and the null value. -/
def isBareChar (c : Char) : Bool := c.isAlphanum || c == '-' || c == '+' || c == '.'

/-- Text of such characters only. -/
def BareText (cs : List Char) : Prop := ∀ c ∈ cs, isBareChar c = true

instance (cs : List Char) : Decidable (BareText cs) := List.decidableBAll _ cs

namespace BareText

/-- Two texts one after the other. -/
lemma append {a b : List Char} (ha : BareText a) (hb : BareText b) : BareText (a ++ b) :=
  fun c hc => (List.mem_append.mp hc).elim (ha c) (hb c)

/-- The beginning of a text. -/
lemma take {cs : List Char} (h : BareText cs) (n : Nat) : BareText (cs.take n) :=
  fun c hc => h c (List.mem_of_mem_take hc)

/-- The end of a text. -/
lemma drop {cs : List Char} (h : BareText cs) (n : Nat) : BareText (cs.drop n) :=
  fun c hc => h c (List.mem_of_mem_drop hc)

/-- Digits. -/
lemma digits (n : Nat) : BareText (Decimal.digitsOf n) := fun c hc => by
  have hdigit := Nat.isDigit_of_mem_toDigits (by decide) (by decide) hc
  simp [isBareChar, Char.isAlphanum, hdigit]

/-- Zeros. -/
lemma zeros (n : Nat) : BareText (List.replicate n '0') := fun c hc => by
  rw [List.eq_of_mem_replicate hc]
  decide

/-- A sign or none. -/
lemma sign (negative : Bool) : BareText (Decimal.signOf negative) := by
  cases negative <;> decide

/-- A decimal in positional notation. -/
lemma positional (d : Decimal.Digits) (keepsPoint : Bool) : BareText (d.positional keepsPoint) := by
  have hdigits := digits d.digits
  have hpoint : BareText (if keepsPoint then ['.', '0'] else []) := by cases keepsPoint <;> decide
  have hmiddle : BareText ['.'] := by decide
  have hstart : BareText ['0', '.'] := by decide
  unfold Decimal.Digits.positional
  dsimp only
  by_cases hwhole : 0 ≤ d.exponent
  · rw [if_pos hwhole]
    exact (hdigits.append (zeros _)).append hpoint
  · rw [if_neg hwhole]
    split_ifs
    · exact ((hdigits.take _).append hmiddle).append (hdigits.drop _)
    · exact (hstart.append (zeros _)).append hdigits

/-- A decimal with an exponent. -/
lemma scientific (d : Decimal.Digits) (plusSign : Bool) : BareText (d.scientific plusSign) := by
  have hdigits := digits d.digits
  have hpoint : BareText ['.'] := by decide
  have hfraction : BareText (if (Decimal.digitsOf d.digits).length = 1 then []
      else '.' :: (Decimal.digitsOf d.digits).drop 1) := by
    split_ifs
    · decide
    · exact hpoint.append (hdigits.drop 1)
  have hsign : ∀ power : Int,
      BareText (if power < 0 then ['-'] else if plusSign then ['+'] else []) := by
    intro power
    split_ifs <;> decide
  have hmark : BareText ['e'] := by decide
  unfold Decimal.Digits.scientific
  exact ((((hdigits.take 1).append hfraction).append hmark).append (hsign _)).append (digits _)

end BareText

/-- Whether a value is written without quotes and brackets. -/
def isBare : Json → Bool
  | null | bool _ | int _ | float _ => true
  | _ => false

/-- Values without quotes and brackets are written with bare characters. -/
lemma bareText_chars : ∀ {a : Json}, a.isBare = true → BareText (chars a)
  | .null, _ => by decide
  | .bool b, _ => by cases b <;> decide
  | .int n, _ => (BareText.sign _).append (BareText.digits _)
  | .float x, _ => by
    unfold chars floatChars
    split
    · refine (BareText.sign _).append ?_
      unfold Decimal.Notation.write
      split_ifs
      · exact BareText.positional _ _
      · exact BareText.scientific _ _
    · decide

/-- The text of a value has at least one character. -/
lemma chars_ne_nil : ∀ a : Json, chars a ≠ []
  | .null => by decide
  | .bool b => by cases b <;> decide
  | .int n => by simp [chars, intChars, Decimal.digitsOf, Nat.toDigits_ne_nil]
  | .float x => by
    unfold chars floatChars
    split
    · simp only [Decimal.Notation.write, Decimal.Digits.positional, Decimal.Digits.scientific]
      split_ifs <;> simp [Decimal.digitsOf, Nat.toDigits_ne_nil]
    · decide
  | .str s => by simp [chars, stringChars]
  | .arr items => by simp [chars]
  | .obj members => by simp [chars]

/-! ## Where a text ends -/

/-- A text that does not go on with a bare character. -/
def Ends (s : List Char) : Prop := ∀ c ∈ s.head?, isBareChar c = false

/-- A bare text goes as far as its characters do. -/
lemma BareText.split : ∀ {u v s t : List Char}, BareText u → BareText v → Ends s → Ends t →
    u ++ s = v ++ t → u = v ∧ s = t
  | [], [], _, _, _, _, _, _, h => ⟨rfl, h⟩
  | [], c :: v, s, t, _, hv, hs, _, h => by
    have hc : isBareChar c = false := hs c (by simp [show s = c :: (v ++ t) from h])
    rw [hv c List.mem_cons_self] at hc
    exact Bool.noConfusion hc
  | c :: u, [], s, t, hu, _, _, ht, h => by
    have hc : isBareChar c = false := ht c (by simp [show t = c :: (u ++ s) from h.symm])
    rw [hu c List.mem_cons_self] at hc
    exact Bool.noConfusion hc
  | c :: u, d :: v, s, t, hu, hv, hs, ht, h => by
    rw [List.cons_append, List.cons_append, List.cons.injEq] at h
    have hu' : BareText u := fun x hx => hu x (List.mem_cons_of_mem c hx)
    have hv' : BareText v := fun x hx => hv x (List.mem_cons_of_mem d hx)
    obtain ⟨rfl, rfl⟩ := BareText.split hu' hv' hs ht h.2
    exact ⟨by rw [h.1], rfl⟩

/-! ## Texts between quotes -/

/-- The characters with an escape of their own, each with the letter that stands for it. -/
def shortEscapes : List (Char × Char) := [
  ('"', '"'), ('\\', '\\'), ('n', '\n'), ('r', '\r'), ('t', '\t'), ('b', '\x08'), ('f', '\x0c')]

/-- The character that a text between quotes begins with, and what follows it. -/
def readChar : List Char → Option (Char × List Char)
  | [] => none
  | c :: s =>
    if c ≠ '\\' then some (c, s)
    else
      match s with
      | 'u' :: '0' :: '0' :: high :: low :: s =>
        ((List.range 0x20).find? fun n =>
          Nat.digitChar (n / 16) == high && Nat.digitChar (n % 16) == low).map (Char.ofNat ·, s)
      | letter :: s => (shortEscapes.lookup letter).map (·, s)
      | [] => none

/-- Reading takes a written character back. -/
lemma readChar_escapedChar (c : Char) (s : List Char) :
    readChar (escapedChar c ++ s) = some (c, s) := by
  unfold escapedChar
  split_ifs with h₁ h₂ h₃ h₄ h₅ h₆ h₇ h₈
  · subst h₁; rfl
  · subst h₂; rfl
  · subst h₃; rfl
  · subst h₄; rfl
  · subst h₅; rfl
  · subst h₆; rfl
  · subst h₇; rfl
  · have hall : ∀ n < 0x20, (List.range 0x20).find? (fun m =>
        Nat.digitChar (m / 16) == Nat.digitChar (n / 16) &&
          Nat.digitChar (m % 16) == Nat.digitChar (n % 16)) = some n := by decide
    change Option.map (fun n => (Char.ofNat n, s)) _ = _
    rw [hall _ h₈, Option.map_some, Char.ofNat_toNat]
  · exact if_pos h₂

/-- Characters inside a text are told apart and end clearly. -/
lemma eq_of_escapedChar {c d : Char} {s t : List Char}
    (h : escapedChar c ++ s = escapedChar d ++ t) : c = d ∧ s = t := by
  have hread := congrArg readChar h
  rw [readChar_escapedChar, readChar_escapedChar] at hread
  exact Prod.mk.inj (Option.some.inj hread)

/-- A written character does not begin with a quote. -/
lemma escapedChar_ne_quote (c : Char) (s t : List Char) : escapedChar c ++ s ≠ '"' :: t := by
  unfold escapedChar
  split_ifs with h₁ h₂ h₃ h₄ h₅ h₆ h₇ h₈
  all_goals simp [h₁]

/-- The characters of a text between quotes are told apart, and so is its end. -/
lemma eq_of_escapedChars : ∀ {cs ds s t : List Char},
    cs.flatMap escapedChar ++ '"' :: s = ds.flatMap escapedChar ++ '"' :: t → cs = ds ∧ s = t
  | [], [], s, t, h => ⟨rfl, (List.cons.inj h).2⟩
  | [], d :: ds, s, t, h => by
    rw [List.flatMap_cons, List.append_assoc] at h
    exact absurd h.symm (escapedChar_ne_quote d _ s)
  | c :: cs, [], s, t, h => by
    rw [List.flatMap_cons, List.append_assoc] at h
    exact absurd h (escapedChar_ne_quote c _ t)
  | c :: cs, d :: ds, s, t, h => by
    rw [List.flatMap_cons, List.flatMap_cons, List.append_assoc, List.append_assoc] at h
    obtain ⟨rfl, hrest⟩ := eq_of_escapedChar h
    obtain ⟨rfl, rfl⟩ := eq_of_escapedChars hrest
    exact ⟨rfl, rfl⟩

/-- A text between quotes is told apart from others, and so is its end. -/
lemma eq_of_stringChars {x y : String} {s t : List Char}
    (h : stringChars x ++ s = stringChars y ++ t) : x = y ∧ s = t := by
  simp only [stringChars, List.cons_append, List.append_assoc, List.cons.injEq, true_and] at h
  obtain ⟨hlist, rfl⟩ := eq_of_escapedChars h
  exact ⟨String.toList_inj.mp hlist, rfl⟩

/-! ## Values with one text -/

/-- Two values with the same texts, and the same members in the same order, whose numbers are
written alike. -/
inductive Twin : Json → Json → Prop
  | bare {a b : Json} (ha : a.isBare = true) (hb : b.isBare = true) (h : chars a = chars b) :
    Twin a b
  | str (x : String) : Twin (.str x) (.str x)
  | arr {xs ys : List Json} (h : List.Forall₂ Twin xs ys) : Twin (.arr xs) (.arr ys)
  | obj {ms ns : List (String × Json)} (keys : ms.map (·.1) = ns.map (·.1))
    (h : List.Forall₂ Twin (ms.map (·.2)) (ns.map (·.2))) : Twin (.obj ms) (.obj ns)

/-- The quote or the bracket that a value opens with, if it does. -/
def opening : Json → Option Char
  | str _ => some '"'
  | arr _ => some '['
  | obj _ => some '\x7b'
  | _ => none

/-- The first character of a text tells what the value opens with. -/
lemma head_chars (a : Json) :
    ∃ c cs, chars a = c :: cs ∧ a.opening = if isBareChar c then none else some c := by
  have hbare : a.isBare = true → a.opening = none →
      ∃ c cs, chars a = c :: cs ∧ a.opening = if isBareChar c then none else some c := by
    intro ha hopening
    obtain ⟨c, cs, hc⟩ := List.exists_cons_of_ne_nil (chars_ne_nil a)
    have hfirst := bareText_chars ha c (hc ▸ List.mem_cons_self)
    exact ⟨c, cs, hc, by rw [if_pos hfirst, hopening]⟩
  cases a with
  | str x => exact ⟨'"', _, rfl, rfl⟩
  | arr xs => exact ⟨'[', _, rfl, rfl⟩
  | obj ms => exact ⟨'\x7b', _, rfl, rfl⟩
  | _ => exact hbare rfl rfl

/-- Values whose texts begin alike open alike. -/
lemma opening_eq {a b : Json} {s t : List Char} (h : chars a ++ s = chars b ++ t) :
    a.opening = b.opening := by
  obtain ⟨c, cs, hc, ha⟩ := head_chars a
  obtain ⟨d, ds, hd, hb⟩ := head_chars b
  rw [hc, hd, List.cons_append, List.cons_append, List.cons.injEq] at h
  rw [ha, hb, h.1]

/-- A bare value opens with nothing. -/
lemma opening_of_isBare : ∀ {a : Json}, a.isBare = true → a.opening = none
  | .null, _ | .bool _, _ | .int _, _ | .float _, _ => rfl

/-- Twins open alike. -/
lemma Twin.opening_eq {a b : Json} (h : Twin a b) : a.opening = b.opening := by
  cases h with
  | bare ha hb => rw [opening_of_isBare ha, opening_of_isBare hb]
  | _ => rfl

/-- A value that opens with nothing is bare. -/
lemma isBare_of_opening : ∀ {a : Json}, a.opening = none → a.isBare = true
  | .null, _ | .bool _, _ | .int _, _ | .float _, _ => rfl

/-- A bare value is told from all others by its text. -/
lemma twin_of_bare {a b : Json} (ha : a.isBare = true) {s t : List Char} (hs : Ends s)
    (ht : Ends t) (h : chars a ++ s = chars b ++ t) : Twin a b ∧ s = t := by
  have hb := isBare_of_opening (opening_eq h ▸ opening_of_isBare ha)
  obtain ⟨hchars, hrest⟩ := (bareText_chars ha).split (bareText_chars hb) hs ht h
  exact ⟨.bare ha hb hchars, hrest⟩

/-- No value begins with the end of a list. -/
lemma chars_append_ne (a : Json) (s t : List Char) : chars a ++ s ≠ ']' :: t := by
  intro h
  obtain ⟨c, cs, hc, hopening⟩ := head_chars a
  rw [hc, List.cons_append, List.cons.injEq] at h
  rw [h.1, if_neg (by decide)] at hopening
  cases a <;> simp [opening] at hopening

/-- What follows the first item of a list. -/
def laterItems : List Json → List Char
  | [] => []
  | next :: rest => ',' :: itemChars (next :: rest)

/-- The first item of a list, and the rest. -/
lemma itemChars_cons (j : Json) (rest : List Json) :
    itemChars (j :: rest) = chars j ++ laterItems rest := by
  cases rest <;> simp [itemChars, laterItems]

/-- An item ends where others follow or the list ends. -/
lemma ends_laterItems (rest : List Json) (s : List Char) : Ends (laterItems rest ++ ']' :: s) := by
  cases rest <;> simp [Ends, laterItems, isBareChar]

/-- Whether items follow is told by the sign after an item. -/
lemma items_of_laterItems : ∀ {xs ys : List Json} {s t : List Char},
    laterItems xs ++ ']' :: s = laterItems ys ++ ']' :: t →
      itemChars xs ++ ']' :: s = itemChars ys ++ ']' :: t
  | [], [], _, _, h => h
  | [], _ :: _, _, _, h => absurd (List.cons.inj h).1 (by decide)
  | _ :: _, [], _, _, h => absurd (List.cons.inj h).1 (by decide)
  | _ :: _, _ :: _, _, _, h => (List.cons.inj h).2

/-- What follows the first member of an object. -/
def laterMembers : List (String × Json) → List Char
  | [] => []
  | next :: rest => ',' :: memberChars (next :: rest)

/-- The first member of an object, and the rest. -/
lemma memberChars_cons (k : String) (v : Json) (rest : List (String × Json)) :
    memberChars ((k, v) :: rest) = stringChars k ++ ':' :: (chars v ++ laterMembers rest) := by
  cases rest <;> simp [memberChars, laterMembers]

/-- A value ends where other members follow or the object ends. -/
lemma ends_laterMembers (rest : List (String × Json)) (s : List Char) :
    Ends (laterMembers rest ++ '\x7d' :: s) := by
  cases rest <;> simp [Ends, laterMembers, isBareChar]

/-- Whether members follow is told by the sign after a member. -/
lemma members_of_laterMembers : ∀ {ms ns : List (String × Json)} {s t : List Char},
    laterMembers ms ++ '\x7d' :: s = laterMembers ns ++ '\x7d' :: t →
      memberChars ms ++ '\x7d' :: s = memberChars ns ++ '\x7d' :: t
  | [], [], _, _, h => h
  | [], _ :: _, _, _, h => absurd (List.cons.inj h).1 (by decide)
  | _ :: _, [], _, _, h => absurd (List.cons.inj h).1 (by decide)
  | _ :: _, _ :: _, _, _, h => (List.cons.inj h).2

mutual

/-- **The text of a value can be read in one way only.** Where the texts of two values, each
followed by something that is no part of it, are one text, the values are twins and are followed by
the same.

**Proof sketch.** Induction on the first value. What it opens with is what the other opens with.
Bare values go as far as their characters do, texts up to their closing quote, and lists and
objects item by item: the sign after an item says whether there is another one. -/
theorem twin_of_chars : ∀ (a b : Json) {s t : List Char}, Ends s → Ends t →
    chars a ++ s = chars b ++ t → Twin a b ∧ s = t
  | .null, _, _, _, hs, ht, h => twin_of_bare rfl hs ht h
  | .bool _, _, _, _, hs, ht, h => twin_of_bare rfl hs ht h
  | .int _, _, _, _, hs, ht, h => twin_of_bare rfl hs ht h
  | .float _, _, _, _, hs, ht, h => twin_of_bare rfl hs ht h
  | .str x, b, s, t, _, _, h => by
    have hopening := opening_eq h
    cases b with
    | str y =>
      obtain ⟨rfl, rfl⟩ := eq_of_stringChars h
      exact ⟨.str x, rfl⟩
    | _ => exact absurd hopening (by simp [opening])
  | .arr xs, b, s, t, _, _, h => by
    have hopening := opening_eq h
    cases b with
    | arr ys =>
      simp only [chars, List.cons_append, List.append_assoc, List.cons.injEq, true_and,
        List.nil_append] at h
      obtain ⟨hitems, rfl⟩ := twins_of_itemChars xs ys h
      exact ⟨.arr hitems, rfl⟩
    | _ => exact absurd hopening (by simp [opening])
  | .obj ms, b, s, t, _, _, h => by
    have hopening := opening_eq h
    cases b with
    | obj ns =>
      simp only [chars, List.cons_append, List.append_assoc, List.cons.injEq, true_and,
        List.nil_append] at h
      obtain ⟨hkeys, hvalues, rfl⟩ := twins_of_memberChars ms ns h
      exact ⟨.obj hkeys hvalues, rfl⟩
    | _ => exact absurd hopening (by simp [opening])

/-- The items of a list are read in one way only. -/
theorem twins_of_itemChars : ∀ (xs ys : List Json) {s t : List Char},
    itemChars xs ++ ']' :: s = itemChars ys ++ ']' :: t → List.Forall₂ Twin xs ys ∧ s = t
  | [], [], s, t, h => ⟨.nil, (List.cons.inj h).2⟩
  | [], y :: ys, s, t, h => by
    rw [itemChars_cons, List.append_assoc] at h
    exact absurd h.symm (chars_append_ne y _ s)
  | x :: xs, [], s, t, h => by
    rw [itemChars_cons, List.append_assoc] at h
    exact absurd h (chars_append_ne x _ t)
  | x :: xs, y :: ys, s, t, h => by
    rw [itemChars_cons, itemChars_cons, List.append_assoc, List.append_assoc] at h
    obtain ⟨hfirst, hlater⟩ := twin_of_chars x y (ends_laterItems xs s) (ends_laterItems ys t) h
    obtain ⟨hrest, rfl⟩ := twins_of_itemChars xs ys (items_of_laterItems hlater)
    exact ⟨.cons hfirst hrest, rfl⟩

/-- The members of an object are read in one way only. -/
theorem twins_of_memberChars : ∀ (ms ns : List (String × Json)) {s t : List Char},
    memberChars ms ++ '\x7d' :: s = memberChars ns ++ '\x7d' :: t →
      ms.map (·.1) = ns.map (·.1) ∧ List.Forall₂ Twin (ms.map (·.2)) (ns.map (·.2)) ∧ s = t
  | [], [], s, t, h => ⟨rfl, .nil, (List.cons.inj h).2⟩
  | [], (l, w) :: ns, s, t, h => by
    rw [memberChars_cons] at h
    exact absurd (List.cons.inj h).1 (by decide)
  | (k, v) :: ms, [], s, t, h => by
    rw [memberChars_cons] at h
    exact absurd (List.cons.inj h).1 (by decide)
  | (k, v) :: ms, (l, w) :: ns, s, t, h => by
    rw [memberChars_cons, memberChars_cons, List.append_assoc, List.append_assoc] at h
    obtain ⟨rfl, hcolon⟩ := eq_of_stringChars h
    simp only [List.cons_append, List.append_assoc, List.cons.injEq, true_and] at hcolon
    obtain ⟨hfirst, hlater⟩ :=
      twin_of_chars v w (ends_laterMembers ms s) (ends_laterMembers ns t) hcolon
    obtain ⟨hkeys, hvalues, rfl⟩ :=
      twins_of_memberChars ms ns (members_of_laterMembers hlater)
    exact ⟨by rw [List.map_cons, List.map_cons, hkeys], .cons hfirst hvalues, rfl⟩

end

/-! ## No control characters -/

/-- A text without control characters. -/
def Shown (cs : List Char) : Prop := ∀ c ∈ cs, 0x20 ≤ c.toNat

instance (cs : List Char) : Decidable (Shown cs) := List.decidableBAll _ cs

namespace Shown

/-- The empty text. -/
lemma nil : Shown [] := fun _ hc => absurd hc List.not_mem_nil

/-- A character before a text. -/
lemma cons {c : Char} {cs : List Char} (hc : 0x20 ≤ c.toNat) (h : Shown cs) : Shown (c :: cs) :=
  List.forall_mem_cons.mpr ⟨hc, h⟩

/-- Two texts one after the other. -/
lemma append {a b : List Char} (ha : Shown a) (hb : Shown b) : Shown (a ++ b) :=
  fun c hc => (List.mem_append.mp hc).elim (ha c) (hb c)

/-- Numbers, truth values and the null value. -/
lemma of_bareText {cs : List Char} (h : BareText cs) : Shown cs := by
  intro c hc
  have hbare := h c hc
  by_contra hlow
  have hall : ∀ n < 0x20, isBareChar (Char.ofNat n) = false := by decide
  rw [← Char.ofNat_toNat c, hall _ (by omega)] at hbare
  exact Bool.noConfusion hbare

/-- A character inside a text. -/
lemma escapedChar (c : Char) : Shown (escapedChar c) := by
  have hcode : ∀ n < 0x20, Shown
      ['\\', 'u', '0', '0', Nat.digitChar (n / 16), Nat.digitChar (n % 16)] := by decide
  unfold Json.escapedChar
  split_ifs with h₁ h₂ h₃ h₄ h₅ h₆ h₇ hlow
  iterate 7 decide
  · exact hcode _ hlow
  · exact .cons (Nat.le_of_not_lt hlow) .nil

/-- A text between quotes. -/
lemma stringChars (s : String) : Shown (stringChars s) := by
  have hinside : Shown (s.toList.flatMap Json.escapedChar) := fun c hc => by
    obtain ⟨d, -, hd⟩ := List.mem_flatMap.mp hc
    exact escapedChar d c hd
  exact (hinside.cons (by decide)).append (by decide)

end Shown

mutual

/-- **The text of a value holds no control characters.** -/
theorem shown_chars : ∀ a : Json, Shown (chars a)
  | .null => .of_bareText (bareText_chars rfl)
  | .bool _ => .of_bareText (bareText_chars rfl)
  | .int _ => .of_bareText (bareText_chars rfl)
  | .float _ => .of_bareText (bareText_chars rfl)
  | .str s => .stringChars s
  | .arr items => ((shown_itemChars items).cons (by decide)).append (by decide)
  | .obj members => ((shown_memberChars members).cons (by decide)).append (by decide)

/-- Nor does that of the items of a list. -/
theorem shown_itemChars : ∀ items : List Json, Shown (itemChars items)
  | [] => .nil
  | [j] => shown_chars j
  | j :: next :: rest => (shown_chars j).append ((shown_itemChars (next :: rest)).cons (by decide))

/-- Nor does that of the members of an object. -/
theorem shown_memberChars : ∀ members : List (String × Json), Shown (memberChars members)
  | [] => .nil
  | [(k, v)] => (Shown.stringChars k).append ((shown_chars v).cons (by decide))
  | (k, v) :: next :: rest =>
    ((Shown.stringChars k).append ((shown_chars v).cons (by decide))).append
      ((shown_memberChars (next :: rest)).cons (by decide))

end

end QueryGate.Json
