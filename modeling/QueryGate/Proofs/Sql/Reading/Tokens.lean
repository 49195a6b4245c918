import Mathlib.Data.List.TakeWhile
import QueryGate.Proofs.Sql.Pieces
import QueryGate.Sql.Token

set_option relaxedAutoImplicit false
set_option autoImplicit false
-- Deciding which token a character opens runs through the tables of letters.
set_option maxRecDepth 10000

/-!
# Single tokens and fixed words

How the scanner reads a text that begins with one token, and one that begins with fixed words. A
word, a number, a quoted name or a place ends where the text goes on with a character that cannot
belong to it. A border says what stands before a place in a text, and so which characters may come
after it.

## Main definitions

* `QueryGate.Sql.Scan.Border` — what stands before a place in a text.
* `QueryGate.Sql.Scan.cut?` — the tokens of fixed words, where none of them depends on what comes
  after.

## Main results

* `QueryGate.Sql.Scan.tokens?_word`, `QueryGate.Sql.Scan.tokens?_number`,
  `QueryGate.Sql.Scan.tokens?_name`, `QueryGate.Sql.Scan.tokens?_place` — single tokens.
* `QueryGate.Sql.Scan.tokens?_of_cut?` — fixed words have the same tokens before any text that may
  come after them.
-/

namespace QueryGate.Sql

namespace Scan

/-! ## What comes next -/

/-- What stands before a place in a text, as far as it matters to what comes next. -/
inductive Border
  /-- A blank or a sign: anything may come. -/
  | free
  /-- A bare word. -/
  | word
  /-- A number. -/
  | number
  /-- A quoted name. -/
  | name
  /-- A point. -/
  | point
  /-- The place of a literal. -/
  | place
  deriving DecidableEq

/-- The characters that do not belong to what stands before. -/
def Border.allows : Border → Char → Bool
  | free, _ => true
  | word, c => !staysInWord c && c ≠ '\''
  | number, c => !c.isDigit && !(['.', 'e', 'E', 'L', 'x'].contains c)
  | name, c => c ≠ '"'
  | point, c => !c.isDigit
  | place, c => !Text.isNumeral c

/-- A text that does not begin with what belongs to what stands before. -/
def Border.admits (b : Border) (cs : List Char) : Prop := ∀ c ∈ cs.head?, b.allows c = true

/-- A run of characters ends where a text begins with another one. -/
lemma takeWhile_append_of_head {p : Char → Bool} {run rest : List Char}
    (hrun : ∀ c ∈ run, p c = true) (hrest : ∀ c ∈ rest.head?, p c = false) :
    (run ++ rest).takeWhile p = run ∧ (run ++ rest).dropWhile p = rest := by
  rw [List.takeWhile_append_of_pos hrun, List.dropWhile_append_of_pos hrun]
  cases rest with
  | nil => simp
  | cons c cs => simp [hrest c rfl]

/-! ## Single tokens -/

/-- A text is read token by token. -/
lemma tokens?_of_next? {c : Char} {cs rest : List Char} {t : Option Token}
    (h : next? c cs = some (t, rest)) (hrest : rest.length ≤ cs.length) :
    tokens? (c :: cs) = (tokens? rest).map (t.toList ++ ·) := by
  rw [tokens?.eq_def]
  simp only [h]
  exact if_pos hrest

/-- White space is no token. -/
lemma tokens?_blank {c : Char} (hc : Text.isBlank c = true) (rest : List Char) :
    tokens? (c :: rest) = tokens? rest := by
  have hnext : next? c rest = some (none, rest) := if_pos hc
  rw [tokens?_of_next? hnext (Nat.le_refl _)]
  simp

/-- The signs that no other sign begins with. -/
def lonelySigns : List Char := ['(', ')', ',', '*']

/-- A sign that no other sign begins with. -/
lemma tokens?_lonely {c : Char} (hc : c ∈ lonelySigns) (rest : List Char) :
    tokens? (c :: rest) = (tokens? rest).map (.sign (String.singleton c) :: ·) := by
  have hnext : next? c rest = some (some (.sign (String.singleton c)), rest) := by
    simp only [lonelySigns, List.mem_cons, List.not_mem_nil, or_false] at hc
    rcases hc with rfl | rfl | rfl | rfl <;> rfl
  exact tokens?_of_next? hnext (Nat.le_refl _)

/-- The signs that are told from longer ones by a blank. -/
def spacedSigns : List String := ["=", ">=", "<=", ">", "<", "-", "/"]

/-- A sign before a blank. -/
lemma tokens?_spaced {s : String} (hs : s ∈ spacedSigns) (rest : List Char) :
    tokens? (s.toList ++ ' ' :: rest) = (tokens? rest).map (.sign s :: ·) := by
  have hnext : ∃ c cs, s.toList = c :: cs ∧
      next? c (cs ++ ' ' :: rest) = some (some (.sign s), ' ' :: rest) := by
    simp only [spacedSigns, List.mem_cons, List.not_mem_nil, or_false] at hs
    rcases hs with rfl | rfl | rfl | rfl | rfl | rfl | rfl <;> exact ⟨_, _, rfl, rfl⟩
  obtain ⟨c, cs, hchars, hnext⟩ := hnext
  rw [hchars, List.cons_append, tokens?_of_next? hnext (by simp),
    tokens?_blank rfl]
  rfl

/-- A letter opens a bare word, unless a quote comes next. -/
lemma lettered?_eq {c : Char} {cs : List Char} (hcs : ∀ d ∈ cs.head?, d ≠ '\'') :
    lettered? c cs = some (word (c :: cs)) := by
  unfold lettered?
  split
  · exact absurd rfl (hcs '\'' rfl)
  · exact absurd rfl (hcs '\'' rfl)
  · exact absurd rfl (hcs '\'' rfl)
  · rfl

/-- The token that a run of letters is. -/
def bareWord (cs : List Char) : Token :=
  .word (String.ofList (cs.flatMap upper)) (cs = cs.flatMap upper)

/-- The letters of bare words here. -/
def isPlain (c : Char) : Bool := c.isAlpha || c == '_'

/-- These letters open bare words, and stand in them. -/
lemma plain_letter {c : Char} (hc : isPlain c = true) :
    Text.isBlank c = false ∧ opensWord c = true ∧ staysInWord c = true := by
  have hascii : ∀ n < 0x80, isPlain (Char.ofNat n) = true →
      Text.isBlank (Char.ofNat n) = false ∧ opensWord (Char.ofNat n) = true ∧
        staysInWord (Char.ofNat n) = true := by decide +kernel
  have hlt : c.toNat < 0x80 := by
    rcases Bool.or_eq_true_iff.mp hc with hc | hc
    · exact lt_of_isAlphanum (by simp [Char.isAlphanum, hc])
    · obtain rfl := beq_iff_eq.mp hc
      decide
  simpa using hascii c.toNat hlt (by simpa using hc)

/-- A bare word ends where no character of it can follow. -/
lemma tokens?_word {c : Char} {cs rest : List Char} (hcs : ∀ d ∈ c :: cs, isPlain d = true)
    (hrest : Border.word.admits rest) :
    tokens? (c :: (cs ++ rest)) = (tokens? rest).map (bareWord (c :: cs) :: ·) := by
  have hend : ∀ d ∈ rest.head?, staysInWord d = false ∧ d ≠ '\'' := by
    intro d hd
    simpa [Border.allows] using hrest d hd
  have hword : word (c :: (cs ++ rest)) = (bareWord (c :: cs), rest) := by
    have hrun := takeWhile_append_of_head (fun d hd => (plain_letter (hcs d hd)).2.2)
      fun d hd => (hend d hd).1
    rw [word, ← List.cons_append, hrun.1, hrun.2, bareWord]
  have hquote : ∀ d ∈ (cs ++ rest).head?, d ≠ '\'' := by
    cases cs with
    | nil => exact fun d hd => (hend d hd).2
    | cons d cs =>
      intro e he
      obtain rfl := Option.some.inj he
      rintro rfl
      exact absurd (hcs '\'' (by simp)) (by decide)
  obtain ⟨hblank, hopens, -⟩ := plain_letter (hcs c List.mem_cons_self)
  have hnext : next? c (cs ++ rest) = some (some (bareWord (c :: cs)), rest) := by
    show (if Text.isBlank c = true then _ else if opensWord c = true then _ else _) = _
    rw [if_neg (Bool.eq_false_iff.mp hblank), if_pos hopens, lettered?_eq hquote, hword]
    rfl
  exact tokens?_of_next? hnext (by simp)

/-- A point that does not stand before a digit. -/
lemma tokens?_point {rest : List Char} (hrest : Border.point.admits rest) :
    tokens? ('.' :: rest) = (tokens? rest).map (.sign "." :: ·) := by
  have hnumber : number ('.' :: rest) = (.sign ".", rest) := by
    have hdigit : rest.head?.any Char.isDigit = false := by
      cases rest with
      | nil => rfl
      | cons c cs => simpa [Border.allows] using hrest c rfl
    simp [number, hdigit]
  have hnext : next? '.' rest = some (some (.sign "."), rest) := by
    show some (some (number ('.' :: rest)).1, (number ('.' :: rest)).2) = _
    rw [hnumber]
  exact tokens?_of_next? hnext (Nat.le_refl _)

/-- No word begins with a digit. -/
lemma opensWord_of_isDigit {d : Char} (hd : d.isDigit = true) : opensWord d = false := by
  have hnumeral : Text.isNumeral d = true := by
    have hrange : 48 ≤ d.toNat ∧ d.toNat ≤ 57 := by
      simpa [Char.isDigit, UInt32.le_iff_toNat_le] using hd
    simp [Text.isNumeral, Text.inRanges, Text.numeralRanges, hrange]
  have hline : d ≠ '_' := by
    rintro rfl
    exact absurd hd (by decide)
  simp [opensWord, Text.isLetter, hnumeral, hline]

/-- No exponent stands where there is no `e`. -/
lemma afterExponent_eq {cs : List Char} (h : ∀ c ∈ cs.head?, c ≠ 'e' ∧ c ≠ 'E') :
    afterExponent cs = cs := by
  cases cs with
  | nil => rfl
  | cons c cs => simp [afterExponent, h c rfl]

/-- A run of digits is a whole number where nothing of a number can follow. -/
lemma number_eq {ds rest : List Char} (hnil : ds ≠ []) (hds : ∀ d ∈ ds, d.isDigit = true)
    (hrest : Border.number.admits rest) :
    number (ds ++ rest) = (.number (String.ofList ds) false, rest) := by
  have hend : ∀ c ∈ rest.head?, c.isDigit = false ∧ c ≠ '.' ∧ c ≠ 'e' ∧ c ≠ 'E' ∧ c ≠ 'L' ∧
      c ≠ 'x' := by
    intro c hc
    simpa [Border.allows] using hrest c hc
  obtain ⟨htake, hdrop⟩ := takeWhile_append_of_head hds fun c hc => (hend c hc).1
  have hpoint : rest.head? ≠ some '.' := fun h => (hend '.' h).2.1 rfl
  have hnone : ∀ d ∈ ([] : List Char), d.isDigit = true := nofun
  have hdigits : rest.dropWhile Char.isDigit = rest :=
    (takeWhile_append_of_head hnone fun c hc => (hend c hc).1).2
  have hexponent : afterExponent rest = rest :=
    afterExponent_eq fun c hc => ⟨(hend c hc).2.2.1, (hend c hc).2.2.2.1⟩
  have htext : (ds ++ rest).take ((ds ++ rest).length - rest.length) = ds := by simp
  unfold number
  simp only [htake, hdrop]
  split
  · next more _ => exact absurd rfl (hend 'x' rfl).2.2.2.2.2
  · rw [if_neg hpoint, if_neg fun h => hnil h.1, hdigits, hexponent, htext]
    split
    · exact absurd rfl (hend 'L' rfl).2.2.2.2.1
    · rfl

/-- A whole number. -/
lemma tokens?_number {d : Char} {ds rest : List Char} (hds : ∀ c ∈ d :: ds, c.isDigit = true)
    (hrest : Border.number.admits rest) :
    tokens? (d :: (ds ++ rest)) =
      (tokens? rest).map (.number (String.ofList (d :: ds)) false :: ·) := by
  have hd := hds d List.mem_cons_self
  have hblank : Text.isBlank d = false :=
    isBlank_eq_false_of_letter (.inl (by simp [Char.isAlphanum, hd]))
  have hnumber := number_eq (List.cons_ne_nil d ds) hds hrest
  have hnext : next? d (ds ++ rest) =
      some (some (.number (String.ofList (d :: ds)) false), rest) := by
    show (if Text.isBlank d = true then _ else if opensWord d = true then _ else
      if d.isDigit = true ∨ d = '.' then
        some (some (number (d :: (ds ++ rest))).1, (number (d :: (ds ++ rest))).2) else _) = _
    rw [if_neg (Bool.eq_false_iff.mp hblank),
      if_neg (Bool.eq_false_iff.mp (opensWord_of_isDigit hd)), if_pos (.inl hd),
      ← List.cons_append, hnumber]
  exact tokens?_of_next? hnext (by simp)

/-- The place of a literal. -/
lemma tokens?_place {rest : List Char} (hrest : Border.place.admits rest) :
    tokens? ('?' :: rest) = (tokens? rest).map (.place :: ·) := by
  have hnext : next? '?' rest = some (some .place, rest) := by
    show some (some Token.place, rest.dropWhile Text.isNumeral) = _
    cases rest with
    | nil => rfl
    | cons c cs =>
      have hc : Text.isNumeral c = false := by simpa [Border.allows] using hrest c rfl
      rw [List.dropWhile_cons_of_neg (Bool.eq_false_iff.mp hc)]
  exact tokens?_of_next? hnext (Nat.le_refl _)

/-- What stands before a closing quote, where no quote comes after it. -/
lemma untilQuote?_append {q : Char} : ∀ {cs rest : List Char}, q ∉ cs → (∀ c ∈ rest.head?, c ≠ q) →
    untilQuote? q (cs ++ q :: rest) = some (cs, rest)
  | [], [], _, _ => by simp [untilQuote?]
  | [], c :: rest, _, hrest => by
    have hc : c ≠ q := hrest c rfl
    simp [untilQuote?, hc]
  | c :: cs, rest, hcs, hrest => by
    have hc : c ≠ q := fun h => hcs (h ▸ List.mem_cons_self)
    have ih := untilQuote?_append (fun h => hcs (List.mem_cons_of_mem c h)) hrest
    obtain ⟨d, ds, hmore⟩ : ∃ d ds, cs ++ q :: rest = d :: ds :=
      List.exists_cons_of_ne_nil (by simp)
    rw [List.cons_append, hmore, untilQuote?, if_neg hc, ← hmore, ih]
    rfl

/-- A quoted name. -/
lemma tokens?_name {cs rest : List Char} (hcs : '"' ∉ cs) (hrest : Border.name.admits rest) :
    tokens? ('"' :: (cs ++ '"' :: rest)) =
      (tokens? rest).map (.quoted '"' (String.ofList cs) :: ·) := by
  have huntil : untilQuote? '"' (cs ++ '"' :: rest) = some (cs, rest) := by
    refine untilQuote?_append hcs fun c hc => ?_
    simpa [Border.allows] using hrest c hc
  have hnext : next? '"' (cs ++ '"' :: rest) =
      some (some (.quoted '"' (String.ofList cs)), rest) := by
    show (untilQuote? '"' (cs ++ '"' :: rest)).map _ = _
    rw [huntil]
    rfl
  exact tokens?_of_next? hnext (by simp; omega)

/-! ## Fixed words -/

/-- A token before others. -/
def before (t : Token) : Option (List Token × Border) → Option (List Token × Border) :=
  Option.map fun (ts, b) => (t :: ts, b)

/-- The tokens of fixed words, where none of them depends on what comes after, and what they leave
behind. `n` bounds the number of tokens and blanks. -/
def cut? : Nat → Border → List Char → Option (List Token × Border)
  | _, b, [] => some ([], b)
  | 0, _, _ :: _ => none
  | n + 1, _, c :: cs =>
    if c = ' ' then cut? n .free cs
    else if lonelySigns.contains c then before (.sign (String.singleton c)) (cut? n .free cs)
    else if isPlain c then
      if (cs.dropWhile isPlain).head?.all [' ', ',', '(', ')', '.'].contains then
        before (bareWord (c :: cs.takeWhile isPlain)) (cut? n .word (cs.dropWhile isPlain))
      else none
    else if c.isDigit then
      if (cs.dropWhile Char.isDigit).head?.all [' ', ',', ')'].contains then
        before (.number (String.ofList (c :: cs.takeWhile Char.isDigit)) false)
          (cut? n .number (cs.dropWhile Char.isDigit))
      else none
    else if c = '.' then
      if cs.head?.all Border.point.allows then before (.sign ".") (cut? n .point cs) else none
    else
      match spacedSigns.find? fun s => (s.toList ++ [' ']).isPrefixOf (c :: cs) with
      | some s => before (.sign s) (cut? n .free ((c :: cs).drop (s.length + 1)))
      | none => none

lemma before_eq_some {t : Token} {o : Option (List Token × Border)} {ts : List Token} {b : Border}
    (h : before t o = some (ts, b)) : ∃ more, o = some (more, b) ∧ ts = t :: more := by
  obtain ⟨⟨more, b'⟩, ho, heq⟩ := Option.map_eq_some_iff.mp h
  obtain ⟨rfl, rfl⟩ := Prod.mk.inj heq
  exact ⟨more, ho, rfl⟩

/-- What comes after the rest of some words does not belong to what stands before them either. -/
lemma admits_append {n : Nat} {b b' : Border} {w rest : List Char} {ts : List Token}
    (h : cut? n b w = some (ts, b')) (hw : b.admits w) (hrest : b'.admits rest) :
    b.admits (w ++ rest) := by
  cases w with
  | nil =>
    obtain ⟨-, rfl⟩ : [] = ts ∧ b = b' := by
      cases n <;> simpa [cut?] using h
    exact hrest
  | cons c cs => exact hw

/-- The characters that a check on the head of a text lets through. -/
lemma admits_of_head {b : Border} {p : Char → Bool} (hp : ∀ c, p c = true → b.allows c = true)
    {cs : List Char} (h : cs.head?.all p = true) : b.admits cs := by
  intro c hc
  rw [Option.mem_def.mp hc] at h
  exact hp c h

/-- The characters that may stand behind bare words belong to none. -/
lemma allows_of_contains {b : Border} {ends : List Char} (hends : ends.all b.allows = true)
    (c : Char) (h : ends.contains c = true) : b.allows c = true :=
  List.all_eq_true.mp hends c (List.contains_iff_mem.mp h)

/-- **The tokens of fixed words** do not depend on what comes after them.

**Proof sketch.** Induction on the number of tokens. Each of them ends where the words go on with a
character that cannot belong to it, or where the words end, and then the text after them goes on
so. -/
theorem tokens?_of_cut? : ∀ {n : Nat} {b b' : Border} {w : List Char} {ts : List Token},
    cut? n b w = some (ts, b') → ∀ {rest : List Char}, b'.admits rest →
      tokens? (w ++ rest) = (tokens? rest).map (ts ++ ·) := by
  intro n
  induction n with
  | zero =>
    intro b b' w ts h rest hrest
    cases w with
    | nil =>
      obtain ⟨rfl, -⟩ : [] = ts ∧ b = b' := by simpa [cut?] using h
      simp
    | cons c cs => exact absurd h nofun
  | succ n ih =>
    intro b b' w ts h rest hrest
    cases w with
    | nil =>
      obtain ⟨rfl, -⟩ : [] = ts ∧ b = b' := by simpa [cut?] using h
      simp
    | cons c cs =>
      rw [cut?] at h
      split_ifs at h with hblank hlonely hplain hend hdigit hend hdot hend
      · subst hblank
        rw [List.cons_append, tokens?_blank rfl, ih h hrest]
      · obtain ⟨more, hmore, rfl⟩ := before_eq_some h
        rw [List.cons_append, tokens?_lonely (List.contains_iff_mem.mp hlonely), ih hmore hrest]
        simp [Function.comp_def]
      · obtain ⟨more, hmore, rfl⟩ := before_eq_some h
        have hhead : Border.word.admits (cs.dropWhile isPlain) :=
          admits_of_head (allows_of_contains (by decide)) hend
        have hword := admits_append hmore hhead hrest
        have hall : ∀ d ∈ c :: cs.takeWhile isPlain, isPlain d = true :=
          List.forall_mem_cons.mpr ⟨hplain, fun d hd => List.mem_takeWhile_imp hd⟩
        have htokens := tokens?_word hall hword
        rw [← List.append_assoc, List.takeWhile_append_dropWhile, ih hmore hrest] at htokens
        rw [List.cons_append, htokens]
        simp [Function.comp_def]
      · obtain ⟨more, hmore, rfl⟩ := before_eq_some h
        have hhead : Border.number.admits (cs.dropWhile Char.isDigit) :=
          admits_of_head (allows_of_contains (by decide)) hend
        have hnumber := admits_append hmore hhead hrest
        have hall : ∀ d ∈ c :: cs.takeWhile Char.isDigit, d.isDigit = true :=
          List.forall_mem_cons.mpr ⟨hdigit, fun d hd => List.mem_takeWhile_imp hd⟩
        have htokens := tokens?_number hall hnumber
        rw [← List.append_assoc, List.takeWhile_append_dropWhile, ih hmore hrest] at htokens
        rw [List.cons_append, htokens]
        simp [Function.comp_def]
      · obtain ⟨more, hmore, rfl⟩ := before_eq_some h
        have hpoint := admits_append hmore (admits_of_head (fun _ => id) hend) hrest
        subst hdot
        rw [List.cons_append, tokens?_point hpoint, ih hmore hrest]
        simp [Function.comp_def]
      · split at h
        · next s hfind =>
          obtain ⟨more, hmore, rfl⟩ := before_eq_some h
          have hsign : (s.toList ++ [' ']).isPrefixOf (c :: cs) = true := by
            simpa using List.find?_some hfind
          obtain ⟨after, hafter⟩ := List.isPrefixOf_iff_prefix.mp hsign
          have hdrop : (c :: cs).drop (s.length + 1) = after := by
            rw [← hafter, List.drop_left' (by simp [String.length_toList])]
          rw [hdrop] at hmore
          rw [← hafter, List.append_assoc, List.append_assoc, List.singleton_append,
            tokens?_spaced (List.mem_of_find?_eq_some hfind), ih hmore hrest]
          simp [Function.comp_def]
        · exact absurd h nofun

end Scan

end QueryGate.Sql
