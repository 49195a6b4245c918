import Mathlib.Data.List.Basic
import QueryGate.Text.Split

set_option relaxedAutoImplicit false
set_option autoImplicit false

/-!
# Cutting a text at a separator

What `Text.fieldsOf` does to texts put together from parts, and how the parts that a cut gives
stand in turn before and behind the separators. A cut is `List.splitOn`, so joining its parts gives
the text back and cutting joined parts gives the parts.

## Main definitions

* `QueryGate.Text.outside`, `QueryGate.Text.inside` — every other part of a cut, from the first
  and from the second.

## Main results

* `QueryGate.Text.fieldsOf_eq_splitOn` — a cut is the one of the library.
* `QueryGate.Text.fieldsOf_append` — text without separators joins the first part.
* `QueryGate.Text.fieldsOf_append_cons` — text without separators, ended by one, is a part.
* `QueryGate.Text.fieldsOf_append_sep` — a separator parts what the two sides are cut into.
* `QueryGate.Text.mem_of_mem_fieldsOf` — a part holds no new characters.
* `QueryGate.Text.fields_joined`, `QueryGate.Text.joined_fields` — cutting and joining.
* `QueryGate.Text.empty_mem_fields_iff` — when a part is empty.
* `QueryGate.Text.eq_of_last_sep` — the last separator tells what stands before it and behind it.
-/

namespace QueryGate.Text

variable {sep : Char}

/-- A cut is that of a list at each of its members that is the separator. -/
lemma fieldsOf_eq_splitOn (cs : List Char) : fieldsOf sep cs = cs.splitOn sep := by
  induction cs with
  | nil => rfl
  | cons c cs ih =>
    rw [fieldsOf, List.splitOn_cons_eq_if_modifyHead, ih]
    by_cases hc : c = sep
    · simp [hc]
    · rw [if_neg hc, if_neg (by simpa using hc)]
      cases hf : cs.splitOn sep with
      | nil => exact absurd hf (List.splitOn_ne_nil sep cs)
      | cons field rest => rfl

/-- A cut has at least one part. -/
lemma fieldsOf_ne_nil (cs : List Char) : fieldsOf sep cs ≠ [] := by
  rw [fieldsOf_eq_splitOn]
  exact List.splitOn_ne_nil sep cs

/-- A character that is no separator joins the first part. -/
lemma fieldsOf_cons_of_ne {c : Char} (h : c ≠ sep) (cs : List Char) :
    fieldsOf sep (c :: cs) = (fieldsOf sep cs).modifyHead (c :: ·) := by
  rw [fieldsOf_eq_splitOn, fieldsOf_eq_splitOn, List.splitOn_cons_eq_if_modifyHead,
    if_neg (by simpa using h)]

/-- A separator ends an empty part. -/
lemma fieldsOf_cons_self (cs : List Char) : fieldsOf sep (sep :: cs) = [] :: fieldsOf sep cs := by
  rw [fieldsOf, if_pos rfl]

/-- Text without separators joins the first part of what follows. -/
lemma fieldsOf_append : ∀ (part cs : List Char), sep ∉ part →
    fieldsOf sep (part ++ cs) = (fieldsOf sep cs).modifyHead (part ++ ·)
  | [], cs, _ => by
    cases hf : fieldsOf sep cs with
    | nil => exact absurd hf (fieldsOf_ne_nil cs)
    | cons field rest => simp [hf]
  | c :: part, cs, h => by
    rw [List.mem_cons, not_or] at h
    rw [List.cons_append, fieldsOf_cons_of_ne (Ne.symm h.1), fieldsOf_append part cs h.2]
    cases fieldsOf sep cs <;> rfl

/-- Text without separators, ended by one, is a part of its own. -/
lemma fieldsOf_append_cons (part cs : List Char) (h : sep ∉ part) :
    fieldsOf sep (part ++ sep :: cs) = part :: fieldsOf sep cs := by
  rw [fieldsOf_eq_splitOn, fieldsOf_eq_splitOn, List.splitOn_append_cons_self_of_not_mem h]

/-- A separator parts what the two sides are cut into. -/
lemma fieldsOf_append_sep (cs ds : List Char) :
    fieldsOf sep (cs ++ sep :: ds) = fieldsOf sep cs ++ fieldsOf sep ds := by
  simp only [fieldsOf_eq_splitOn, List.splitOn_append_cons_self]

/-- Text without separators is one part. -/
lemma fieldsOf_of_not_mem {part : List Char} (h : sep ∉ part) : fieldsOf sep part = [part] := by
  rw [fieldsOf_eq_splitOn, List.splitOn_eq_singleton h]

/-- A part of a cut holds only characters of the text. -/
lemma mem_of_mem_fieldsOf {c : Char} : ∀ {cs part : List Char}, part ∈ fieldsOf sep cs →
    c ∈ part → c ∈ cs
  | [], part, h, hc => by
    rw [fieldsOf, List.mem_singleton] at h
    simp [h] at hc
  | d :: cs, part, h, hc => by
    by_cases hd : d = sep
    · rw [hd, fieldsOf_cons_self, List.mem_cons] at h
      rcases h with rfl | h
      · simp at hc
      · exact List.mem_cons_of_mem _ (mem_of_mem_fieldsOf h hc)
    · rw [fieldsOf_cons_of_ne hd] at h
      cases hf : fieldsOf sep cs with
      | nil => exact absurd hf (fieldsOf_ne_nil cs)
      | cons field rest =>
        rw [hf, List.modifyHead_cons, List.mem_cons] at h
        rcases h with rfl | h
        · rcases List.mem_cons.mp hc with rfl | hc
          · exact List.mem_cons_self
          · exact List.mem_cons_of_mem _ (mem_of_mem_fieldsOf (hf ▸ List.mem_cons_self) hc)
        · exact List.mem_cons_of_mem _ (mem_of_mem_fieldsOf (hf ▸ List.mem_cons_of_mem _ h) hc)

/-- A part of a text holds only characters of the text. -/
lemma mem_of_mem_fields {c : Char} {text part : String} (h : part ∈ fields sep text)
    (hc : c ∈ part.toList) : c ∈ text.toList := by
  obtain ⟨cs, hcs, rfl⟩ := List.mem_map.mp h
  exact mem_of_mem_fieldsOf hcs (by simpa using hc)

/-- No part of a cut holds a separator. -/
lemma not_mem_of_mem_fieldsOf : ∀ {cs part : List Char}, part ∈ fieldsOf sep cs → sep ∉ part
  | [], part, h => by simp [List.mem_singleton.mp h]
  | d :: cs, part, h => by
    by_cases hd : d = sep
    · rw [hd, fieldsOf_cons_self, List.mem_cons] at h
      rcases h with rfl | h
      · simp
      · exact not_mem_of_mem_fieldsOf h
    · rw [fieldsOf_cons_of_ne hd] at h
      cases hf : fieldsOf sep cs with
      | nil => exact absurd hf (fieldsOf_ne_nil cs)
      | cons field rest =>
        rw [hf, List.modifyHead_cons, List.mem_cons] at h
        rcases h with rfl | h
        · have hfield : sep ∉ field := not_mem_of_mem_fieldsOf (hf ▸ List.mem_cons_self)
          simp [Ne.symm hd, hfield]
        · exact not_mem_of_mem_fieldsOf (hf ▸ List.mem_cons_of_mem _ h)

/-- No part of a text holds a separator. -/
lemma not_mem_of_mem_fields {text part : String} (h : part ∈ fields sep text) :
    sep ∉ part.toList := by
  obtain ⟨cs, hcs, rfl⟩ := List.mem_map.mp h
  simpa using not_mem_of_mem_fieldsOf hcs

/-- Joined texts are cut into themselves, if there are any and none holds a separator. -/
lemma fields_joined {texts : List String} (hne : texts ≠ []) (h : ∀ t ∈ texts, sep ∉ t.toList) :
    fields sep (joined (String.singleton sep) texts) = texts := by
  have hparts : ∀ part ∈ texts.map String.toList, sep ∉ part := by simpa using h
  rw [fields, joined, String.toList_intercalate, String.toList_singleton, fieldsOf_eq_splitOn,
    List.splitOn_intercalate sep hparts (by simpa using hne), List.map_map]
  simp

/-- The parts of a text, joined, are the text. -/
lemma joined_fields (s : String) : joined (String.singleton sep) (fields sep s) = s := by
  rw [← String.toList_inj, joined, String.toList_intercalate, String.toList_singleton, fields,
    List.map_map, fieldsOf_eq_splitOn]
  simp [Function.comp_def, List.intercalate_splitOn]

/-! ## Empty parts -/

/-- An empty part is the first one, where nothing stands before the first separator, or a later
one. -/
lemma nil_mem_fieldsOf_iff_tail (cs : List Char) : [] ∈ fieldsOf sep cs ↔
    (cs = [] ∨ cs.head? = some sep) ∨ [] ∈ (fieldsOf sep cs).tail := by
  cases cs with
  | nil => simp [fieldsOf]
  | cons c cs =>
    by_cases hc : c = sep
    · simp [hc, fieldsOf_cons_self]
    · rw [fieldsOf_cons_of_ne hc]
      cases fieldsOf sep cs <;> simp [hc]

/-- A later part is empty exactly where a separator ends the text or stands before another one. -/
lemma nil_mem_tail_fieldsOf_iff (cs : List Char) : [] ∈ (fieldsOf sep cs).tail ↔
    cs.getLast? = some sep ∨ [sep, sep] <:+: cs := by
  induction cs with
  | nil => simp [fieldsOf]
  | cons c cs ih =>
    have hlast : (c :: cs).getLast? = some sep ↔ (cs = [] ∧ c = sep) ∨ cs.getLast? = some sep := by
      cases cs <;> simp
    have hnext : [sep] <+: cs ↔ cs.head? = some sep := by
      rw [List.head?_eq_some_iff]
      exact exists_congr fun _ => eq_comm
    have hpair : [sep, sep] <:+: c :: cs ↔
        (sep = c ∧ cs.head? = some sep) ∨ [sep, sep] <:+: cs := by
      rw [List.infix_cons_iff, List.cons_prefix_cons, hnext]
    rw [hlast, hpair]
    by_cases hc : c = sep
    · -- The parts behind the first one are all the parts of the rest, the first among them.
      rw [hc, fieldsOf_cons_self, List.tail_cons, nil_mem_fieldsOf_iff_tail, ih, or_or_or_comm,
        eq_self_iff_true, and_true, true_and]
    · rw [fieldsOf_cons_of_ne hc, List.tail_modifyHead, ih]
      simp [hc, Ne.symm hc]

/-- A text has an empty part exactly when it is empty, or a separator stands at one of its ends or
before another one. -/
lemma empty_mem_fields_iff {s : String} : "" ∈ fields sep s ↔ s = "" ∨
    s.toList.head? = some sep ∨ s.toList.getLast? = some sep ∨ [sep, sep] <:+: s.toList := by
  have hmem : "" ∈ fields sep s ↔ [] ∈ fieldsOf sep s.toList := by
    simp [fields, ← String.toList_inj]
  rw [hmem, nil_mem_fieldsOf_iff_tail, nil_mem_tail_fieldsOf_iff, String.toList_eq_nil_iff,
    or_assoc]

/-! ## The last separator -/

/-- Two texts with a separator that is not found again behind it are told apart by what is before
it and behind it. -/
lemma eq_of_append_sep {xs ys : List Char} : ∀ {as bs : List Char}, sep ∉ xs → sep ∉ ys →
    as ++ sep :: xs = bs ++ sep :: ys → as = bs ∧ xs = ys
  | [], [], _, _, h => ⟨rfl, (List.cons.inj h).2⟩
  | [], _ :: bs, hxs, _, h => by
    have hrest := (List.cons.inj h).2
    exact absurd (hrest ▸ List.mem_append_right bs List.mem_cons_self) hxs
  | _ :: as, [], _, hys, h => by
    have hrest := (List.cons.inj h).2
    exact absurd (hrest ▸ List.mem_append_right as List.mem_cons_self) hys
  | _ :: as, _ :: bs, hxs, hys, h => by
    obtain ⟨hfirst, hrest⟩ := List.cons.inj h
    obtain ⟨rfl, hend⟩ := eq_of_append_sep hxs hys hrest
    exact ⟨by rw [hfirst], hend⟩

/-- The last separator of a text tells what stands before it and behind it. -/
lemma eq_of_last_sep {a b x y : String} (hx : sep ∉ x.toList) (hy : sep ∉ y.toList)
    (h : a ++ String.singleton sep ++ x = b ++ String.singleton sep ++ y) : a = b ∧ x = y := by
  have hlist := congrArg String.toList h
  simp only [String.toList_append, String.toList_singleton, List.append_assoc,
    List.singleton_append] at hlist
  obtain ⟨hstart, hend⟩ := eq_of_append_sep hx hy hlist
  exact ⟨String.toList_inj.mp hstart, String.toList_inj.mp hend⟩

/-! ## Parts in turn -/

/-- Every other part, from the first: where parts stand in turn outside and inside, those
outside. -/
def outside {α : Type} : List α → List α
  | [] => []
  | [a] => [a]
  | a :: _ :: rest => a :: outside rest

/-- Every other part, from the second: where parts stand in turn outside and inside, those
inside. -/
def inside {α : Type} : List α → List α
  | [] => []
  | [_] => []
  | _ :: b :: rest => b :: inside rest

/-- A change of the first part changes nothing inside. -/
lemma inside_modifyHead {α : Type} (f : α → α) :
    ∀ parts : List α, inside (parts.modifyHead f) = inside parts
  | [] => rfl
  | [_] => rfl
  | _ :: _ :: _ => rfl

/-- A change of the first part changes the first part outside. -/
lemma outside_modifyHead {α : Type} (f : α → α) :
    ∀ parts : List α, outside (parts.modifyHead f) = (outside parts).modifyHead f
  | [] => rfl
  | [_] => rfl
  | _ :: _ :: _ => rfl

/-- Parts translated one by one are translated inside. -/
lemma inside_map {α β : Type} (f : α → β) :
    ∀ parts : List α, inside (parts.map f) = (inside parts).map f
  | [] => rfl
  | [_] => rfl
  | _ :: b :: rest => by
    simp only [List.map_cons, inside]
    rw [inside_map f rest]

/-- Parts translated one by one are translated outside. -/
lemma outside_map {α β : Type} (f : α → β) :
    ∀ parts : List α, outside (parts.map f) = (outside parts).map f
  | [] => rfl
  | [_] => rfl
  | a :: _ :: rest => by
    simp only [List.map_cons, outside]
    rw [outside_map f rest]

end QueryGate.Text
