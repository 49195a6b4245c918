import QueryGate.Proofs.Sql.Quoting

set_option relaxedAutoImplicit false
set_option autoImplicit false

/-!
# How tables are referred to

A statement refers to a table by the parts of its name between the dots, each between double
quotes. A reference gives the name back, so no two tables share one. The parts of a name are not
empty, unless it begins or ends with a dot: the rules for names keep dots apart from one another,
but not away from the ends, and such a table is referred to by a part without a name.

## Main definitions

* `QueryGate.Sql.Qualified` — a text is a name written in parts.
* `QueryGate.Sql.RefersTo` — a text refers to a table by its name.

## Main results

* `QueryGate.Sql.Qualified.inside_eq`, `QueryGate.Sql.Qualified.name_unique` — such a text gives the
  parts and the name back.
* `QueryGate.Ident.table_refersTo_iff` — which tables are referred to by their names.
* `QueryGate.Ident.not_refersTo_endingDot` — not all of them are.
-/

namespace QueryGate

open Sql

namespace Sql

/-! ## Names written in parts -/

/-- A text is a name written in parts over the alphabet of names, each between double quotes, with
dots between them. -/
structure Qualified (name : String) (parts : List String) (text : String) : Prop where
  /-- Every character is an ASCII letter or digit, an underscore, a dot or a hyphen. -/
  alphabet : ∀ part ∈ parts, ∀ c ∈ part.toList,
    c.isAlphanum = true ∨ c = '_' ∨ c = '.' ∨ c = '-'
  /-- The parts between quotes make up the text. -/
  text_eq : text = Text.joined "." (parts.map fun part => "\"" ++ part ++ "\"")
  /-- The parts make up the name. -/
  name_eq : Text.joined "." parts = name

/-- A text refers to a table by its name: it is the name written in parts, and none of them is
empty. -/
def RefersTo (text name : String) : Prop :=
  ∃ parts, Qualified name parts text ∧ ∀ part ∈ parts, part ≠ ""

namespace Qualified

variable {name other text : String} {parts : List String}

/-- The parts are what stands between the quotes. -/
lemma inside_eq (h : Qualified name parts text) :
    Text.inside (Text.fields '"' text) = parts := by
  have hletters : ∀ part ∈ parts, part.toList.all isNameChar = true :=
    fun part hpart => all_isNameChar_iff.mpr (h.alphabet part hpart)
  have hdrawn : Drawn False [] (sepBy "." (parts.map fun part => [.quoted part])) :=
    drawn_sepBy_quoted (by decide) hletters
  have hquotes := quotes_render hdrawn
  rw [names_sepBy_quoted, render_sepBy_quoted, ← h.text_eq] at hquotes
  exact hquotes.inside

/-- Names with one text are one name. -/
lemma name_unique {others : List String} (h : Qualified name parts text)
    (hother : Qualified other others text) : other = name := by
  rw [← h.name_eq, ← hother.name_eq, ← h.inside_eq, ← hother.inside_eq]

lemma qualified_iff : Qualified name parts text ↔
    (∀ part ∈ parts, part.toList.all isNameChar = true) ∧
      text = Text.joined "." (parts.map fun part => "\"" ++ part ++ "\"") ∧
      Text.joined "." parts = name := by
  simp only [all_isNameChar_iff]
  exact ⟨fun h => ⟨h.alphabet, h.text_eq, h.name_eq⟩, fun h => ⟨h.1, h.2.1, h.2.2⟩⟩

instance (name : String) (parts : List String) (text : String) :
    Decidable (Qualified name parts text) := decidable_of_iff _ qualified_iff.symm

end Qualified

/-- What a text refers to is told from what stands between its quotes. -/
lemma refersTo_iff {text name : String} : RefersTo text name ↔
    Qualified name (Text.inside (Text.fields '"' text)) text ∧
      ∀ part ∈ Text.inside (Text.fields '"' text), part ≠ "" := by
  refine ⟨fun ⟨parts, h, hfull⟩ => ?_, fun h => ⟨_, h⟩⟩
  rw [h.inside_eq]
  exact ⟨h, hfull⟩

instance (text name : String) : Decidable (RefersTo text name) :=
  decidable_of_iff _ refersTo_iff.symm

end Sql

/-! ## Tables -/

namespace Ident

/-- A table is written in the parts of its name between the dots. -/
lemma qualified_tableRef (t : Ident) :
    Qualified t.text (Text.fields '.' t.text) (tableRef t.text).render where
  alphabet := fun _ hpart _ hc => t.isColumnName.alphabet _ (Text.mem_of_mem_fields hpart hc)
  text_eq := render_sepBy_quoted "." (Text.fields '.' t.text)
  name_eq := Text.joined_fields t.text

/-- Dots are kept apart from one another in a name, so an empty part is the first or the last. -/
lemma empty_mem_fields_iff (i : Ident) : "" ∈ Text.fields '.' i.text ↔
    i.text.toList.head? = some '.' ∨ i.text.toList.getLast? = some '.' := by
  have hname := i.isColumnName
  rw [Text.empty_mem_fields_iff, or_iff_right hname.nonempty, or_iff_left hname.apart]

lemma refersTo_tableRef_iff (t : Ident) : RefersTo (tableRef t.text).render t.text ↔
    t.text.toList.head? ≠ some '.' ∧ t.text.toList.getLast? ≠ some '.' := by
  have hempty : (∀ part ∈ Text.fields '.' t.text, part ≠ "") ↔ "" ∉ Text.fields '.' t.text :=
    ⟨fun h hmem => h "" hmem rfl, fun h part hpart heq => h (heq ▸ hpart)⟩
  have hparts := t.qualified_tableRef
  rw [refersTo_iff, hparts.inside_eq, and_iff_right hparts, hempty, t.empty_mem_fields_iff, not_or]

/-- **A table is referred to by its name exactly when that neither begins nor ends with a dot.**
Whatever table is taken, it is written in parts without dots that make up its name, and no table of
another name is written in the same way.

**Proof sketch.** A name is cut at its dots and each part is put between quotes, except that one
empty part at the end is dropped (`qualified_tableRef`). What is written is read back in one way,
since no part holds a quote, so that it tells the name (`Qualified.name_unique`). It refers to the
name just if no part is empty: two dots in a row are refused beforehand, and an empty part at either
end comes from a dot there (`refersTo_tableRef_iff`). -/
theorem table_refersTo_iff {name : String} {t : Ident} (h : table name = .ok t) :
    (∃ parts, Qualified name parts (tableRef t.text).render ∧
      ∀ part ∈ parts, '.' ∉ part.toList) ∧
    (RefersTo (tableRef t.text).render name ↔
      name.toList.head? ≠ some '.' ∧ name.toList.getLast? ≠ some '.') ∧
    ∀ other u, table other = .ok u → (tableRef u.text).render = (tableRef t.text).render →
      other = name := by
  obtain rfl := table_eq_ok_iff.mp h
  refine ⟨⟨_, t.qualified_tableRef, fun part hpart => Text.not_mem_of_mem_fields hpart⟩,
    t.refersTo_tableRef_iff, fun other u hother htext => ?_⟩
  obtain rfl := table_eq_ok_iff.mp hother
  exact t.qualified_tableRef.name_unique (htext ▸ u.qualified_tableRef)

/-- A table in a schema is referred to by its name, and not as the table that has a hyphen in the
place of the dot. -/
theorem table_refersTo_emissions :
    ∃ t u, table "main.emissions" = .ok t ∧ table "main-emissions" = .ok u ∧
      RefersTo (tableRef t.text).render "main.emissions" ∧
      (tableRef u.text).render ≠ (tableRef t.text).render := by
  obtain ⟨t, ht⟩ : ∃ t, table "main.emissions" = .ok t := ⟨_, rfl⟩
  obtain ⟨u, hu⟩ : ∃ u, table "main-emissions" = .ok u := ⟨_, rfl⟩
  obtain ⟨-, hrefers, hunique⟩ := table_refersTo_iff ht
  refine ⟨t, u, ht, hu, hrefers.mpr (by decide), fun htext => ?_⟩
  exact absurd (hunique _ u hu htext) (by decide)

/-- The name of a schema with a dot behind it is taken for a table, and the table is written with a
last part that is empty. -/
theorem not_refersTo_endingDot :
    ∃ t, table "main." = .ok t ∧ (tableRef t.text).render = "\"main\".\"\"" ∧
      ¬ RefersTo (tableRef t.text).render "main." := by
  refine ⟨_, rfl, rfl, ?_⟩
  decide

end Ident

end QueryGate
