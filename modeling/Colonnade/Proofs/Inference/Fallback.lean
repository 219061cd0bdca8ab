import Colonnade.Proofs.Inference.GivenType
import Colonnade.Proofs.Trimming

/-!
# Columns that remain texts

A search may find nothing better than texts, and there are two ways in which a column remains one. Without
a text that means null it is handed back as it was, white space and all. Otherwise it is made anew of the
texts that its cells show, and these are **trimmed** (`Registry.tryParse_of_texts`); so what a cell becomes
depends on whether another one means null, `Registry.texts_of_tryParse`.

| the column | a search gives |
| --- | --- |
| no text means null | the column itself |
| some text means null | the trimmed texts, and nulls |
| no cell shows a text | nulls |

In each case a second search leaves the result alone, since a text that has been trimmed shows itself, and
whatever has got another type is not searched at all: `Registry.tryParse_tryParse`.

All this is for registries in which the built-in parser of texts is the only one of its type, as it is after
every session that has left no other (`Registry.onlyText_after`).
-/

namespace Colonnade

namespace Registry

/-- **The built-in parser of texts is the only one of its type.** -/
def OnlyText (r : Registry) : Prop :=
  ∀ p ∈ r.parsers, p.type = .string → p = .text

variable {r : Registry} {o : Options} {p : Parser} {cells : List (Option Value)} {name : String}
  {nullable : Bool} {c d : Column} {i : Nat}

/-- **It is so after every session** that has left no other parser of texts. -/
theorem onlyText_after {session : List Operation} (h : ∀ p ∈ added session, p.type ≠ .string) :
    (after session).OnlyText := by
  intro p hp htype
  rw [(standing_after session).parsers, List.mem_append, List.mem_append, List.mem_singleton] at hp
  rcases hp with (hbuiltIn | hadded) | htext
  · have hother := (List.mem_filter.mp hbuiltIn).2
    simp [htype] at hother
  · exact absurd htype (h p hadded)
  · exact htext

theorem onlyText_default : OnlyText .default := by
  have hstart : ∀ p ∈ added [], p.type ≠ .string := by simp [added]
  exact onlyText_after hstart

/-! ### The text that a cell shows, as a cell -/

/-- **The text that a cell shows**, as a cell; a null if it shows none. -/
def shownCell (r : Registry) (o : Options) (cell : Option Value) : Option Value :=
  (r.shown o cell).map .ofText

/-- The built-in parser of texts reads a cell as the text that it shows. -/
theorem reading_text (cell : Option Value) : r.reading o .text cell = r.shownCell o cell := by
  rw [reading, shownCell]
  cases r.shown o cell <;> rfl

/-- **Such a cell shows its own text**: it is trimmed already, and still does not mean null. -/
@[simp] theorem shown_shownCell (cell : Option Value) :
    r.shown o (r.shownCell o cell) = r.shown o cell := by
  cases cell with
  | none => rfl
  | some v =>
    by_cases hnull : r.MeansNull o v
    · simp [shownCell, shown, hnull]
    · have htext : Cell.textOf (.ofText (Text.trim (Cell.textOf v))) = Text.trim (Cell.textOf v) := rfl
      have hkept : ¬r.MeansNull o (.ofText (Text.trim (Cell.textOf v))) := by
        rw [MeansNull, htext, Text.trim_trim]
        exact hnull
      simp [shownCell, shown, hnull, hkept, htext, Text.trim_trim]

@[simp] theorem shownCell_shownCell (cell : Option Value) :
    r.shownCell o (r.shownCell o cell) = r.shownCell o cell := by
  rw [shownCell, shown_shownCell, shownCell]

/-- The same texts are shown. -/
theorem shows_map_shownCell (s : String) :
    r.Shows o (cells.map (r.shownCell o)) s ↔ r.Shows o cells s := by
  simp [Shows]

/-! ### What remains texts -/

/-- A column that is no column of texts is not searched. -/
theorem tryParse_of_type_ne (h : c.type ≠ .string) : r.tryParse o c = .ok c := by
  unfold tryParse
  split
  next => exact absurd rfl h
  next => rfl

/-- **A column remains texts in two ways**: as it was, if none of its texts means null, or made anew of the
texts that its cells show. -/
theorem tryParse_of_texts (hr : r.OnlyText) (h : r.place? o cells = some i)
    (hp : r.parsers[i]? = some p)
    (htexts : p.type = .string ∨ ∀ cell ∈ cells, r.shown o cell = none) (name : String)
    (nullable : Bool) :
    ((∀ v, some v ∈ cells → ¬r.MeansNull o v) ∧
        r.tryParse o (.value name .string nullable cells) = .ok (.value name .string nullable cells)) ∨
      ((∃ v, some v ∈ cells ∧ r.MeansNull o v) ∨ ∀ cell ∈ cells, r.shown o cell = none) ∧
        r.tryParse o (.value name .string nullable cells) =
          .ok (.ofValues name .string (cells.map (r.shownCell o))) := by
  have hsettled := settled_of_place? h hp name nullable
  rcases copied_cases r o p cells with hcopy | hnull
  · exact .inl ⟨hcopy.2, hsettled.texts hcopy.1 hcopy.2⟩
  refine .inr ?_
  rcases shown_cases r o cells with hnone | htext
  · refine ⟨.inr hnone, ?_⟩
    have hcells : (cells.map fun _ => none) = cells.map (r.shownCell o) :=
      List.map_congr_left fun cell hcell => by rw [shownCell, hnone cell hcell, Option.map_none]
    rw [hsettled.nulls hnull hnone, hcells]
  · have htype : p.type = .string := by
      refine htexts.resolve_right fun hnone => ?_
      obtain ⟨cell, hcell, hs⟩ := htext
      exact hs (hnone cell hcell)
    obtain rfl := hr p (List.mem_of_getElem? hp) htype
    have hcells : cells.map (r.reading o .text) = cells.map (r.shownCell o) :=
      List.map_congr_left fun cell _ => reading_text cell
    refine ⟨.inl (hnull htype), ?_⟩
    rw [(hsettled.values (by decide) (by decide) hnull htext).1, hcells]
    rfl

/-- **The texts that are shown stay as they are**, where the cells that show them remain texts. -/
theorem tryParse_map_shownCell (hr : r.OnlyText) (h : r.place? o cells = some i)
    (hp : r.parsers[i]? = some p)
    (htexts : p.type = .string ∨ ∀ cell ∈ cells, r.shown o cell = none) :
    r.tryParse o (.ofValues name .string (cells.map (r.shownCell o))) =
      .ok (.ofValues name .string (cells.map (r.shownCell o))) := by
  -- the same texts are shown, and so the search stops at the same place
  have hplace : r.place? o (cells.map (r.shownCell o)) = some i :=
    (place?_congr shows_map_shownCell).trans h
  have hagain : p.type = .string ∨
      ∀ cell ∈ cells.map (r.shownCell o), r.shown o cell = none := by
    refine htexts.imp_right fun hnone => List.forall_mem_map.mpr fun cell hcell => ?_
    rw [shown_shownCell, hnone cell hcell]
  have hcells : (cells.map (r.shownCell o)).map (r.shownCell o) = cells.map (r.shownCell o) := by
    rw [List.map_map]
    exact List.map_congr_left fun cell _ => shownCell_shownCell cell
  rcases tryParse_of_texts hr hplace hp hagain name
    ((cells.map (r.shownCell o)).any Option.isNone) with ⟨-, hsame⟩ | ⟨-, hanew⟩
  · exact hsame
  · rw [hcells] at hanew
    exact hanew

/-- A column of another type is one that a parser of that type has read. -/
theorem type_of_tryParse (h : r.place? o cells = some i) (hp : r.parsers[i]? = some p)
    (htype : p.type ≠ .string) (htext : ∃ cell ∈ cells, r.shown o cell ≠ none)
    (hd : r.tryParse o (.value name .string nullable cells) = .ok d) : d.type = p.type := by
  rw [(settled_of_place? h hp name nullable).eq_ofCells htype htext] at hd
  exact Column.type_of_shape hd

/-! ### A second search -/

/-- **A second search changes nothing.** -/
theorem tryParse_tryParse (r : Registry) (hr : r.OnlyText) (o : Options) (c d : Column)
    (h : r.tryParse o c = .ok d) : r.tryParse o d = .ok d := by
  by_cases hc : c.type = .string
  · obtain ⟨name, nullable, cells, rfl⟩ :
        ∃ name nullable cells, c = .value name .string nullable cells := by
      cases c with
      | value name type nullable cells => exact ⟨name, nullable, cells, by rw [← hc]; rfl⟩
      | group name f => cases hc
      | frames name fs => cases hc
    obtain ⟨i, p, hi, hp⟩ := exists_place?_of_tryParse h
    by_cases htexts : p.type = .string ∨ ∀ cell ∈ cells, r.shown o cell = none
    · rcases tryParse_of_texts hr hi hp htexts name nullable with ⟨-, hsame⟩ | ⟨-, hanew⟩
      · obtain rfl := Except.ok.inj (hsame.symm.trans h)
        exact hsame
      · obtain rfl := Except.ok.inj (hanew.symm.trans h)
        exact tryParse_map_shownCell hr hi hp htexts
    · push Not at htexts
      refine tryParse_of_type_ne ?_
      rw [type_of_tryParse hi hp htexts.1 htexts.2 h]
      exact htexts.1
  · rw [tryParse_of_type_ne hc] at h
    exact Except.ok.inj h ▸ tryParse_of_type_ne hc

/-- Texts with white space around them, one of which means null: the first search trims them and makes a
null, and the second finds nothing left to do. -/
theorem tryParse_tryParse_trimmed :
    let d := Column.ofTexts "c" [some "hello", none, some "7"]
    Registry.default.OnlyText ∧
      Registry.default.tryParse {} (.ofTexts "c" [some " hello ", some "NA ", some "7 "]) = .ok d ∧
        Registry.default.tryParse {} d = .ok d := by
  intro d
  have hd : Registry.default.tryParse {} (.ofTexts "c" [some " hello ", some "NA ", some "7 "]) =
      .ok d := by rfl
  exact ⟨onlyText_default, hd, tryParse_tryParse .default onlyText_default {} _ d hd⟩

/-! ### The texts of the result -/

/-- **A column of texts that remains one keeps its texts, or trims them all**: it keeps them unless one of its
texts means null. -/
theorem texts_of_tryParse (r : Registry) (hr : r.OnlyText) (o : Options) (name : String)
    (texts : List (Option String)) (d : Column)
    (h : r.tryParse o (.ofTexts name texts) = .ok d) (hd : d.type = .string) (i : Nat) (s : String)
    (hs : texts[i]? = some (some s)) (hshown : Text.trim s ∉ r.nullStringsFor o) :
    ((∀ t, some t ∈ texts → Text.trim t ∉ r.nullStringsFor o) → d.cell i = some (.ofText s)) ∧
      ((∃ t, some t ∈ texts ∧ Text.trim t ∈ r.nullStringsFor o) →
        d.cell i = some (.ofText (Text.trim s))) := by
  have hcell : (texts.map (Option.map Value.ofText))[i]? = some (some (.ofText s)) := by
    rw [List.getElem?_map, hs]
    rfl
  have hshow : r.shown o (some (.ofText s)) = some (Text.trim s) := if_neg hshown
  -- the texts that mean null are the values of the column that do
  have hnulls : (∃ v, some v ∈ texts.map (Option.map Value.ofText) ∧ r.MeansNull o v) ↔
      ∃ t, some t ∈ texts ∧ Text.trim t ∈ r.nullStringsFor o := by
    constructor
    · rintro ⟨v, hv, hnull⟩
      obtain ⟨text, htext, hv⟩ := List.mem_map.mp hv
      obtain ⟨t, rfl, rfl⟩ := Option.map_eq_some_iff.mp hv
      exact ⟨t, htext, hnull⟩
    · rintro ⟨t, ht, hnull⟩
      exact ⟨.ofText t, List.mem_map_of_mem ht, hnull⟩
  obtain ⟨j, p, hj, hp⟩ := exists_place?_of_tryParse h
  have htexts : p.type = .string ∨
      ∀ cell ∈ texts.map (Option.map Value.ofText), r.shown o cell = none := by
    by_contra hother
    push Not at hother
    exact hother.1 ((type_of_tryParse hj hp hother.1 hother.2 h).symm.trans hd)
  rcases tryParse_of_texts hr hj hp htexts name
    ((texts.map (Option.map Value.ofText)).any Option.isNone) with ⟨hkept, hsame⟩ | ⟨hanew, hmade⟩
  · obtain rfl := Except.ok.inj (hsame.symm.trans h)
    refine ⟨fun _ => ?_, fun hnull => ?_⟩
    · rw [Column.cell, hcell, Option.join_some]
    · obtain ⟨v, hv, hv'⟩ := hnulls.mpr hnull
      exact absurd hv' (hkept v hv)
  · obtain rfl := Except.ok.inj (hmade.symm.trans h)
    refine ⟨fun hkept => ?_, fun _ => ?_⟩
    · rcases hanew with hnull | hnone
      · obtain ⟨t, ht, ht'⟩ := hnulls.mp hnull
        exact absurd ht' (hkept t ht)
      · rw [hnone _ (List.mem_of_getElem? hcell)] at hshow
        cases hshow
    · rw [Column.ofValues, Column.cell, List.getElem?_map, hcell, Option.map_some, Option.join_some,
        shownCell, hshow, Option.map_some]

/-- One text that means null, and two with white space around them, one of them empty otherwise. -/
theorem texts_of_tryParse_beside_null :
    let texts := [some " hello ", some "NA", none, some " "]
    let d := Column.ofTexts "c" [some "hello", none, none, some ""]
    Registry.default.tryParse {} (.ofTexts "c" texts) = .ok d ∧ d.type = .string ∧
      texts[0]? = some (some " hello ") ∧
      Text.trim " hello " ∉ Registry.default.nullStringsFor {} ∧
      (∃ t, some t ∈ texts ∧ Text.trim t ∈ Registry.default.nullStringsFor {}) ∧
      d.cell 0 = some (.ofText "hello") := by
  intro texts d
  have hd : Registry.default.tryParse {} (.ofTexts "c" texts) = .ok d := by rfl
  have hshown : Text.trim " hello " ∉ Registry.default.nullStringsFor {} := by decide
  have hnull : ∃ t, some t ∈ texts ∧ Text.trim t ∈ Registry.default.nullStringsFor {} :=
    ⟨"NA", by simp [texts], by decide⟩
  exact ⟨hd, rfl, rfl, hshown, hnull,
    (texts_of_tryParse .default onlyText_default {} "c" texts d hd rfl 0 " hello " rfl hshown).2 hnull⟩

/-- **Texts are not kept in every column**: beside a text that means null the white space around a text is
lost. -/
theorem not_texts_kept :
    ¬∀ (r : Registry) (_ : r.OnlyText) (o : Options) (name : String) (texts : List (Option String))
      (d : Column), r.tryParse o (.ofTexts name texts) = .ok d → d.type = .string →
        ∀ i s, texts[i]? = some (some s) → Text.trim s ∉ r.nullStringsFor o →
          d.cell i = some (.ofText s) := by
  intro h
  have hcell : some (Value.ofText "hello") = some (Value.ofText " hello ") :=
    h .default onlyText_default {} "c" [some " hello ", some "NA"]
      (.ofTexts "c" [some "hello", none]) rfl rfl 0 " hello " rfl (by decide)
  simp [Value.ofText] at hcell

end Registry

end Colonnade
