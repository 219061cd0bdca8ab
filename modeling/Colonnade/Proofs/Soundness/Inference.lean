import Colonnade.Inference
import Colonnade.Proofs.Soundness.Json

/-!
# Columns that parsers have read are sound

A parser is sound if it makes sound values, and, where types count, values that a column of its type
may hold. A registry of sound parsers keeps columns and frames sound, whatever the parsers are:

| operation | where the cells of the new column come from |
| --- | --- |
| `Registry.tryParse` | the parser that has accepted all texts, or the column itself |
| `Registry.parse` | the parser of the type |
| `Registry.convert` | the same, or the conversion of each value |
| `Registry.parseFrame` | `tryParse` for every column of texts |

The built-in parsers are sound in every respect: `Parser.sound_defaults`.
-/

namespace Colonnade

variable {rule : Rule}

/-! ### Parsers -/

/-- **A parser of sound values**, which a column of its type may hold. -/
def Parser.Sound (rule : Rule) (p : Parser) : Prop :=
  ∀ context s v, p.convert context s = some v → v.Sound rule ∧ (rule.typed → p.type.accepts v)

/-- **A registry of sound parsers.** -/
def Registry.Sound (rule : Rule) (r : Registry) : Prop :=
  ∀ p ∈ r.parsers, p.Sound rule

namespace Parser

theorem sound_ofScalar {type : ColumnType} {read : Context → String → Option Scalar}
    (h : ∀ context s x, read context s = some x → x.type = type) :
    (ofScalar type read).Sound rule := by
  intro context s v hv
  obtain ⟨x, hx, rfl⟩ := Option.map_eq_some_iff.mp hv
  refine ⟨Value.sound_scalar x, fun _ => ?_⟩
  have haccepts := ColumnType.accepts_type (.scalar x)
  rwa [Value.type, h context s x hx] at haccepts

/-- What has been made by a constructor has its type. -/
theorem type_of_map {α : Type} {read : Option α} {make : α → Scalar} {x : Scalar}
    (h : read.map make = some x) {type : ColumnType} (hmake : ∀ a, (make a).type = type) :
    x.type = type := by
  obtain ⟨a, -, rfl⟩ := Option.map_eq_some_iff.mp h
  exact hmake a

theorem sound_frame : frame.Sound rule := by
  intro context s v hv
  obtain ⟨f, hf, rfl⟩ := Option.map_eq_some_iff.mp hv
  refine ⟨?_, fun _ => rfl⟩
  rw [Value.Sound]
  exact (sound_readJson? hf).mono ⟨fun _ => trivial, fun _ => trivial⟩

theorem sound_row : row.Sound rule := by
  intro context s v hv
  obtain ⟨f, hf, rfl⟩ := Option.map_eq_some_iff.mp hv
  refine ⟨?_, fun _ => rfl⟩
  rw [Value.Sound]
  exact ⟨(sound_readJson? hf).mono ⟨fun _ => trivial, fun _ => trivial⟩,
    fun _ => rowCount_readJson? hf⟩

/-- **What the built-in parsers have in common**: they are parsers of scalars of one type, but for
those of frames and rows. -/
theorem forall_defaults {motive : Parser → Prop}
    (hscalar : ∀ type read, (∀ context s x, read context s = some x → x.type = type) →
      motive (ofScalar type read))
    (hframe : motive frame) (hrow : motive row) : ∀ p ∈ defaults, motive p := by
  have htext : motive text := hscalar _ _ fun _ _ _ h => Option.some.inj h ▸ rfl
  simp only [defaults, List.forall_mem_cons, List.not_mem_nil, false_implies, implies_true]
  refine ⟨?_, ?_, ?_, ?_, ?_, ?_, ?_, ?_, ?_, ?_, ?_, ?_, hframe, hrow, htext, trivial⟩ <;>
    exact hscalar _ _ fun _ _ _ h => type_of_map h fun _ => rfl

/-- **The built-in parsers are sound** in every respect. -/
theorem sound_defaults : ∀ p ∈ defaults, p.Sound rule :=
  forall_defaults (fun _ _ => sound_ofScalar) sound_frame sound_row

/-- They return scalars, or rows and frames that are read from the text. -/
theorem value_of_defaults : ∀ p ∈ defaults, ∀ context s v, p.convert context s = some v →
    (∃ x, v = .scalar x) ∨ ∃ f, Frame.ofJsonText s = .ok f ∧ (v = .row f ∨ v = .frame f) := by
  refine forall_defaults (fun type read _ context s v hv => ?_) (fun context s v hv => ?_)
    fun context s v hv => ?_
  · obtain ⟨x, -, rfl⟩ := Option.map_eq_some_iff.mp hv
    exact Or.inl ⟨x, rfl⟩
  · obtain ⟨f, hf, rfl⟩ := Option.map_eq_some_iff.mp hv
    exact Or.inr ⟨f, (ofJsonText_of_readJson? hf).2, Or.inr rfl⟩
  · obtain ⟨f, hf, rfl⟩ := Option.map_eq_some_iff.mp hv
    exact Or.inr ⟨f, (ofJsonText_of_readJson? hf).2, Or.inl rfl⟩

end Parser

namespace Registry

variable {r : Registry} {o : Options} {c d : Column}

/-! ### Finding a type -/

/-- Every value of an accepted attempt has been read from the text of a cell. -/
theorem exists_text_of_attempt? {p : Parser} {context : Parser.Context} {cells : List Cell}
    {values : List (Option Value)} (h : attempt? context cells p = some values) {v : Value}
    (hv : some v ∈ values) :
    ∃ whole trimmed, .text whole trimmed ∈ cells ∧ p.convert context trimmed = some v := by
  obtain ⟨cell, hmem, hcell⟩ : ∃ cell ∈ cells, cell.convert? p context = some (some v) :=
    exists_mem_of_forall₂ (mapM_eq_some_iff.mp h) hv
  cases cell with
  | text whole trimmed =>
    obtain ⟨w, hw, heq⟩ := Option.map_eq_some_iff.mp hcell
    exact ⟨whole, trimmed, hmem, heq ▸ hw⟩
  | null => exact absurd (Option.some.inj hcell) (by simp)
  | nullString => exact absurd (Option.some.inj hcell) (by simp)

/-- What a parser makes of cells fits its type. -/
theorem cellsFit_attempt? {p : Parser} (hp : p.Sound rule) {context : Parser.Context}
    {cells : List Cell} {values : List (Option Value)}
    (h : attempt? context cells p = some values) : CellsFit rule p.type values := by
  intro v hv
  obtain ⟨_, trimmed, -, hconvert⟩ := exists_text_of_attempt? h hv
  exact hp context trimmed v hconvert

/-- Where there is no text there is no value. -/
theorem not_mem_of_attempt? {p : Parser} {context : Parser.Context} {cells : List Cell}
    {values : List (Option Value)} (h : attempt? context cells p = some values)
    (hnone : cells.any Cell.isText = false) (v : Value) : some v ∉ values := by
  intro hv
  obtain ⟨whole, trimmed, hmem, -⟩ := exists_text_of_attempt? h hv
  exact List.any_eq_false.mp hnone _ hmem rfl

/-- The column of an accepted attempt is sound. -/
theorem sound_settle {source : Column} (hsource : source.Sound rule) {cells : List Cell}
    {p : Parser} {values : List (Option Value)} (hvalues : CellsFit rule p.type values)
    (hnulls : cells.any Cell.isText = false → ∀ v, some v ∉ values)
    (h : settle source cells p values = .ok d) : d.Sound rule := by
  unfold settle at h
  split at h
  · exact Except.ok.inj h ▸ hsource
  · split at h
    next hnone =>
      obtain rfl := Except.ok.inj h
      refine Column.sound_ofValues_iff.mpr fun v hv => ?_
      exact absurd hv (hnulls (by simpa using hnone) v)
    next => exact Column.sound_ofCells hvalues h

/-- **A column whose type has been found is sound.** -/
theorem sound_tryParse (hr : r.Sound rule) (hc : c.Sound rule) (h : r.tryParse o c = .ok d) :
    d.Sound rule := by
  unfold tryParse at h
  split at h
  next name nullable cells =>
    obtain ⟨context, -, h⟩ := bind_eq_ok_iff.mp h
    dsimp only at h
    split at h
    next p values hfound =>
      obtain ⟨q, hq, hattempt⟩ := List.exists_of_findSome?_eq_some hfound
      obtain ⟨values', hvalues, heq⟩ := Option.map_eq_some_iff.mp hattempt
      obtain ⟨rfl, rfl⟩ := Prod.mk.inj heq
      have hp : q.Sound rule := hr q (List.mem_of_mem_filter hq)
      exact sound_settle hc (cellsFit_attempt? hp hvalues) (not_mem_of_attempt? hvalues) h
    next => exact absurd h (by simp)
  next => exact Except.ok.inj h ▸ hc

/-! ### Reading as a type -/

/-- **A column that has been read as a type is sound.** -/
theorem sound_parse (hr : r.Sound rule) (hc : c.Sound rule) {type : ColumnType}
    (h : r.parse o c type = .ok d) : d.Sound rule := by
  unfold parse at h
  split at h
  next => exact absurd h (by simp)
  next p hp =>
    have htype : p.type = type := by simpa using List.find?_some hp
    have hsound : p.Sound rule := hr p (List.mem_of_find?_eq_some hp)
    split at h
    next => exact Except.ok.inj h ▸ hc
    next =>
      split at h
      next name nullable cells =>
        obtain ⟨context, -, h⟩ := bind_eq_ok_iff.mp h
        obtain ⟨values, hvalues, h⟩ := bind_eq_ok_iff.mp h
        refine Column.sound_ofCells (fun v hv => ?_) h
        obtain ⟨cell, -, hcell⟩ := exists_mem_of_mapM_eq_ok hvalues hv
        unfold convertCell at hcell
        split at hcell
        next whole trimmed =>
          split at hcell
          next w hw =>
            obtain rfl : w = v := Option.some.inj (Except.ok.inj hcell)
            exact htype ▸ hsound context trimmed w hw
          next => exact absurd hcell (by simp)
        next => exact absurd (Except.ok.inj hcell) (by simp)
      next => exact absurd h (by simp)

end Registry

/-! ### Conversion -/

/-- A scalar becomes one of the type. -/
theorem Scalar.type_of_convert? {s t : Scalar} {type : ColumnType} (h : s.convert? type = some t) :
    t.type = type := by
  unfold Scalar.convert? at h
  split at h
  case h_12 => exact absurd h (by simp)
  all_goals first
    | exact Option.some.inj h ▸ rfl
    | exact Parser.type_of_map h fun _ => rfl

/-- **A converted value is sound**, and a column of the type may hold it. -/
theorem Value.sound_convert? {v w : Value} (hv : v.Sound rule) {type : ColumnType}
    (h : v.convert? type = some w) : w.Sound rule ∧ type.accepts w := by
  unfold Value.convert? at h
  split at h
  next haccepts => exact Option.some.inj h ▸ ⟨hv, haccepts⟩
  next =>
    split at h
    next s =>
      obtain ⟨t, ht, rfl⟩ := Option.map_eq_some_iff.mp h
      refine ⟨Value.sound_scalar t, ?_⟩
      have haccepts := ColumnType.accepts_type (.scalar t)
      rwa [Value.type, Scalar.type_of_convert? ht] at haccepts
    next =>
      split at h
      next htype => exact Option.some.inj h ▸ ⟨Value.sound_ofText _, htype ▸ rfl⟩
      next => exact absurd h (by simp)

namespace Registry

variable {r : Registry} {o : Options} {c d : Column}

/-- **A converted column is sound.** -/
theorem sound_convert (hr : r.Sound rule) (hc : c.Sound rule) {type : ColumnType}
    (h : r.convert o c type = .ok d) : d.Sound rule := by
  unfold convert at h
  split at h
  next => exact Except.ok.inj h ▸ hc
  next =>
    split at h
    next => exact sound_parse hr hc h
    next =>
      obtain ⟨cells, hcells, h⟩ := bind_eq_ok_iff.mp h
      refine Column.sound_ofCells (fun w hw => ?_) h
      obtain ⟨cell, hmem, hcell⟩ := exists_mem_of_mapM_eq_ok hcells hw
      rcases cell with _ | v
      · exact absurd (Except.ok.inj hcell) (by simp)
      · unfold Value.convertCell at hcell
        dsimp only at hcell
        split at hcell
        next u hu =>
          obtain rfl : u = w := Option.some.inj (Except.ok.inj hcell)
          have hsound := Value.sound_convert? (hc.cellsFit v hmem).1 hu
          exact ⟨hsound.1, fun _ => hsound.2⟩
        next => exact absurd hcell (by simp)

/-! ### Whole frames -/

mutual

theorem sound_parseColumn (hr : r.Sound rule) :
    ∀ {c d : Column}, c.Sound rule → r.parseColumn o c = .ok d → d.Sound rule
  | .value _ _ _ _, _, hc, h => by
    rw [parseColumn] at h
    exact sound_tryParse hr hc h
  | .group _ _, _, hc, h => by
    rw [parseColumn] at h
    obtain ⟨g, hg, rfl⟩ := map_eq_ok_iff.mp h
    rw [Column.sound_group_iff] at hc ⊢
    exact sound_parseFrame hr hc hg
  | .frames _ fs, _, hc, h => by
    rw [parseColumn] at h
    obtain ⟨gs, hgs, rfl⟩ := map_eq_ok_iff.mp h
    rw [Column.Sound] at hc ⊢
    exact sound_parseFrames hr hc hgs

/-- **A frame whose types have been found is sound.** -/
theorem sound_parseFrame (hr : r.Sound rule) :
    ∀ {f g : Frame}, f.Sound rule → r.parseFrame o f = .ok g → g.Sound rule
  | ⟨_, _⟩, _, hf, h => by
    rw [parseFrame] at h
    rw [Frame.Sound] at hf
    obtain ⟨columns, hcolumns, hcheck⟩ := bind_eq_ok_iff.mp h
    have hsound := sound_parseColumns hr hf.2.2 hcolumns
    exact Frame.sound_of_withRowCount (columnsSound_iff.mp hsound) hcheck

theorem sound_parseColumns (hr : r.Sound rule) :
    ∀ {cs ds : List Column}, columnsSound rule cs → r.parseColumns o cs = .ok ds →
      columnsSound rule ds
  | [], _, _, h => by
    rw [parseColumns] at h
    obtain rfl := Except.ok.inj h
    rw [columnsSound]
    trivial
  | _ :: _, _, hcs, h => by
    rw [parseColumns] at h
    rw [columnsSound] at hcs
    obtain ⟨d, hd, h⟩ := bind_eq_ok_iff.mp h
    obtain ⟨ds, hds, h⟩ := bind_eq_ok_iff.mp h
    obtain rfl := Except.ok.inj h
    rw [columnsSound]
    exact ⟨sound_parseColumn hr hcs.1 hd, sound_parseColumns hr hcs.2 hds⟩

theorem sound_parseFrames (hr : r.Sound rule) :
    ∀ {fs gs : List Frame}, framesSound rule fs → r.parseFrames o fs = .ok gs →
      framesSound rule gs
  | [], _, _, h => by
    rw [parseFrames] at h
    obtain rfl := Except.ok.inj h
    rw [framesSound]
    trivial
  | _ :: _, _, hfs, h => by
    rw [parseFrames] at h
    rw [framesSound] at hfs
    obtain ⟨g, hg, h⟩ := bind_eq_ok_iff.mp h
    obtain ⟨gs, hgs, h⟩ := bind_eq_ok_iff.mp h
    obtain rfl := Except.ok.inj h
    rw [framesSound]
    exact ⟨sound_parseFrame hr hfs.1 hg, sound_parseFrames hr hfs.2 hgs⟩

end

end Registry

end Colonnade
