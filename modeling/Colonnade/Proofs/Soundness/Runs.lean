import Colonnade.Proofs.Soundness.Edit
import Colonnade.Proofs.Soundness.Inference

/-!
# What a run can come to

A caller holds values, columns, frames and collectors, and gets more of them by the operations on
those. `Gives care held x` says that one operation on things that are held gives `x`, and
`Obtained care x` that a run of operations comes to `x`, out of nothing but scalars, texts and the
parsers of registries. There may be any parsers; what they return has to be obtained by a run too.

Whatever a run comes to is sound: `sound_of_obtained`. One operation keeps soundness (`Gives.sound`),
and a run is one operation after the other. As to types, a run is as careful as its caller:

| care | what the caller sees to |
| --- | --- |
| `typed` | the cells of a column that is given, and what a parser returns, have the right type |
| `trusted` | and so have the values that a collector of a declared type takes unchecked |

Without the second, the first does not do (`obtained_unchecked`).
-/

namespace Colonnade

/-! ### Collectors -/

namespace Collector

/-- **The cells of the collector are sound**, and fit the type if one is declared. -/
def Sound (rule : Rule) (c : Collector) : Prop :=
  (∀ v, some v ∈ c.cells → v.Sound rule) ∧ ∀ d ∈ c.declared, CellsFit rule d.1 c.cells

variable {rule : Rule} {c d : Collector} {cell : Option Value}

/-- A cell that has been added comes last, and has been checked if that was declared. -/
theorem push_eq_ok (h : c.push cell = .ok d) :
    d = { c with cells := c.cells ++ [cell] } ∧
      ∀ type v, c.declared = some (type, true) → cell = some v → type.accepts v := by
  unfold push at h
  split at h
  next type v hdeclared =>
    obtain ⟨⟨⟩, hcheck, rfl⟩ := map_eq_ok_iff.mp h
    refine ⟨rfl, ?_⟩
    rintro t w hdeclared' ⟨⟩
    obtain rfl : type = t := (Prod.mk.inj (Option.some.inj (hdeclared.symm.trans hdeclared'))).1
    unfold check at hcheck
    split at hcheck
    next haccepts => exact haccepts
    next => exact absurd hcheck (by simp)
  next hother =>
    refine ⟨(Except.ok.inj h).symm, fun t v hdeclared hcell => ?_⟩
    exact absurd hcell (hother t v hdeclared)

/-- **Adding a sound cell** keeps a collector sound, if what is not checked can be trusted. -/
theorem Sound.push (hc : c.Sound rule) (hcell : ∀ v ∈ cell, v.Sound rule)
    (htrusted : rule.typed → ∀ type, c.declared = some (type, false) →
      ∀ v ∈ cell, type.accepts v)
    (h : c.push cell = .ok d) : d.Sound rule := by
  obtain ⟨rfl, hchecked⟩ := push_eq_ok h
  refine ⟨fun v hv => ?_, ?_⟩
  · rcases List.mem_append.mp hv with hv | hv
    · exact hc.1 v hv
    · exact hcell v (List.mem_singleton.mp hv).symm
  · rintro ⟨type, checked⟩ hdeclared
    refine cellsFit_append (hc.2 _ hdeclared) fun v hv => ?_
    obtain rfl : some v = cell := List.mem_singleton.mp hv
    refine ⟨hcell v rfl, fun htyped => ?_⟩
    -- a value has passed the check, or there was none and it is trusted
    cases checked with
    | true => exact hchecked type v hdeclared rfl
    | false => exact htrusted htyped type hdeclared v rfl

/-- **The column of a sound collector is sound.** -/
theorem Sound.finish (hc : c.Sound rule) {name : String} {column : Column}
    (h : c.finish name = .ok column) : column.Sound rule := by
  unfold Collector.finish at h
  split at h
  next type checked hdeclared => exact Column.sound_ofCells (hc.2 _ hdeclared) h
  next => exact Column.sound_collect hc.1 h

end Collector

/-! ### One operation -/

/-- **What a caller may hold.** -/
inductive Holding where
  | value (v : Value)
  | column (c : Column)
  | frame (f : Frame)
  | collector (c : Collector)

/-- What is held is sound. -/
def Holding.Sound (rule : Rule) : Holding → Prop
  | value v => v.Sound rule
  | column c => c.Sound rule
  | frame f => f.Sound rule
  | collector c => c.Sound rule

/-- **What the caller takes care of.** -/
structure Care where
  /-- The cells of a column that is given are of its type, and what a parser returns is of the type
  of the parser. -/
  typed : Prop
  /-- What a collector takes without a check is of the type that has been declared. -/
  trusted : Prop

/-- What may be expected of a run: types count if the caller sees to all of them. -/
def Care.rule (care : Care) : Rule where
  oneRow := False
  typed := care.typed ∧ care.trusted

/-- The parsers return nothing but what is held. -/
def Registry.Draws (care : Care) (held : Holding → Prop) (r : Registry) : Prop :=
  ∀ p ∈ r.parsers, ∀ context s v, p.convert context s = some v →
    held (.value v) ∧ (care.typed → p.type.accepts v)

/-- **One operation on things that are held gives something.** -/
inductive Gives (care : Care) (held : Holding → Prop) : Holding → Prop where
  -- values, and what is in them
  | scalar (s : Scalar) : Gives care held (.value (.scalar s))
  | rowValue {f : Frame} (hf : held (.frame f)) : Gives care held (.value (.row f))
  | frameValue {f : Frame} (hf : held (.frame f)) : Gives care held (.value (.frame f))
  | inRow {f : Frame} (hv : held (.value (.row f))) : Gives care held (.frame f)
  | inFrame {f : Frame} (hv : held (.value (.frame f))) : Gives care held (.frame f)
  -- columns, and what is in them
  | ofValues (name : String) {type : ColumnType} {cells : List (Option Value)}
      (hcells : ∀ v, some v ∈ cells → held (.value v))
      (htyped : care.typed → ∀ v, some v ∈ cells → type.accepts v) :
      Gives care held (.column (.ofValues name type cells))
  | ofTexts (name : String) (texts : List (Option String)) :
      Gives care held (.column (.ofTexts name texts))
  | ofFrame (name : String) {f : Frame} (hf : held (.frame f)) :
      Gives care held (.column (.group name f))
  | ofFrames (name : String) {fs : List Frame} (hfs : ∀ f ∈ fs, held (.frame f)) :
      Gives care held (.column (.frames name fs))
  | renameColumn {c : Column} (hc : held (.column c)) (name : String) :
      Gives care held (.column (c.rename name))
  | cell {c : Column} (hc : held (.column c)) {i : Nat} {v : Value} (h : c.cell i = some v) :
      Gives care held (.value v)
  | inGroup {c : Column} (hc : held (.column c)) {f : Frame} (h : c.group? = some f) :
      Gives care held (.frame f)
  | inFrames {name : String} {fs : List Frame} (hc : held (.column (.frames name fs))) {f : Frame}
      (hf : f ∈ fs) : Gives care held (.frame f)
  -- frames, and what is in them
  | ofColumns {columns : List Column} (hcolumns : ∀ c ∈ columns, held (.column c)) {f : Frame}
      (h : Frame.ofColumns columns = .ok f) : Gives care held (.frame f)
  | withRowCount {columns : List Column} (hcolumns : ∀ c ∈ columns, held (.column c)) {n : Nat}
      {f : Frame} (h : Frame.withRowCount columns n = .ok f) : Gives care held (.frame f)
  | ofJsonText {s : String} {f : Frame} (h : Frame.ofJsonText s = .ok f) :
      Gives care held (.frame f)
  | columnOf {f : Frame} (hf : held (.frame f)) {c : Column} (hc : c ∈ f.columns) :
      Gives care held (.column c)
  | get {f : Frame} (hf : held (.frame f)) {path : Path} {c : Column} (h : f.get path = .ok c) :
      Gives care held (.column c)
  | row {f : Frame} (hf : held (.frame f)) {i : Nat} {g : Frame} (h : f.row? i = some g) :
      Gives care held (.frame g)
  | concat {fs : List Frame} (hfs : ∀ f ∈ fs, held (.frame f)) {g : Frame}
      (h : Frame.concat fs = .ok g) : Gives care held (.frame g)
  -- editing
  | insert {f : Frame} (hf : held (.frame f)) {c : Column} (hc : held (.column c)) {path : Path}
      {g : Frame} (h : f.insert path c = .ok g) : Gives care held (.frame g)
  | merge {frame : Option Frame} (hframe : ∀ f ∈ frame, held (.frame f)) {requests : List Request}
      (hrequests : ∀ q ∈ requests, held (.column q.column)) {layout : Option Layout} {g : Frame}
      (h : Frame.merge frame requests layout = .ok g) : Gives care held (.frame g)
  | remove {f : Frame} (hf : held (.frame f)) {paths : List Path} {removal : Removal}
      (h : f.remove paths = .ok removal) : Gives care held (.frame removal.frame)
  | removed {f : Frame} (hf : held (.frame f)) {paths : List Path} {removal : Removal}
      (h : f.remove paths = .ok removal) {r : Removed} (hr : r ∈ removal.removed) :
      Gives care held (.column r.column)
  | move {f : Frame} (hf : held (.frame f)) {paths : List Path} {target : Path → Path} {g : Frame}
      (h : f.move paths target = .ok g) : Gives care held (.frame g)
  | rename {f : Frame} (hf : held (.frame f)) {path : Path} {name : String} {g : Frame}
      (h : f.rename path name = .ok g) : Gives care held (.frame g)
  | group {f : Frame} (hf : held (.frame f)) {paths : List Path} {name : String} {g : Frame}
      (h : f.group paths name = .ok g) : Gives care held (.frame g)
  | ungroup {f : Frame} (hf : held (.frame f)) {path : Path} {g : Frame}
      (h : f.ungroup path = .ok g) : Gives care held (.frame g)
  -- finding types
  | tryParse {r : Registry} (hr : r.Draws care held) {o : Options} {c d : Column}
      (hc : held (.column c)) (h : r.tryParse o c = .ok d) : Gives care held (.column d)
  | parse {r : Registry} (hr : r.Draws care held) {o : Options} {c d : Column}
      (hc : held (.column c)) {type : ColumnType} (h : r.parse o c type = .ok d) :
      Gives care held (.column d)
  | convert {r : Registry} (hr : r.Draws care held) {o : Options} {c d : Column}
      (hc : held (.column c)) {type : ColumnType} (h : r.convert o c type = .ok d) :
      Gives care held (.column d)
  | parseFrame {r : Registry} (hr : r.Draws care held) {o : Options} {f g : Frame}
      (hf : held (.frame f)) (h : r.parseFrame o f = .ok g) : Gives care held (.frame g)
  -- collecting
  | collector (declared : Option (ColumnType × Bool)) :
      Gives care held (.collector { declared })
  | push {c d : Collector} (hc : held (.collector c)) {cell : Option Value}
      (hcell : ∀ v ∈ cell, held (.value v))
      (htrusted : care.trusted → ∀ type, c.declared = some (type, false) →
        ∀ v ∈ cell, type.accepts v)
      (h : c.push cell = .ok d) : Gives care held (.collector d)
  | finish {c : Collector} (hc : held (.collector c)) {name : String} {d : Column}
      (h : c.finish name = .ok d) : Gives care held (.column d)

variable {care : Care} {held : Holding → Prop} {x : Holding}

/-- Parsers that return sound values, of their types where types count, are sound. -/
theorem Registry.Draws.sound {r : Registry} (hr : r.Draws care held)
    (hheld : ∀ y, held y → y.Sound care.rule) : r.Sound care.rule := by
  intro p hp context s v hv
  obtain ⟨hvalue, htyped⟩ := hr p hp context s v hv
  exact ⟨hheld _ hvalue, fun h => htyped h.1⟩

/-- **One operation on sound things gives something sound.** -/
theorem Gives.sound (hheld : ∀ y, held y → y.Sound care.rule) (h : Gives care held x) :
    x.Sound care.rule := by
  cases h with
  -- values
  | scalar s =>
    have hscalar : (Value.scalar s).Sound care.rule := Value.sound_scalar s
    exact hscalar
  | rowValue hf =>
    rw [Holding.Sound, Value.Sound]
    exact ⟨hheld _ hf, False.elim⟩
  | frameValue hf =>
    rw [Holding.Sound, Value.Sound]
    exact hheld _ hf
  | inRow hv =>
    have hsound := hheld _ hv
    rw [Holding.Sound, Value.Sound] at hsound
    exact hsound.1
  | inFrame hv =>
    have hsound := hheld _ hv
    rwa [Holding.Sound, Value.Sound] at hsound
  -- columns
  | ofValues name hcells htyped =>
    rw [Holding.Sound, Column.sound_ofValues_iff]
    exact fun v hv => ⟨hheld _ (hcells v hv), fun h => htyped h.1 v hv⟩
  | ofTexts name texts => exact Column.sound_ofTexts name texts
  | ofFrame name hf => exact (Column.sound_group_iff name _).mpr (hheld _ hf)
  | ofFrames name hfs =>
    exact (Column.sound_frames_iff name _).mpr fun f hf => hheld _ (hfs f hf)
  | renameColumn hc name => exact (Column.sound_rename_iff _ name).mpr (hheld _ hc)
  | cell hc h =>
    have hc : Column.Sound _ _ := hheld _ hc
    rw [Column.cell_eq_join_getElem?] at h
    exact (hc.cellsFit _ (List.mem_of_getElem? (Option.join_eq_some_iff.mp h))).1
  | inGroup hc h =>
    have hc : Column.Sound _ _ := hheld _ hc
    exact hc.frame h
  | inFrames hc hf =>
    have hsound := hheld _ hc
    rw [Holding.Sound, Column.sound_frames_iff] at hsound
    exact hsound _ hf
  -- frames
  | ofColumns hcolumns h =>
    exact Frame.sound_of_withRowCount (fun c hc => hheld _ (hcolumns c hc)) h
  | withRowCount hcolumns h =>
    exact Frame.sound_of_withRowCount (fun c hc => hheld _ (hcolumns c hc)) h
  | ofJsonText h => exact (Frame.sound_ofJsonText h).mono ⟨fun _ => trivial, fun _ => trivial⟩
  | columnOf hf hc =>
    have hf : Frame.Sound _ _ := hheld _ hf
    exact hf.of_mem hc
  | get hf h =>
    have hf : Frame.Sound _ _ := hheld _ hf
    exact hf.find? (Frame.get_eq_ok_iff.mp h)
  | row hf h =>
    have hf : Frame.Sound _ _ := hheld _ hf
    unfold Frame.row? at h
    split at h
    next hi => exact Option.some.inj h ▸ hf.slice hi
    next => exact absurd h (by simp)
  | concat hfs h => exact Frame.sound_concat (fun f hf => hheld _ (hfs f hf)) h
  -- editing
  | insert hf hc h =>
    refine Frame.sound_merge ?_ (fun q hq => ?_) h
    · rintro _ ⟨⟩
      exact hheld _ hf
    · obtain rfl := List.mem_singleton.mp hq
      exact hheld _ hc
  | merge hframe hrequests h =>
    exact Frame.sound_merge (fun f hf => hheld _ (hframe f hf))
      (fun q hq => hheld _ (hrequests q hq)) h
  | remove hf h => exact (Frame.sound_remove (hheld _ hf) h).1
  | removed hf h hr => exact (Frame.sound_remove (hheld _ hf) h).2 _ hr
  | move hf h => exact Frame.sound_move (hheld _ hf) h
  | rename hf h => exact Frame.sound_rename (hheld _ hf) h
  | group hf h => exact Frame.sound_group (hheld _ hf) h
  | ungroup hf h => exact Frame.sound_ungroup (hheld _ hf) h
  -- finding types
  | tryParse hr hc h => exact Registry.sound_tryParse (hr.sound hheld) (hheld _ hc) h
  | parse hr hc h => exact Registry.sound_parse (hr.sound hheld) (hheld _ hc) h
  | convert hr hc h => exact Registry.sound_convert (hr.sound hheld) (hheld _ hc) h
  | parseFrame hr hf h => exact Registry.sound_parseFrame (hr.sound hheld) (hheld _ hf) h
  -- collecting
  | collector declared =>
    exact ⟨fun v hv => absurd hv List.not_mem_nil, fun d _ => cellsFit_nil _ d.1⟩
  | push hc hcell htrusted h =>
    have hc : Collector.Sound _ _ := hheld _ hc
    exact hc.push (fun v hv => hheld _ (hcell v hv)) (fun htyped => htrusted htyped.2) h
  | finish hc h =>
    have hc : Collector.Sound _ _ := hheld _ hc
    exact hc.finish h

/-! ### A run of operations -/

/-- **What a run of operations comes to**: one of them gives it, and they have been held before. -/
inductive Obtained (care : Care) : Holding → Prop where
  | step {held : Holding → Prop} {x : Holding} (hheld : ∀ y, held y → Obtained care y)
      (h : Gives care held x) : Obtained care x

/-- A run goes on from whatever runs have come to. -/
theorem Obtained.next (h : Gives care (Obtained care) x) : Obtained care x :=
  .step (fun _ hy => hy) h

/-- **The built-in parsers return what runs come to**, of their types. -/
theorem Registry.draws_default (care : Care) : Registry.default.Draws care (Obtained care) := by
  intro p hp context s v hv
  have hsound : p.Sound ⟨False, True⟩ := Parser.sound_defaults p hp
  refine ⟨?_, fun _ => (hsound context s v hv).2 trivial⟩
  rcases Parser.value_of_defaults p hp context s v hv with ⟨x, rfl⟩ | ⟨f, hf, rfl | rfl⟩
  · exact .next (.scalar x)
  · exact .next (.rowValue (.next (.ofJsonText hf)))
  · exact .next (.frameValue (.next (.ofJsonText hf)))

/-- **Whatever a run comes to is sound**: at every depth names side by side differ, columns are as long
as their frames and a column that holds a null says so; and cells are of the type of their column if
the caller has seen to that. -/
theorem sound_of_obtained (h : Obtained care x) : x.Sound care.rule := by
  induction h with
  | step _ h ih => exact h.sound ih

/-- A number that is collected without a check, and a truth value that is found in a text, on top of
each other. -/
theorem sound_of_obtained_concat :
    let care : Care := ⟨True, True⟩
    let f : Frame :=
      ⟨[.value "a" .int true [some (.scalar (.int 1)), none],
        .value "b" .boolean true [none, some (.scalar (.boolean true))]], 2⟩
    Obtained care (.frame f) ∧ (Holding.frame f).Sound care.rule := by
  intro care f
  have hone : Obtained care (.value (.scalar (.int 1))) := .next (.scalar (.int 1))
  have hnew : Obtained care (.collector ⟨some (.int, false), []⟩) := .next (.collector _)
  have hpush : (Collector.mk (some (.int, false)) []).push (some (.scalar (.int 1))) =
      .ok ⟨some (.int, false), [some (.scalar (.int 1))]⟩ := rfl
  have hpushed : Obtained care (.collector ⟨some (.int, false), [some (.scalar (.int 1))]⟩) := by
    refine .next (.push hnew ?_ ?_ hpush)
    · rintro _ ⟨⟩
      exact hone
    · rintro - _ ⟨⟩ _ ⟨⟩
      rfl
  have hnumbers : Obtained care (.column (.value "a" .int false [some (.scalar (.int 1))])) :=
    .next (.finish hpushed rfl)
  have hfound : Registry.default.tryParse {} (.ofTexts "b" [some "yes"]) =
      .ok (.value "b" .boolean false [some (.scalar (.boolean true))]) := by rfl
  have hwords : Obtained care
      (.column (.value "b" .boolean false [some (.scalar (.boolean true))])) :=
    .next (.tryParse (Registry.draws_default care) (.next (.ofTexts "b" [some "yes"])) hfound)
  have habove : Obtained care (.frame ⟨[.value "a" .int false [some (.scalar (.int 1))]], 1⟩) :=
    .next (.ofColumns (List.forall_mem_singleton.mpr hnumbers) rfl)
  have hbelow : Obtained care
      (.frame ⟨[.value "b" .boolean false [some (.scalar (.boolean true))]], 1⟩) :=
    .next (.ofColumns (List.forall_mem_singleton.mpr hwords) rfl)
  have hf : Obtained care (.frame f) :=
    .next (.concat (List.forall_mem_cons.mpr ⟨habove, List.forall_mem_singleton.mpr hbelow⟩) rfl)
  exact ⟨hf, sound_of_obtained hf⟩

/-- **What a collector takes unchecked is trusted**: types are not kept by a caller who sees to the
columns and parsers alone. -/
theorem obtained_unchecked :
    let care : Care := ⟨True, False⟩
    let c : Column := .value "c" .int false [some (.ofText "x")]
    Obtained care (.column c) ∧ ¬ c.Sound ⟨False, True⟩ := by
  intro care c
  have hnew : Obtained care (.collector ⟨some (.int, false), []⟩) := .next (.collector _)
  have htext : Obtained care (.value (.ofText "x")) := .next (.scalar (.string "x"))
  have hpush : (Collector.mk (some (.int, false)) []).push (some (.ofText "x")) =
      .ok ⟨some (.int, false), [some (.ofText "x")]⟩ := rfl
  have hpushed : Obtained care (.collector ⟨some (.int, false), [some (.ofText "x")]⟩) := by
    refine .next (.push hnew ?_ False.elim hpush)
    rintro _ ⟨⟩
    exact htext
  refine ⟨.next (.finish hpushed rfl), fun hsound => ?_⟩
  have haccepts : ColumnType.int.accepts (.ofText "x") :=
    ((Column.sound_value_iff.mp hsound).2 _ List.mem_cons_self).2 trivial
  exact absurd haccepts (by decide)

end Colonnade
