import Colonnade.Proofs.Merge.StableMerge
import Colonnade.Proofs.Merge.Success
import Colonnade.Proofs.Removal.Taken

/-!
# Filling the places that a removal leaves

The entries of a removal name the nodes that their columns were taken from, so a merge can put the
columns where they were, under their old names or under others. Here is what such a merge does at one
level, whatever the names are.

* `Taken.pending` – an entry as a request, counted from a level;
* `IsLeft` – what the level finds: the columns that are left, or no frame at all;
* `Fills` – names by position, and entries that take the positions of their nodes;
* `Frame.join_of_single`, `Fills.join_of_group`, `Fills.join_of_not_mem` – what becomes of a name for
  which one column is put in, of the name of a group from which columns were taken, and of any other;
* `Fills.mergeBelow_eq` – the level, with the names in the order of their positions.
-/

namespace Colonnade

/-! ### Entries as requests -/

namespace Taken

/-- An entry as a request, from the level that it is counted from. -/
def pending (e : Taken) : Pending where
  name := e.2.1.segments.head e.2.1.nonempty
  rest := e.2.1.segments.tail
  column := e.2.2
  place := some e.1

/-- The names on the path of an entry. -/
def names (e : Taken) : List String :=
  e.2.1.segments

/-- The entries with a name. -/
def named (es : List Taken) (name : String) : List Taken :=
  es.filter fun e => e.2.1.segments.head? == some name

variable {es : List Taken} {e : Taken} {name : String}

@[simp] theorem names_pending (e : Taken) : e.pending.names = e.names :=
  List.cons_head_tail e.2.1.nonempty

theorem names_eq_cons (e : Taken) : e.names = e.pending.name :: e.pending.rest :=
  (names_pending e).symm

theorem head?_segments (e : Taken) : e.2.1.segments.head? = some e.pending.name :=
  List.head?_eq_some_head e.2.1.nonempty

theorem mem_named : e ∈ named es name ↔ e ∈ es ∧ e.pending.name = name := by
  simp [named, head?_segments]

/-- Entries with a name are requests for it. -/
theorem members_named (es : List Taken) (name : String) :
    (Part.named (es.map pending) name).members = (named es name).map pending := by
  rw [Part.named, List.filter_map, named]
  refine congrArg _ (List.filter_congr fun e _ => ?_)
  simp [head?_segments]

theorem mem_map_name_pending : name ∈ (es.map pending).map Pending.name ↔ named es name ≠ [] := by
  constructor
  · intro h
    obtain ⟨_, hp, rfl⟩ := List.mem_map.mp h
    obtain ⟨e, he, rfl⟩ := List.mem_map.mp hp
    exact List.ne_nil_of_mem (mem_named.mpr ⟨he, rfl⟩)
  · intro h
    obtain ⟨e, he⟩ := List.exists_mem_of_ne_nil _ h
    obtain ⟨hmem, rfl⟩ := mem_named.mp he
    exact List.mem_map_of_mem (List.mem_map_of_mem hmem)

/-- The paths of entries past a name are those of the entries with it. -/
theorem pathsThrough_map_names (es : List Taken) (name : String) :
    pathsThrough name (es.map names) = (named es name).map fun e => e.names.tail := by
  induction es with
  | nil => rfl
  | cons e es ih =>
    rw [pathsThrough, named] at ih ⊢
    by_cases h : e.pending.name = name
    · simp [names_eq_cons e, head?_segments, h, ih]
    · simp [names_eq_cons e, head?_segments, h, ih]

/-- An entry of a group is a request that goes on, and the same entry for the level of the group. -/
theorem deeper?_pending_under (name : String) (i : Nat) (e : Taken) :
    (e.under [name] [i]).pending.deeper? (some i) = some e.pending := by
  obtain ⟨first, rest, hrest⟩ := List.exists_cons_of_ne_nil e.2.1.nonempty
  have htail : (e.under [name] [i]).pending.rest = first :: rest := hrest
  have hplace : (e.under [name] [i]).pending.place = some (i :: e.1) := rfl
  rw [Pending.deeper?, htail, hplace]
  simp [Pending.placeBelow, pending, hrest, under]

section Group

variable {i : Nat} {inner : List Taken} (h : named es name = inner.map (under [name] [i]))

include h

/-- Entries of a group are requests that do not end at it, -/
theorem terminal_of_named : (Part.named (es.map pending) name).terminal = [] := by
  refine Part.terminal_eq_nil_iff.mpr ?_
  rw [members_named, h, List.map_map]
  exact List.forall_mem_map.mpr fun e _ => e.2.1.nonempty

/-- but go on as entries of its level; -/
theorem deeper_of_named :
    (Part.named (es.map pending) name).deeper (some i) = inner.map pending := by
  rw [Part.deeper, members_named, h, List.map_map, List.filterMap_map]
  have hsome : Pending.deeper? (some i) ∘ pending ∘ under [name] [i] = some ∘ pending :=
    funext fun e => deeper?_pending_under name i e
  rw [hsome, List.filterMap_eq_map]

/-- with a name less, -/
theorem length_names_le_of_named {depth : Nat} (hdepth : ∀ e ∈ es, e.names.length ≤ depth + 1) :
    ∀ e ∈ inner, e.names.length ≤ depth := by
  intro e he
  have hmem : e.under [name] [i] ∈ named es name := h ▸ List.mem_map_of_mem he
  exact Nat.le_of_succ_le_succ (hdepth _ (mem_named.mp hmem).1)

/-- and as paths they lead into it. -/
theorem pathsThrough_of_named : pathsThrough name (es.map names) = inner.map names := by
  rw [pathsThrough_map_names, h, List.map_map]
  rfl

end Group

end Taken

/-! ### What is left -/

/-- **What is left of a frame**, or no frame at all, if nothing is left of it. -/
def IsLeft (frame : Option Frame) (f : Frame) (paths : List (List String)) : Prop :=
  (frame.getD .empty).columns = (f.pruned paths).columns ∧
    ((frame.getD .empty).columns ≠ [] → (frame.getD .empty).rowCount = f.rowCount)

namespace IsLeft

variable {f : Frame} {paths : List (List String)} {frame : Option Frame} (h : IsLeft frame f paths)

include h

theorem names_eq : (frame.getD .empty).names = (f.pruned paths).names :=
  congrArg (List.map Column.name) h.1

theorem nodup_names (hf : f.names.Nodup) : (frame.getD .empty).names.Nodup :=
  h.names_eq ▸ hf.sublist (Frame.names_pruned_sublist f paths)

/-- What is left of the column of a name, as the level sees it. -/
theorem column?_eq (hf : f.names.Nodup) (name : String) :
    (frame.getD .empty).column? name = (f.column? name).bind (Column.prune? paths) := by
  rw [← Frame.column?_pruned hf, Frame.column?, Frame.column?, h.1]

end IsLeft

/-! ### What becomes of a name -/

namespace Frame

variable {below : MergeBelow} {above : List String} {layout : Option Layout}
variable {frame : Option Frame} {pending : List Pending} {name : String}

/-- **A column that is put in** where there is none gets the name. -/
theorem join_of_single {p : Pending} (hcolumn : (frame.getD empty).column? name = none)
    (hmembers : (Part.named pending name).members = [p]) (hp : p.rest = []) :
    join below above layout frame pending name = .ok (some (p.column.rename name)) := by
  have hterminal : (Part.named pending name).terminal = [p] := by
    rw [Part.terminal, hmembers]
    simp [hp]
  have hdeeper : (Part.named pending name).deeper none = [] := by
    rw [Part.deeper, hmembers]
    simp [Pending.deeper?, hp]
  simp only [join, hcolumn, Part.seat, hterminal, Part.fill, hdeeper, bind, Except.bind,
    List.isEmpty_nil, if_true]
  rfl

end Frame

/-! ### Entries that fill the places of a level -/

/-- **Entries that fill the places of a level**: it has names by position, which are the old ones where
something is left, and an entry has the name of the position that its node is at or below. -/
structure Fills (f : Frame) (paths : List (List String)) (t : Layout) (order : List String)
    (es : List Taken) : Prop where
  children : t.children = f.columns.map (Column.marked paths)
  nodup_names : f.names.Nodup
  nodup_order : order.Nodup
  kept : ∀ (i : Nat) (c : Column), f.columns[i]? = some c → (c.prune? paths).isSome →
    order[i]? = some c.name
  place : ∀ e ∈ es, ∃ (i : Nat) (c : Column) (rest : List Nat), f.columns[i]? = some c ∧
    order[i]? = some e.pending.name ∧ e.1 = i :: rest

namespace Fills

variable {f : Frame} {paths : List (List String)} {t : Layout} {order : List String}
variable {es : List Taken} {frame : Option Frame} (h : Fills f paths t order es)

include h

/-- What is left stands at its position. -/
theorem getElem?_of_mem_keptNames {k : Nat × String} (hk : k ∈ t.keptNames) :
    order[k.1]? = some k.2 := by
  obtain ⟨child, hchild, hkept, hname⟩ := Layout.exists_child_of_mem_keptNames hk
  rw [h.children, List.getElem?_map, Option.map_eq_some_iff] at hchild
  obtain ⟨c, hc, rfl⟩ := hchild
  rw [Column.isRemoved_marked] at hkept
  rw [← hname, Column.name_marked]
  exact h.kept k.1 c hc (by simpa using hkept)

/-- **What is new is anchored at its position**: the nodes of all entries for the name are at or below a
child that has gone. -/
theorem exists_anchor {name : String}
    (hname : name ∈ Frame.newNames (f.pruned paths).names (es.map Taken.pending)) :
    ∃ i : Nat, order[i]? = some name ∧
      (Part.named (es.map Taken.pending) name).anchor? (some t) = some i := by
  obtain ⟨hpending, hgone⟩ := Frame.mem_newNames.mp hname
  have hnamed := Taken.mem_map_name_pending.mp hpending
  obtain ⟨e, he⟩ := List.exists_mem_of_ne_nil _ hnamed
  obtain ⟨hmem, rfl⟩ := Taken.mem_named.mp he
  obtain ⟨i, c, -, hc, hi, -⟩ := h.place e hmem
  have hremoved : (c.marked paths).isRemoved := by
    rw [Column.isRemoved_marked, Option.isNone_iff_eq_none]
    by_contra hsome
    obtain ⟨d, hd⟩ := Option.ne_none_iff_exists'.mp hsome
    have hname := h.kept i c hc (hd ▸ rfl)
    rw [hi] at hname
    refine hgone ?_
    rw [Option.some.inj hname, ← Column.name_of_prune? hd]
    exact List.mem_map_of_mem (List.mem_filterMap.mpr ⟨c, List.mem_of_getElem? hc, hd⟩)
  have hchild : t.children[i]? = some (c.marked paths) := by
    rw [h.children, List.getElem?_map, hc, Option.map_some]
  refine ⟨i, hi, Part.anchor?_eq_some ?_ ?_⟩
  · rw [Taken.members_named]
    simpa using hnamed
  · rw [Taken.members_named]
    refine List.forall_mem_map.mpr fun e' he' => ?_
    obtain ⟨hmem', hname'⟩ := Taken.mem_named.mp he'
    obtain ⟨j, d, rest, -, hj, hplace⟩ := h.place e' hmem'
    obtain rfl : j = i := (List.getElem?_inj (List.getElem?_eq_some_iff.mp hj).1 h.nodup_order).mp
      (by rw [hj, hi, hname'])
    have hplace' : e'.pending.place = some (j :: rest) := congrArg some hplace
    simp [Pending.anchor?, hplace', hchild, hremoved]

/-- A column that is left stands at the position of its name. -/
theorem exists_of_column? (hframe : IsLeft frame f paths) {name : String} {d : Column}
    (hd : (frame.getD .empty).column? name = some d) :
    ∃ (i : Nat) (c : Column), f.columns[i]? = some c ∧ c.prune? paths = some d ∧
      order[i]? = some name := by
  rw [hframe.column?_eq h.nodup_names] at hd
  obtain ⟨c, hc, hprune⟩ := Option.bind_eq_some_iff.mp hd
  obtain ⟨hmem, rfl⟩ := (Frame.column?_eq_some_iff h.nodup_names).mp hc
  obtain ⟨i, hi⟩ := List.getElem?_of_mem hmem
  exact ⟨i, c, hi, hprune, h.kept i c hi (hprune ▸ rfl)⟩

/-- Where a column has gone, no other has the name of its position. -/
theorem column?_eq_none (hframe : IsLeft frame f paths) {i : Nat} {c : Column} {name : String}
    (hi : f.columns[i]? = some c) (hname : order[i]? = some name) (hgone : c.prune? paths = none) :
    (frame.getD .empty).column? name = none := by
  refine Option.eq_none_iff_forall_ne_some.mpr fun d hd => ?_
  obtain ⟨j, e, hj, hprune, hname'⟩ := h.exists_of_column? hframe hd
  obtain rfl : j = i := (List.getElem?_inj (List.getElem?_eq_some_iff.mp hname').1
    h.nodup_order).mp (hname'.trans hname.symm)
  obtain rfl : e = c := Option.some.inj (hj.symm.trans hi)
  exact absurd (hgone.symm.trans hprune) (by simp)

/-- Nothing becomes of a name that has no position. -/
theorem join_of_not_mem (hframe : IsLeft frame f paths) {below : MergeBelow} {above : List String}
    {name : String} (hname : name ∉ order) :
    Frame.join below above (some t) frame (es.map Taken.pending) name = .ok none := by
  have hno : name ∉ (es.map Taken.pending).map Pending.name := by
    intro hmem
    obtain ⟨e, he⟩ := List.exists_mem_of_ne_nil _ (Taken.mem_map_name_pending.mp hmem)
    obtain ⟨hentry, rfl⟩ := Taken.mem_named.mp he
    obtain ⟨i, -, -, -, hi, -⟩ := h.place e hentry
    exact hname (List.mem_of_getElem? hi)
  have hgone : (frame.getD .empty).column? name = none := by
    refine Option.eq_none_iff_forall_ne_some.mpr fun d hd => ?_
    obtain ⟨i, -, -, -, hi⟩ := h.exists_of_column? hframe hd
    exact hname (List.mem_of_getElem? hi)
  rw [Frame.join_of_not_mem hno, hgone]

/-- Nothing but what is left becomes of a column for which there are no entries. -/
theorem join_of_named_eq_nil (hframe : IsLeft frame f paths) {below : MergeBelow}
    {above : List String} {c : Column} (hc : c ∈ f.columns) (hnone : Taken.named es c.name = []) :
    Frame.join below above (some t) frame (es.map Taken.pending) c.name = .ok (c.prune? paths) := by
  have hno : c.name ∉ (es.map Taken.pending).map Pending.name := fun hmem =>
    Taken.mem_map_name_pending.mp hmem hnone
  rw [Frame.join_of_not_mem hno, hframe.column?_eq h.nodup_names,
    Frame.column?_name h.nodup_names hc, Option.bind_some]

/-- **A group from which columns were taken** is filled, or built anew if nothing was left of it. -/
theorem join_of_group (hframe : IsLeft frame f paths) {below : MergeBelow} {above : List String}
    {i : Nat} {label : String} {g r : Frame} (hi : f.columns[i]? = some (.group label g))
    (hthere : [] ∉ pathsThrough label paths) {inner : List Taken} (hne : inner ≠ [])
    (hnamed : Taken.named es label = inner.map (Taken.under [label] [i]))
    (hmerge : ∀ frame, IsLeft frame g (pathsThrough label paths) →
      below (above ++ [label]) (some ((Column.group label g).marked paths)) frame
        (inner.map Taken.pending) = .ok r) :
    Frame.join below above (some t) frame (es.map Taken.pending) label =
      .ok (some (.group label r)) := by
  have hterminal := Taken.terminal_of_named hnamed
  have hdeeper : (Part.named (es.map Taken.pending) label).deeper none ≠ [] := by
    refine Part.deeper_ne_nil ?_ hterminal
    rw [Taken.members_named, hnamed]
    simpa using hne
  have hchild : (Part.named (es.map Taken.pending) label).child (some t) =
      (some i, some ((Column.group label g).marked paths)) :=
    Prod.ext (Frame.childIndex?_of_children h.children h.nodup_names hi)
      (Frame.child?_of_children h.children h.nodup_names hi)
  have hfill (b : Option Column) (hb : ∀ c ∈ b, ∃ f, c.group? = some f)
      (hleft : IsLeft (b.bind Column.group?) g (pathsThrough label paths)) :
      (Part.named (es.map Taken.pending) label).fill below above (some t) b =
        .ok (some (.group label r)) := by
    rw [Part.fill_of_group hdeeper hb, Part.mergeDeeper, hchild]
    simp only [Taken.deeper_of_named hnamed]
    exact map_eq_ok_iff.mpr ⟨_, map_eq_ok_iff.mpr ⟨r, hmerge _ hleft, rfl⟩, rfl⟩
  have hname : f.column? label = some (Column.group label g) :=
    Frame.column?_name h.nodup_names (List.mem_of_getElem? hi)
  rw [Frame.join, Part.seat_of_terminal_eq_nil hterminal, hframe.column?_eq h.nodup_names, hname,
    Option.bind_some, Column.prune?_group hthere]
  by_cases hnone : pathsThrough label paths ≠ [] ∧
      g.columns.filterMap (Column.prune? (pathsThrough label paths)) = []
  · -- the group has gone, and is built anew
    rw [if_pos hnone]
    exact bind_eq_ok_iff.mpr
      ⟨none, rfl, hfill none (by simp) ⟨hnone.2.symm, fun hne => absurd rfl hne⟩⟩
  · -- the group is there, with what is left of it
    rw [if_neg hnone]
    exact bind_eq_ok_iff.mpr
      ⟨_, rfl, hfill _ (by rintro c ⟨⟩; exact ⟨_, rfl⟩) ⟨rfl, fun _ => rfl⟩⟩

/-- **The names of the level are in their order.** -/
theorem placedNames_eq (hframe : IsLeft frame f paths) {below : MergeBelow} {above : List String}
    {r : Frame} (hr : r.names.Sublist order)
    (hjoin : ∀ name, Frame.join below above (some t) frame (es.map Taken.pending) name =
      .ok (r.column? name)) :
    Frame.placedNames (some t) (es.map Taken.pending) (frame.getD .empty).names = r.names := by
  have hpruned : (f.pruned paths).names.Nodup :=
    h.nodup_names.sublist (Frame.names_pruned_sublist f paths)
  have hplaced : (Frame.placedNames (some t) (es.map Taken.pending) (f.pruned paths).names).Nodup :=
    Frame.nodup_placedNames hpruned
  rw [hframe.names_eq]
  refine Frame.placedNames_eq_of_order (fun k hk => h.getElem?_of_mem_keptNames hk)
    (fun name hname => h.exists_anchor hname) (Frame.keeps_pruned h.children h.nodup_names)
    h.nodup_order hr ?_
  refine ((List.perm_ext_iff_of_nodup (h.nodup_order.sublist hr) hplaced).mpr fun name => ?_).trans
    (Frame.placedNames_perm _)
  rw [Frame.mem_placedNames, ← hframe.names_eq, ← Frame.isSome_of_join (hjoin name),
    ← not_iff_not, ← Frame.column?_eq_none_iff]
  simp

/-- **A level that entries fill**, if it is known what becomes of its names. -/
theorem mergeBelow_eq (hframe : IsLeft frame f paths) (hne : es ≠ []) {depth : Nat}
    {above : List String} {r : Frame} (hr : r.WellFormed) (hrows : r.rowCount = f.rowCount)
    (hnames : r.names.Sublist order)
    (hjoin : ∀ name, Frame.join (Frame.mergeBelow depth) above (some t) frame
      (es.map Taken.pending) name = .ok (r.column? name)) :
    Frame.mergeBelow (depth + 1) above (some t) frame (es.map Taken.pending) = .ok r ∧
      r.columns ≠ [] := by
  have hp : es.map Taken.pending ≠ [] := by simpa using hne
  have hplaced := h.placedNames_eq hframe hnames hjoin
  have hcolumns := Frame.columns_ne_nil_of_placedNames hp hplaced.symm
  have hlength := (Frame.wellFormed_iff.mp hr).2.1
  rw [Frame.mergeBelow_succ depth above (some t) frame hp,
    Frame.mergeLevel_eq_ok_iff (hframe.nodup_names h.nodup_names)]
  refine ⟨⟨hplaced.symm, hjoin, hlength, (Frame.levelRows_eq hcolumns ?_ hlength).symm⟩, hcolumns⟩
  exact fun hleft => (hframe.2 hleft).trans hrows.symm

end Fills

/-! ### The uppermost level -/

/-- **An entry as a request** for its path, which names the node that its column was taken from. -/
def Taken.request (t : Layout) (e : Taken) : Request where
  path := e.2.1
  column := e.2.2
  node := some (t.number e.1)

/-- The request is the one that the uppermost level knows. -/
theorem Taken.ofRequest_request {t : Layout} {e : Taken} (h : ∃ s, t.at? e.1 = some s) :
    Pending.ofRequest (some t) (e.request t) = e.pending := by
  obtain ⟨s, hs⟩ := h
  have hplace : (some (t.number e.1)).bind t.address? = some e.1 := Layout.address?_number hs
  simp only [Pending.ofRequest, Taken.pending, Taken.request]
  exact congrArg _ hplace

theorem Taken.map_ofRequest_request {t : Layout} {es : List Taken}
    (h : ∀ e ∈ es, ∃ s, t.at? e.1 = some s) :
    (es.map (Taken.request t)).map (Pending.ofRequest (some t)) = es.map Taken.pending := by
  rw [List.map_map]
  exact List.map_congr_left fun e he => Taken.ofRequest_request (h e he)

/-! ### Moves as merges -/

/-- **An entry that is to go to another path.** -/
def Taken.moved (target : Path → Path) (e : Taken) : Taken :=
  (e.1, target e.2.1, e.2.2)

namespace Frame

variable {f : Frame} {paths : List Path}

/-- What a move takes out, on its way to other paths. -/
def movedEntries (f : Frame) (paths : List Path) (target : Path → Path) : List Taken :=
  (Column.takenAll (paths.map Path.segments) f.columns).map (Taken.moved target)

/-- **A move is a merge** of what it takes out into what is left, as deep as the longest of the new
paths. -/
theorem move_eq_mergeBelow (hf : f.WellFormed) (hpaths : ∀ path ∈ paths, ∃ c, f.get path = .ok c)
    (target : Path → Path) :
    ∃ depth, (∀ e ∈ f.movedEntries paths target, e.names.length ≤ depth) ∧
      f.move paths target =
        mergeBelow depth [] (some (f.marked (paths.map Path.segments)))
          (some (f.pruned (paths.map Path.segments)))
          ((f.movedEntries paths target).map Taken.pending) := by
  set t := f.marked (paths.map Path.segments) with ht
  have hnodes : ∀ e ∈ f.movedEntries paths target, ∃ s, t.at? e.1 = some s :=
    List.forall_mem_map.mpr fun e he => at?_of_mem_takenAll (e := e) hf rfl he
  refine ⟨deepest ((f.movedEntries paths target).map (Taken.request t)), fun e he => ?_, ?_⟩
  · exact length_le_deepest (List.mem_map_of_mem (f := Taken.request t) he)
  · rw [move, (remove_eq_ok_iff hf).mpr ⟨hpaths, rfl⟩, ← Taken.map_ofRequest_request hnodes]
    show merge _ (((Column.takenAll _ f.columns).map _).map _) _ = merge _ _ _
    rw [movedEntries, List.map_map, List.map_map]
    rfl

end Frame

end Colonnade
