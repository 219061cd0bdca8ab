import Colonnade.Proofs.Removal.Listing
import Colonnade.Proofs.Removal.Refill

/-!
# Renaming in place

`Frame.relabel` gives every column the label of its path, at every depth, and leaves positions, cells,
groups and rows as they are. A move that changes last segments only is such a relabelling: the columns
of the outermost paths get their new names where they stand, and nothing else happens
(`Frame.move_in_place`).

The removal vacates places and the merge fills them again, each with the name that its column is to
have. What is known of a level is `Renaming`: the frame it had, the paths taken out of it and the new
names, which differ. It passes from a level to the groups in it (`Renaming.group`), and says for every
name what becomes of it (`Renaming.join_eq`). New names may well be old ones of other columns, for
those have been taken out: only what is left keeps its name.
-/

namespace Colonnade

/-! ### Labels -/

mutual

/-- **The same column under other names**, each the label of the path that it has. -/
def Column.relabel (label : Path → String) : Column → Column
  | .value name type nullable cells => .value (label (.single name)) type nullable cells
  | .group name ⟨columns, rowCount⟩ =>
    .group (label (.single name))
      ⟨Column.relabelAll (fun p => label (p.under [name])) columns, rowCount⟩
  | .frames name fs => .frames (label (.single name)) fs

/-- The same columns side by side. -/
def Column.relabelAll (label : Path → String) : List Column → List Column
  | [] => []
  | c :: cs => c.relabel label :: Column.relabelAll label cs

end

/-- **The same frame under other names.** -/
def Frame.relabel (label : Path → String) (f : Frame) : Frame :=
  ⟨Column.relabelAll label f.columns, f.rowCount⟩

/-- **Labels of columns side by side differ**, at every level of the frame. -/
def Frame.Distinguished (label : Path → String) (f : Frame) : Prop :=
  ∀ above g, f.groupAt? above = some g → (g.names.map fun name => label (.below above name)).Nodup

@[simp] theorem Path.last_single (name : String) : (Path.single name).last = name := rfl

namespace Column

variable {label : Path → String} {c : Column}

theorem relabelAll_eq_map (label : Path → String) (cs : List Column) :
    relabelAll label cs = cs.map (relabel label) := by
  induction cs with
  | nil => rfl
  | cons c cs ih => rw [relabelAll, ih, List.map_cons]

theorem relabel_leaf (hc : c.group? = none) :
    c.relabel label = c.rename (label (.single c.name)) := by
  cases c with
  | group name f => exact absurd hc (by simp [group?])
  | value _ _ _ _ => rw [relabel]; rfl
  | frames _ _ => rw [relabel]; rfl

theorem relabel_group (label : Path → String) (name : String) (f : Frame) :
    (group name f).relabel label =
      .group (label (.single name)) (f.relabel fun p => label (p.under [name])) := by
  obtain ⟨columns, rowCount⟩ := f
  rw [relabel]
  rfl

@[simp] theorem name_relabel (label : Path → String) (c : Column) :
    (c.relabel label).name = label (.single c.name) := by
  rcases c with _ | ⟨_, _, _⟩ | _ <;> simp only [relabel, name]

@[simp] theorem length_relabel (label : Path → String) (c : Column) :
    (c.relabel label).length = c.length := by
  rcases c with _ | ⟨_, _, _⟩ | _ <;> simp only [relabel, length]

end Column

namespace Frame

variable {label : Path → String} {f : Frame}

theorem columns_relabel (label : Path → String) (f : Frame) :
    (f.relabel label).columns = f.columns.map (Column.relabel label) :=
  Column.relabelAll_eq_map label f.columns

theorem names_relabel (label : Path → String) (f : Frame) :
    (f.relabel label).names = f.names.map fun name => label (.single name) := by
  rw [names, columns_relabel, names, List.map_map, List.map_map]
  exact List.map_congr_left fun c _ => Column.name_relabel label c

/-- The columns that are relabelled, by position. -/
theorem getElem?_names_relabel {i : Nat} {c : Column} (hi : f.columns[i]? = some c) :
    (f.relabel label).names[i]? = some (label (.single c.name)) := by
  rw [names_relabel, names, List.map_map, List.getElem?_map, hi]
  rfl

/-- If labels differ, they do so inside every column. -/
theorem Distinguished.column (h : f.Distinguished label) (hf : f.names.Nodup) {name : String}
    {g : Frame} (hg : Column.group name g ∈ f.columns) :
    g.Distinguished fun p => label (p.under [name]) := by
  intro above k hk
  have hcolumn : f.column? name = some (.group name g) := column?_name hf hg
  exact h (name :: above) k (by rw [groupAt?_cons, hcolumn]; exact hk)

/-- **Where labels differ, a frame stays well-formed under them.** -/
theorem wellFormed_relabel_of_columns (hf : f.WellFormed) (h : f.Distinguished label)
    (hcolumns : ∀ c ∈ f.columns, (c.relabel label).WellFormed) : (f.relabel label).WellFormed := by
  refine wellFormed_iff.mpr ⟨?_, ?_, ?_⟩
  · rw [names_relabel]
    exact h [] f rfl
  · rw [columns_relabel]
    refine List.forall_mem_map.mpr fun c hc => ?_
    rw [Column.length_relabel]
    exact (wellFormed_iff.mp hf).2.1 c hc
  · rw [columns_relabel]
    exact List.forall_mem_map.mpr hcolumns

end Frame

theorem Column.wellFormed_relabel {c : Column} {label : Path → String} (hc : c.WellFormed)
    (h : ∀ g, c.group? = some g → g.Distinguished fun p => label (p.under [c.name])) :
    (c.relabel label).WellFormed := by
  induction c using groupInduction generalizing label with
  | leaf c hleaf => rwa [relabel_leaf hleaf, wellFormed_rename]
  | group name f ih =>
    have hf : f.WellFormed := (wellFormed_group _ _).mp hc
    have hlabels := h f rfl
    rw [relabel_group, wellFormed_group]
    refine Frame.wellFormed_relabel_of_columns hf hlabels fun d hd => ih d hd (hf.of_mem hd) ?_
    exact fun g hg => hlabels.column hf.nodup_names (group?_eq_some_iff.mp hg ▸ hd)

namespace Frame

variable {label : Path → String} {f : Frame}

theorem WellFormed.relabel (hf : f.WellFormed) (h : f.Distinguished label) :
    (f.relabel label).WellFormed :=
  wellFormed_relabel_of_columns hf h fun _ hc =>
    Column.wellFormed_relabel (hf.of_mem hc) fun _ hg =>
      h.column hf.nodup_names (Column.group?_eq_some_iff.mp hg ▸ hc)

/-- Only where labels differ: at every level they are the names under which the frame is well-formed. -/
theorem distinguished_of_relabel (hf : f.WellFormed) (h : (f.relabel label).WellFormed) :
    f.Distinguished label := by
  intro above g hg
  induction above generalizing f label with
  | nil =>
    obtain rfl : f = g := Option.some.inj hg
    have hnodup := h.nodup_names
    rwa [names_relabel] at hnodup
  | cons name rest ih =>
    obtain ⟨c, inner, hc, hgroup, hg⟩ := groupAt?_cons_eq_some_iff.mp hg
    obtain rfl : c = .group name inner := by
      rw [← name_of_column?_eq_some hc]
      exact Column.group?_eq_some_iff.mp hgroup
    have hmem := mem_of_column?_eq_some hc
    have hcolumn := h.of_mem (columns_relabel label f ▸ List.mem_map_of_mem hmem)
    rw [Column.relabel_group, Column.wellFormed_group] at hcolumn
    exact ih ((hf.of_mem hmem).frame rfl) hcolumn hg

end Frame

/-- A column under the names that it has is the same, -/
theorem Column.relabel_last (c : Column) : c.relabel Path.last = c := by
  induction c using groupInduction with
  | leaf c hc => rw [relabel_leaf hc, Path.last_single, rename_name]
  | group name f ih =>
    obtain ⟨columns, rowCount⟩ := f
    simp only [relabel_group, Path.last_under, Path.last_single, Frame.relabel, relabelAll_eq_map]
    rw [List.map_congr_left ih, List.map_id']

/-- and so is a frame. -/
theorem Frame.relabel_last (f : Frame) : f.relabel Path.last = f := by
  obtain ⟨columns, rowCount⟩ := f
  rw [relabel, Column.relabelAll_eq_map, List.map_congr_left fun c _ => c.relabel_last,
    List.map_id']

/-- A column in which all names stay gets a name of its own only. -/
theorem Column.relabel_eq_rename {c : Column} {label : Path → String}
    (h : (fun p => label (p.under [c.name])) = Path.last) :
    c.relabel label = c.rename (label (.single c.name)) := by
  rcases hc : c.group? with _ | g
  · exact relabel_leaf hc
  · obtain ⟨name, rfl⟩ : ∃ name, c = .group name g := ⟨_, group?_eq_some_iff.mp hc⟩
    rw [relabel_group]
    exact congrArg (group _) (h ▸ g.relabel_last)

/-! ### New names -/

/-- **The name that the column at a path is to have**: a label if the path is one of the outermost
among the paths of the columns that get new names, and else the name that it has. -/
def newName (paths : List (List String)) (label : Path → String) (p : Path) : String :=
  if Outermost paths p.segments then label p else p.last

section NewName

variable {paths : List (List String)} {label : Path → String} {name : String}

theorem outermost_single (hnil : [] ∉ paths) :
    Outermost paths (Path.single name).segments ↔ [] ∈ pathsThrough name paths :=
  (outermost_cons hnil).trans ⟨And.left, fun h => ⟨h, fun _ _ hinit => List.prefix_nil.mp hinit⟩⟩

/-- A column that a path leads to has its label, -/
theorem newName_of_mem (hnil : [] ∉ paths) (h : [] ∈ pathsThrough name paths) :
    newName paths label (.single name) = label (.single name) :=
  if_pos ((outermost_single hnil).mpr h)

/-- and any other its own name. -/
theorem newName_of_not_mem (hnil : [] ∉ paths) (h : [] ∉ pathsThrough name paths) :
    newName paths label (.single name) = name :=
  if_neg (mt (outermost_single hnil).mp h)

/-- In a group with a new name all names stay, -/
theorem newName_under_of_mem (hnil : [] ∉ paths) (h : [] ∈ pathsThrough name paths) :
    (fun p => newName paths label (p.under [name])) = Path.last := by
  funext p
  have hno : ¬Outermost paths (p.under [name]).segments := fun hout =>
    p.nonempty (((outermost_cons hnil).mp hout).2 [] h List.nil_prefix).symm
  rw [newName, if_neg hno, Path.last_under]

/-- and in any other they are those of the paths into the group. -/
theorem newName_under (label : Path → String) (hnil : [] ∉ paths) (name : String) :
    (fun p => newName paths label (p.under [name])) =
      newName (pathsThrough name paths) fun p => label (p.under [name]) := by
  funext p
  have hiff : Outermost paths (p.under [name]).segments ↔
      Outermost (pathsThrough name paths) p.segments := outermost_cons hnil
  rw [newName, newName, Path.last_under]
  simp only [hiff]

theorem newName_nil (label : Path → String) : newName [] label = Path.last := by
  funext p
  exact if_neg fun h => List.not_mem_nil h.1

end NewName

namespace Column

variable {paths : List (List String)} {label : Path → String} {c : Column}

/-- A column with a new name is the same but for that, -/
theorem relabel_of_mem (hnil : [] ∉ paths) (h : [] ∈ pathsThrough c.name paths) :
    c.relabel (newName paths label) = c.rename (label (.single c.name)) := by
  rw [relabel_eq_rename (newName_under_of_mem hnil h), newName_of_mem hnil h]

/-- and one that no path leads to or into is the same altogether. -/
theorem relabel_of_pathsThrough_eq_nil (hnil : [] ∉ paths) (h : pathsThrough c.name paths = []) :
    c.relabel (newName paths label) = c := by
  have hunder := newName_under label hnil c.name
  rw [h, newName_nil] at hunder
  rw [relabel_eq_rename hunder, newName_of_not_mem hnil (h ▸ List.not_mem_nil), rename_name]

end Column

/-! ### Entries with new names -/

/-- The path of a column beside this one, counted from further up. -/
theorem Path.withLast_under (above : List String) (p : Path) (name : String) :
    (p.under above).withLast name = (p.withLast name).under above := by
  refine Path.ext ?_
  show (above ++ p.segments).dropLast ++ [name] = above ++ (p.segments.dropLast ++ [name])
  rw [List.dropLast_append_of_ne_nil p.nonempty, List.append_assoc]

/-- **An entry under the name that its column is to have.** -/
def Taken.relabel (label : Path → String) (e : Taken) : Taken :=
  (e.1, e.2.1.withLast (label e.2.1), e.2.2)

namespace Taken

variable {label : Path → String}

theorem relabel_under (above : List String) (address : List Nat) (e : Taken) :
    (e.under above address).relabel label =
      (e.relabel fun p => label (p.under above)).under above address := by
  show ((_, (e.2.1.under above).withLast _, _) : Taken) = (_, (e.2.1.withLast _).under above, _)
  rw [Path.withLast_under]
  rfl

/-- **Its first name is the new name of the column** that it was taken out of. -/
theorem head?_relabel (label : Path → String) {paths : List (List String)} (hnil : [] ∉ paths)
    {c : Column} {e : Taken} (he : e ∈ c.taken paths) :
    (e.relabel label).2.1.segments.head? = some (newName paths label (.single c.name)) := by
  by_cases hmem : [] ∈ pathsThrough c.name paths
  · rw [Column.taken_of_mem hmem, List.mem_singleton] at he
    rw [he, newName_of_mem hnil hmem]
    rfl
  · rcases hc : c.group? with _ | g
    · rw [Column.taken_leaf hc hmem] at he
      exact absurd he List.not_mem_nil
    · rw [Column.group?_eq_some_iff.mp hc, Column.taken_group hmem] at he
      obtain ⟨e', -, rfl⟩ := List.mem_map.mp he
      rw [relabel_under, newName_of_not_mem hnil hmem]
      rfl

end Taken

/-- **What goes back into a frame**, under the new names. -/
def Frame.renamed (paths : List (List String)) (label : Path → String) (f : Frame) : List Taken :=
  (Column.takenAll paths f.columns).map (Taken.relabel label)

/-! ### A level -/

/-- **A level that columns were taken out of**, and their new names. -/
structure Renaming (f : Frame) (paths : List (List String)) (t : Layout) (label : Path → String) :
    Prop where
  wellFormed : f.WellFormed
  resolves : f.Resolves paths
  children : t.children = f.columns.map (Column.marked paths)
  relabelled : (f.relabel (newName paths label)).WellFormed

/-- **A way to merge that fills places under new names**, if none of the paths is longer than
`depth`. -/
def Renames (below : MergeBelow) (depth : Nat) : Prop :=
  ∀ {f : Frame} {paths : List (List String)} {t : Layout} {label : Path → String}
    (above : List String) (frame : Option Frame), Renaming f paths t label →
      f.renamed paths label ≠ [] → (∀ e ∈ f.renamed paths label, e.names.length ≤ depth) →
        IsLeft frame f paths → below above (some t) frame ((f.renamed paths label).map Taken.pending) =
          .ok (f.relabel (newName paths label))

namespace Renaming

variable {f : Frame} {paths : List (List String)} {t : Layout} {label : Path → String}
variable {i : Nat} {c : Column}

section Column

variable (h : Renaming f paths t label)

include h

theorem nil_not_mem : [] ∉ paths :=
  fun hnil => (h.resolves [] hnil).1 rfl

/-- The new names differ. -/
theorem nodup_newNames :
    (f.columns.map fun c => newName paths label (.single c.name)).Nodup := by
  have hnodup := h.relabelled.nodup_names
  rwa [Frame.names_relabel, Frame.names, List.map_map] at hnodup

/-- The entries with the new name of a column are what was taken out of it. -/
theorem named_eq (hi : f.columns[i]? = some c) :
    Taken.named (f.renamed paths label) (newName paths label (.single c.name)) =
      (c.taken paths).map fun e => (e.relabel label).under [] [i] := by
  have hkeys : (f.columns.map fun c => some (newName paths label (.single c.name))).Nodup := by
    have hmap := h.nodup_newNames.map fun _ _ => Option.some.inj
    rwa [List.map_map] at hmap
  rw [Taken.named, Frame.renamed, List.filter_map]
  have hfilter := Column.filter_takenAll_of_key
    (fun c => some (newName paths label (.single c.name)))
    (fun e => (e.relabel label).2.1.segments.head?) hkeys
    (fun d _ j e he => Taken.head?_relabel (e := e) label h.nil_not_mem he) hi
  refine (congrArg (List.map _) hfilter).trans ?_
  rw [List.map_map]
  exact List.map_congr_left fun e _ => Taken.relabel_under [] [i] e

/-- Every entry has the new name of a column, and a node that is at or below the one of the column. -/
theorem exists_of_mem {e : Taken} (he : e ∈ f.renamed paths label) :
    ∃ (i : Nat) (c : Column) (rest : List Nat), f.columns[i]? = some c ∧
      newName paths label (.single c.name) = e.pending.name ∧ e.1 = i :: rest := by
  obtain ⟨_, hmem, rfl⟩ := List.mem_map.mp he
  obtain ⟨i, c, hi, e', he', rfl⟩ := Column.mem_takenAll.mp hmem
  refine ⟨i, c, e'.1, hi, ?_, rfl⟩
  have hhead := Taken.head?_relabel label h.nil_not_mem he'
  exact Option.some.inj (hhead.symm.trans (Taken.head?_segments _))

/-- **The places are filled in the order of the new names.** -/
theorem fills : Fills f paths t (f.relabel (newName paths label)).names (f.renamed paths label) := by
  refine ⟨h.children, h.wellFormed.nodup_names, h.relabelled.nodup_names, fun i c hi hleft => ?_,
    fun e he => ?_⟩
  · have hthere : [] ∉ pathsThrough c.name paths := fun hmem => by
      rw [Column.prune?_of_mem hmem] at hleft
      exact absurd hleft (by simp)
    rw [Frame.getElem?_names_relabel hi, newName_of_not_mem h.nil_not_mem hthere]
  · obtain ⟨i, c, rest, hi, hname, hplace⟩ := h.exists_of_mem he
    exact ⟨i, c, rest, hi, hname ▸ Frame.getElem?_names_relabel hi, hplace⟩

/-- **The level of a group** that keeps its name. -/
theorem group {name : String} {g : Frame} (hi : f.columns[i]? = some (.group name g))
    (hthere : [] ∉ pathsThrough name paths) :
    Renaming g (pathsThrough name paths) ((Column.group name g).marked paths)
      fun p => label (p.under [name]) := by
  have hmem := List.mem_of_getElem? hi
  refine ⟨(Column.wellFormed_group _ _).mp (h.wellFormed.of_mem hmem),
    resolves_of_group (fun _ hrest => h.resolves.column h.wellFormed.nodup_names hmem hrest) hthere,
    Column.children_marked_group hthere, ?_⟩
  have hcolumn : ((Column.group name g).relabel (newName paths label)).WellFormed :=
    h.relabelled.of_mem (Frame.columns_relabel _ f ▸ List.mem_map_of_mem hmem)
  rwa [Column.relabel_group, Column.wellFormed_group, newName_under label h.nil_not_mem] at hcolumn

end Column

/-! ### What becomes of a name -/

variable {below : MergeBelow} {depth : Nat} {above : List String} {frame : Option Frame}

section Join

variable (h : Renaming f paths t label) (hframe : IsLeft frame f paths)

include h hframe

/-- A column that was taken as a whole gets its new name. -/
theorem join_of_whole (hi : f.columns[i]? = some c) (hwhole : [] ∈ pathsThrough c.name paths) :
    Frame.join below above (some t) frame ((f.renamed paths label).map Taken.pending)
        (newName paths label (.single c.name)) =
      .ok (some (c.relabel (newName paths label))) := by
  have hcolumn := h.fills.column?_eq_none hframe hi (Frame.getElem?_names_relabel hi)
    (Column.prune?_of_mem hwhole)
  have hmembers := Taken.members_named (f.renamed paths label) (newName paths label (.single c.name))
  rw [h.named_eq hi, Column.taken_of_mem hwhole] at hmembers
  rw [Frame.join_of_single hcolumn hmembers rfl, newName_of_mem h.nil_not_mem hwhole,
    Column.relabel_of_mem h.nil_not_mem hwhole]
  rfl

/-- A group that was not taken as a whole gets what was taken out of it, under the new names. -/
theorem join_of_group {name : String} {g : Frame} (hi : f.columns[i]? = some (.group name g))
    (hbelow : Renames below depth)
    (hdepth : ∀ e ∈ f.renamed paths label, e.names.length ≤ depth + 1)
    (hthere : [] ∉ pathsThrough name paths)
    (hinside : Taken.named (f.renamed paths label) name ≠ []) :
    Frame.join below above (some t) frame ((f.renamed paths label).map Taken.pending) name =
      .ok (some ((Column.group name g).relabel (newName paths label))) := by
  have hg := h.group hi hthere
  have hname : newName paths label (.single name) = name :=
    newName_of_not_mem h.nil_not_mem hthere
  have hnamed : Taken.named (f.renamed paths label) name =
      (g.renamed (pathsThrough name paths) fun p => label (p.under [name])).map
        (Taken.under [name] [i]) := by
    have heq := h.named_eq hi
    rw [show (Column.group name g).name = name from rfl, hname, Column.taken_group hthere] at heq
    rw [heq, Frame.renamed, List.map_map, List.map_map]
    refine List.map_congr_left fun e _ => ?_
    show ((e.under [name] []).relabel label).under [] [i] = _
    rw [Taken.relabel_under, Taken.under_under]
    rfl
  have hne : (g.renamed (pathsThrough name paths) fun p => label (p.under [name])) ≠ [] :=
    fun hnil => hinside (by rw [hnamed, hnil, List.map_nil])
  rw [h.fills.join_of_group hframe hi hthere hne hnamed fun frame hleft =>
    hbelow (above ++ [name]) frame hg hne (Taken.length_names_le_of_named hnamed hdepth) hleft,
    Column.relabel_group, newName_under label h.nil_not_mem, hname]

/-- A column that nothing was taken out of is left, and stays as it is. -/
theorem join_of_untouched (hi : f.columns[i]? = some c) (hthere : [] ∉ pathsThrough c.name paths)
    (hnone : Taken.named (f.renamed paths label) c.name = []) :
    Frame.join below above (some t) frame ((f.renamed paths label).map Taken.pending) c.name =
      .ok (some (c.relabel (newName paths label))) := by
  have hmem := List.mem_of_getElem? hi
  have htaken : c.taken paths = [] := by
    have heq := h.named_eq hi
    rw [newName_of_not_mem h.nil_not_mem hthere, hnone] at heq
    exact List.map_eq_nil_iff.mp heq.symm
  have hpaths : pathsThrough c.name paths = [] := by
    by_contra hne
    exact Column.taken_ne_nil (h.wellFormed.of_mem hmem)
      (fun _ hrest => h.resolves.column h.wellFormed.nodup_names hmem hrest) hne htaken
  rw [h.fills.join_of_named_eq_nil hframe hmem hnone, Column.prune?_of_pathsThrough_eq_nil hpaths,
    Column.relabel_of_pathsThrough_eq_nil h.nil_not_mem hpaths]

/-- **What becomes of the new name of a column** is the column under the new names. -/
theorem join_newName (hi : f.columns[i]? = some c) (hbelow : Renames below depth)
    (hdepth : ∀ e ∈ f.renamed paths label, e.names.length ≤ depth + 1) :
    Frame.join below above (some t) frame ((f.renamed paths label).map Taken.pending)
        (newName paths label (.single c.name)) =
      .ok (some (c.relabel (newName paths label))) := by
  by_cases hwhole : [] ∈ pathsThrough c.name paths
  · exact h.join_of_whole hframe hi hwhole
  · rw [newName_of_not_mem h.nil_not_mem hwhole]
    by_cases hinside : Taken.named (f.renamed paths label) c.name = []
    · exact h.join_of_untouched hframe hi hwhole hinside
    · rcases hleaf : c.group? with _ | g
      · -- nothing can be taken out of a column that is no group
        have hnone := h.named_eq hi
        rw [newName_of_not_mem h.nil_not_mem hwhole, Column.taken_leaf hleaf hwhole,
          List.map_nil] at hnone
        exact absurd hnone hinside
      · rw [Column.group?_eq_some_iff.mp hleaf] at hi ⊢
        exact h.join_of_group hframe hi hbelow hdepth hwhole hinside

/-- **What becomes of a name** is what is under it in the frame with the new names. -/
theorem join_eq (hbelow : Renames below depth)
    (hdepth : ∀ e ∈ f.renamed paths label, e.names.length ≤ depth + 1) (name : String) :
    Frame.join below above (some t) frame ((f.renamed paths label).map Taken.pending) name =
      .ok ((f.relabel (newName paths label)).column? name) := by
  cases hc : (f.relabel (newName paths label)).column? name with
  | none => exact h.fills.join_of_not_mem hframe (Frame.column?_eq_none_iff.mp hc)
  | some d =>
    have hd := Frame.mem_of_column?_eq_some hc
    have hname := Frame.name_of_column?_eq_some hc
    rw [Frame.columns_relabel] at hd
    obtain ⟨c, hmem, rfl⟩ := List.mem_map.mp hd
    obtain ⟨i, hi⟩ := List.getElem?_of_mem hmem
    rw [← hname, Column.name_relabel]
    exact h.join_newName hframe hi hbelow hdepth

end Join

end Renaming

/-- **A merge fills places with new names**, at every depth. -/
theorem renames_mergeBelow (depth : Nat) : Renames (Frame.mergeBelow depth) depth := by
  induction depth with
  | zero =>
    intro f paths t label above frame h hne hdepth hframe
    obtain ⟨e, he⟩ := List.exists_mem_of_ne_nil _ hne
    exact absurd (List.length_eq_zero_iff.mp (Nat.le_zero.mp (hdepth e he))) e.2.1.nonempty
  | succ depth ih =>
    intro f paths t label above frame h hne hdepth hframe
    exact (h.fills.mergeBelow_eq hframe hne h.relabelled rfl (List.Sublist.refl _)
      (h.join_eq hframe ih hdepth)).1

/-! ### Moving where columns stand -/

namespace Frame

variable {f : Frame}

/-- **The name that the column at a path is to have** after a move, if only last segments change. -/
def nameAfter (paths : List Path) (target : Path → Path) : Path → String :=
  newName (paths.map Path.segments) fun p => (target p).last

/-- A move that changes last segments is a merge of entries under the new names. -/
theorem WellFormed.move_eq_relabel (hf : f.WellFormed) {paths : List Path} {target : Path → Path}
    (hpaths : ∀ path ∈ paths, ∃ c, f.get path = .ok c)
    (htarget : ∀ path ∈ paths, (target path).segments.dropLast = path.segments.dropLast)
    (hnames : f.Distinguished (nameAfter paths target)) :
    f.move paths target = .ok (f.relabel (nameAfter paths target)) := by
  have hresolves := resolves_map_segments hpaths
  set segments := paths.map Path.segments with hsegments
  set label : Path → String := fun p => (target p).last with hlabel
  have hrenaming : Renaming f segments (f.marked segments) label :=
    ⟨hf, hresolves, rfl, hf.relabel hnames⟩
  have hnodes : ∀ e ∈ f.renamed segments label, ∃ s, (f.marked segments).at? e.1 = some s :=
    List.forall_mem_map.mpr fun e he => at?_of_mem_takenAll (e := e) hf rfl he
  -- the requests of the move are for the entries under the new names
  have hrequests : (Column.takenAll segments f.columns).map
      (fun e => Request.mk (target e.2.1) e.2.2 (some ((f.marked segments).number e.1))) =
        (f.renamed segments label).map (Taken.request (f.marked segments)) := by
    rw [renamed, List.map_map]
    refine List.map_congr_left fun e he => ?_
    have hlisted : e.2.1 ∈ f.paths.filter fun p => Outermost segments p.segments :=
      f.map_path_takenAll hrenaming.nil_not_mem ▸ List.mem_map_of_mem he
    obtain ⟨path, hpath, heq⟩ :=
      List.mem_map.mp (of_decide_eq_true (List.mem_filter.mp hlisted).2).1
    have hmoved : target e.2.1 = e.2.1.withLast (label e.2.1) := by
      rw [← Path.ext heq]
      conv_lhs => rw [← Path.withLast_last (target path)]
      exact Path.ext (congrArg (· ++ [(target path).last]) (htarget path hpath))
    rw [hmoved]
    rfl
  have hmerge : merge (some (f.pruned segments))
      ((f.renamed segments label).map (Taken.request (f.marked segments)))
      (some (f.marked segments)) = .ok (f.relabel (newName segments label)) := by
    by_cases hnone : segments = []
    · rw [renamed, hnone, Column.takenAll_nil, List.map_nil, List.map_nil, merge_nil, pruned_nil,
        newName_nil, relabel_last]
      rfl
    · have hne : f.renamed segments label ≠ [] :=
        mt List.map_eq_nil_iff.mp (Column.takenAll_ne_nil hf hresolves hnone)
      rw [merge, Taken.map_ofRequest_request hnodes]
      refine renames_mergeBelow _ [] _ hrenaming hne (fun e he => ?_) ⟨rfl, fun _ => rfl⟩
      exact length_le_deepest (List.mem_map_of_mem (f := Taken.request (f.marked segments)) he)
  rw [move, (remove_eq_ok_iff hf).mpr ⟨hpaths, rfl⟩]
  show merge (some (f.pruned segments)) (((Column.takenAll segments f.columns).map _).map _)
    (some (f.marked segments)) = _
  rw [List.map_map]
  exact (congrArg (fun requests => merge _ requests _) hrequests).trans hmerge

/-- **Renaming in place.** A move that changes last segments only, to names that differ from each other
and from those that stay, renames the outermost of its columns where they stand and does nothing else.
Renaming one column is the case of one path; under its own name a column stays as it is. -/
theorem move_in_place (hf : f.WellFormed) :
    (∀ (paths : List Path) (target : Path → Path), (∀ path ∈ paths, ∃ c, f.get path = .ok c) →
      (∀ path ∈ paths, (target path).segments.dropLast = path.segments.dropLast) →
      f.Distinguished (nameAfter paths target) →
        f.move paths target = .ok (f.relabel (nameAfter paths target))) ∧
    (∀ path name c, f.get path = .ok c →
      f.Distinguished (nameAfter [path] fun p => p.withLast name) →
        f.rename path name = .ok (f.relabel (nameAfter [path] fun p => p.withLast name))) ∧
    ∀ path c, f.get path = .ok c → f.rename path path.last = .ok f := by
  have hsame (path : Path) (c : Column) (hc : f.get path = .ok c) :
      f.rename path path.last = .ok f := by
    rw [rename, if_pos rfl, hc]
    rfl
  refine ⟨fun paths target => hf.move_eq_relabel, fun path name c hc hnames => ?_, hsame⟩
  by_cases hlast : path.last = name
  · -- the label of the path is the name that it has
    have hlabel : (nameAfter [path] fun p => p.withLast name) = Path.last := by
      funext p
      rw [nameAfter, newName, ite_eq_right_iff]
      intro hout
      obtain rfl : p = path := Path.ext (List.mem_singleton.mp hout.1)
      rw [← hlast, Path.withLast_last]
    rw [hlabel, relabel_last, ← hlast, hsame path c hc]
  · rw [rename, if_neg hlast]
    exact hf.move_eq_relabel (List.forall_mem_singleton.mpr ⟨c, hc⟩)
      (List.forall_mem_singleton.mpr List.dropLast_concat) hnames

/-- All columns of a group change their names with each other, and the group beside it gets a name
of its own, whatever is to become of the column in it; one column gets a name that is in another
group. -/
theorem move_in_place_permuted :
    let f : Frame :=
      ⟨[.group "g" ⟨[.ofTexts "x" [some "1"], .ofTexts "y" [none]], 1⟩,
        .group "h" ⟨[.ofTexts "z" [some "2"]], 1⟩], 1⟩
    let paths : List Path := [.below ["h"] "z", .below ["g"] "y", .single "h", .below ["g"] "x"]
    let target : Path → Path := fun p =>
      p.withLast (if p.last = "x" then "y" else if p.last = "y" then "x" else "k")
    (f.WellFormed ∧ (∀ path ∈ paths, ∃ c, f.get path = .ok c) ∧
        (∀ path ∈ paths, (target path).segments.dropLast = path.segments.dropLast) ∧
        f.Distinguished (nameAfter paths target) ∧
        f.Distinguished (nameAfter [.below ["h"] "z"] fun p => p.withLast "x")) ∧
      f.move paths target = .ok
        ⟨[.group "g" ⟨[.ofTexts "y" [some "1"], .ofTexts "x" [none]], 1⟩,
          .group "k" ⟨[.ofTexts "z" [some "2"]], 1⟩], 1⟩ ∧
      f.rename (.below ["h"] "z") "x" = .ok
        ⟨[.group "g" ⟨[.ofTexts "x" [some "1"], .ofTexts "y" [none]], 1⟩,
          .group "h" ⟨[.ofTexts "x" [some "2"]], 1⟩], 1⟩ ∧
      f.rename (.below ["h"] "z") "z" = .ok f := by
  intro f paths target
  have hf : f.WellFormed := by
    simp [f, Frame.WellFormed, columnsWellFormed, Column.WellFormed, Column.ofTexts,
      Column.ofValues, cellsWellFormed, Value.ofText, Value.WellFormed, Column.name, Column.length]
  have hpaths : ∀ path ∈ paths, ∃ c, f.get path = .ok c := by
    refine List.forall_mem_cons.mpr ⟨⟨_, rfl⟩, List.forall_mem_cons.mpr ⟨⟨_, rfl⟩, ?_⟩⟩
    exact List.forall_mem_cons.mpr ⟨⟨_, rfl⟩, List.forall_mem_singleton.mpr ⟨_, rfl⟩⟩
  have htarget : ∀ path ∈ paths, (target path).segments.dropLast = path.segments.dropLast :=
    fun path _ => List.dropLast_concat
  have hmoved : f.relabel (nameAfter paths target) =
      ⟨[.group "g" ⟨[.ofTexts "y" [some "1"], .ofTexts "x" [none]], 1⟩,
        .group "k" ⟨[.ofTexts "z" [some "2"]], 1⟩], 1⟩ := by
    rfl
  have hrenamed : f.relabel (nameAfter [.below ["h"] "z"] fun p => p.withLast "x") =
      ⟨[.group "g" ⟨[.ofTexts "x" [some "1"], .ofTexts "y" [none]], 1⟩,
        .group "h" ⟨[.ofTexts "x" [some "2"]], 1⟩], 1⟩ := by
    rfl
  have hnames : f.Distinguished (nameAfter paths target) := by
    refine distinguished_of_relabel hf ?_
    rw [hmoved]
    simp [Frame.WellFormed, columnsWellFormed, Column.WellFormed, Column.ofTexts,
      Column.ofValues, cellsWellFormed, Value.ofText, Value.WellFormed, Column.name, Column.length]
  have hname : f.Distinguished (nameAfter [.below ["h"] "z"] fun p => p.withLast "x") := by
    refine distinguished_of_relabel hf ?_
    rw [hrenamed]
    simp [Frame.WellFormed, columnsWellFormed, Column.WellFormed, Column.ofTexts,
      Column.ofValues, cellsWellFormed, Value.ofText, Value.WellFormed, Column.name, Column.length]
  obtain ⟨hmove, hrename, hsame⟩ := move_in_place hf
  refine ⟨⟨hf, hpaths, htarget, hnames, hname⟩, ?_, ?_, ?_⟩
  · rw [hmove paths target hpaths htarget hnames, hmoved]
  · rw [hrename _ "x" _ rfl hname, hrenamed]
  · exact hsame (.below ["h"] "z") _ rfl

end Frame

end Colonnade
