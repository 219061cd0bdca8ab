import Colonnade.Proofs.Removal.Refill
import Mathlib.Data.List.Forall2

/-!
# Putting columns back

A removal gives out what it takes, with the nodes it was taken from. Requests for some of it, in any
order, merged into what remains, leave out the rest and nothing else: the outcome is the frame that
one gets by removing the rest alone (`Frame.merge_removed`). Everything put back is the frame itself.

The argument follows a merge down. What is known of a level is `Restoring`: the frame it had, the
paths that were taken out of it, and how the entries are divided into those that go back and those that
stay out. It passes from a level to the groups in it (`Restoring.group`), whether something was left of
them or not, and at a level it says for every name what becomes of it (`Restoring.join_eq`) and that
all of it comes home.
-/

namespace Colonnade

/-- A list divided in two is the image of one divided in two, if it is one of the same members. -/
theorem exists_map_eq_of_perm {α β : Type} {h : α → β} {bs cs : List β} {as : List α}
    (hp : (bs ++ cs).Perm (as.map h)) :
    ∃ bs' cs' : List α, bs = bs'.map h ∧ cs = cs'.map h ∧ (bs' ++ cs').Perm as := by
  have hall : List.Forall₂ (fun b a => b = h a) (as.map h) as :=
    List.forall₂_map_left_iff.mpr (List.forall₂_same.mpr fun a _ => rfl)
  obtain ⟨w, hw, hperm⟩ := List.perm_comp_forall₂ hp hall
  have heq : bs ++ cs = w.map h := by
    have hmap := List.forall₂_map_right_iff.mpr hw
    exact List.forall₂_eq_eq_eq ▸ hmap
  obtain ⟨bs', cs', rfl, rfl, rfl⟩ := List.map_eq_append_iff.mp heq.symm
  exact ⟨bs', cs', rfl, rfl, hperm⟩

/-! ### A level -/

/-- **A level that columns were taken out of**, of which some go back and the others stay out. -/
structure Restoring (f : Frame) (paths : List (List String)) (t : Layout) (back out : List Taken) :
    Prop where
  wellFormed : f.WellFormed
  resolves : f.Resolves paths
  children : t.children = f.columns.map (Column.marked paths)
  perm : (back ++ out).Perm (Column.takenAll paths f.columns)

namespace Restoring

variable {f : Frame} {paths : List (List String)} {t : Layout} {back out : List Taken}

/-- The entries with the name of a column are what was taken out of it. -/
theorem perm_named (h : Restoring f paths t back out) {i : Nat} {c : Column}
    (hi : f.columns[i]? = some c) :
    (Taken.named back c.name ++ Taken.named out c.name).Perm
      ((c.taken paths).map (Taken.under [] [i])) := by
  rw [← Column.filter_takenAll h.wellFormed.nodup_names hi, Taken.named, Taken.named,
    ← List.filter_append]
  exact h.perm.filter _

/-- Every entry has the name of a column. -/
theorem name_mem (h : Restoring f paths t back out) {e : Taken} (he : e ∈ back) :
    e.pending.name ∈ f.names := by
  obtain ⟨i, c, hi, e', he', rfl⟩ :=
    Column.mem_takenAll.mp (h.perm.subset (List.mem_append_left out he))
  obtain ⟨rest, hrest⟩ := Column.exists_segments_of_mem_taken he'
  have hnames : (e'.under [] [i]).names = c.name :: rest := hrest
  rw [Taken.names_eq_cons] at hnames
  exact (List.cons.inj hnames).1 ▸ List.mem_map_of_mem (List.mem_of_getElem? hi)

section Column

variable (h : Restoring f paths t back out) {i : Nat} {c : Column} (hi : f.columns[i]? = some c)

include h hi

theorem wellFormed_column : c.WellFormed :=
  h.wellFormed.of_mem (List.mem_of_getElem? hi)

theorem column_resolves : ∀ rest ∈ pathsThrough c.name paths, ∃ d, c.descend? rest = some d :=
  fun _ hrest =>
    h.resolves.column h.wellFormed.nodup_names (List.mem_of_getElem? hi) hrest

/-- The address of an entry leads through the column of its name. -/
theorem place_of_mem_named {e : Taken} (he : e ∈ Taken.named back c.name) :
    ∃ rest, e.1 = i :: rest := by
  obtain ⟨e', -, rfl⟩ := List.mem_map.mp ((h.perm_named hi).subset (List.mem_append_left _ he))
  exact ⟨e'.1, rfl⟩

/-- Where nothing goes back, what stays out leaves of a column what the removal has left. -/
theorem prune?_of_named_eq_nil (hnil : Taken.named back c.name = []) :
    c.prune? (out.map Taken.names) = c.prune? paths := by
  have hperm := h.perm_named hi
  rw [hnil, List.nil_append] at hperm
  refine Column.prune?_of_taken (h.wellFormed_column hi) (h.column_resolves hi) fun rest => ?_
  rw [Taken.pathsThrough_map_names, List.mem_map]
  constructor
  · rintro ⟨e, he, rfl⟩
    obtain ⟨e', he', rfl⟩ := List.mem_map.mp (hperm.subset he)
    obtain ⟨rest, hrest⟩ := Column.exists_segments_of_mem_taken he'
    refine ⟨e', he', ?_⟩
    change e'.2.1.segments = c.name :: e'.2.1.segments.tail
    rw [hrest, List.tail_cons]
  · rintro ⟨e', he', hrest⟩
    refine ⟨_, hperm.symm.subset (List.mem_map_of_mem he'), ?_⟩
    change e'.2.1.segments.tail = rest
    rw [hrest, List.tail_cons]

/-- A column that was taken as a whole goes back or stays out. -/
theorem of_whole (hwhole : [] ∈ pathsThrough c.name paths) (hback : Taken.named back c.name ≠ []) :
    Taken.named back c.name = [([i], Path.single c.name, c)] ∧ Taken.named out c.name = [] := by
  have hperm := h.perm_named hi
  rw [Column.taken_of_mem hwhole] at hperm
  have hlength := hperm.length_eq
  rw [List.length_append, List.map_cons, List.map_nil, List.length_singleton] at hlength
  have hpos := List.length_pos_iff.mpr hback
  have hout : Taken.named out c.name = [] := List.length_eq_zero_iff.mp (by omega)
  rw [hout, List.append_nil] at hperm
  exact ⟨List.perm_singleton.mp hperm, hout⟩

end Column

/-- **What goes back comes home**: the positions of the names are the old ones. -/
theorem fills (h : Restoring f paths t back out) : Fills f paths t f.names back := by
  have hname {i : Nat} {c : Column} (hi : f.columns[i]? = some c) : f.names[i]? = some c.name := by
    rw [Frame.names, List.getElem?_map, hi, Option.map_some]
  refine ⟨h.children, h.wellFormed.nodup_names, h.wellFormed.nodup_names,
    fun i c hi _ => hname hi, fun e he => ?_⟩
  obtain ⟨c, hc, hcname⟩ := List.mem_map.mp (h.name_mem he)
  obtain ⟨i, hi⟩ := List.getElem?_of_mem hc
  obtain ⟨rest, hrest⟩ := h.place_of_mem_named hi (Taken.mem_named.mpr ⟨he, hcname.symm⟩)
  exact ⟨i, c, rest, hi, hcname ▸ hname hi, hrest⟩

/-- **The level of a group** that was not taken as a whole. -/
theorem group (h : Restoring f paths t back out) {i : Nat} {label : String} {g : Frame}
    (hi : f.columns[i]? = some (.group label g)) (hthere : [] ∉ pathsThrough label paths) :
    ∃ back' out' : List Taken,
      Taken.named back label = back'.map (Taken.under [label] [i]) ∧
      Taken.named out label = out'.map (Taken.under [label] [i]) ∧
      Restoring g (pathsThrough label paths) ((Column.group label g).marked paths) back' out' := by
  have hperm := h.perm_named hi
  rw [Column.taken_group hthere, List.map_map] at hperm
  obtain ⟨back', out', hback, hout, hperm'⟩ := exists_map_eq_of_perm hperm
  have hunder : Taken.under [] [i] ∘ Taken.under [label] [] = Taken.under [label] [i] :=
    funext fun e => Taken.under_under [] [label] [i] [] e
  rw [hunder] at hback hout
  refine ⟨back', out', hback, hout, ?_, ?_, Column.children_marked_group hthere, hperm'⟩
  · exact (Column.wellFormed_group _ _).mp (h.wellFormed_column hi)
  · exact resolves_of_group (h.column_resolves hi) hthere

end Restoring

/-! ### What becomes of a name -/

/-- **A way to merge that puts entries back**, if none of their paths is longer than `depth`. -/
def Restores (below : MergeBelow) (depth : Nat) : Prop :=
  ∀ {f : Frame} {paths : List (List String)} {t : Layout} {back out : List Taken}
    (above : List String) (frame : Option Frame), Restoring f paths t back out → back ≠ [] →
      (∀ e ∈ back, e.names.length ≤ depth) → IsLeft frame f paths →
        below above (some t) frame (back.map Taken.pending) = .ok (f.pruned (out.map Taken.names)) ∧
          (f.pruned (out.map Taken.names)).columns ≠ []

namespace Restoring

variable {f : Frame} {paths : List (List String)} {t : Layout} {back out : List Taken}
variable {below : MergeBelow} {depth : Nat} {above : List String} {frame : Option Frame}

/-- A column that was taken as a whole and goes back is itself again. -/
theorem join_of_whole (h : Restoring f paths t back out) {i : Nat} {c : Column}
    (hi : f.columns[i]? = some c) (hframe : IsLeft frame f paths)
    (hwhole : [] ∈ pathsThrough c.name paths) (hback : Taken.named back c.name ≠ []) :
    Frame.join below above (some t) frame (back.map Taken.pending) c.name =
      .ok (c.prune? (out.map Taken.names)) := by
  obtain ⟨hone, hout⟩ := h.of_whole hi hwhole hback
  have hnodup := h.wellFormed.nodup_names
  have hcolumn : (frame.getD .empty).column? c.name = none := by
    rw [hframe.column?_eq hnodup, Frame.column?_name hnodup (List.mem_of_getElem? hi),
      Option.bind_some, Column.prune?_of_mem hwhole]
  have hmembers := Taken.members_named back c.name
  rw [hone] at hmembers
  have hpaths : pathsThrough c.name (out.map Taken.names) = [] := by
    rw [Taken.pathsThrough_map_names, hout]
    rfl
  rw [Column.prune?_of_pathsThrough_eq_nil hpaths, Frame.join_of_single hcolumn hmembers rfl]
  exact congrArg (fun d => Except.ok (some d)) (Column.rename_name c)

/-- A group that was not taken as a whole gets back what goes into it. -/
theorem join_of_group (h : Restoring f paths t back out) {i : Nat} {label : String} {g : Frame}
    (hi : f.columns[i]? = some (.group label g)) (hframe : IsLeft frame f paths)
    (hbelow : Restores below depth) (hdepth : ∀ e ∈ back, e.names.length ≤ depth + 1)
    (hthere : [] ∉ pathsThrough label paths) (hback : Taken.named back label ≠ []) :
    Frame.join below above (some t) frame (back.map Taken.pending) label =
      .ok ((Column.group label g).prune? (out.map Taken.names)) := by
  obtain ⟨back', out', hback', hout', hg⟩ := h.group hi hthere
  have hne : back' ≠ [] := fun hnil => hback (by rw [hback', hnil, List.map_nil])
  have hmerge (frame : Option Frame) (hleft : IsLeft frame g (pathsThrough label paths)) :=
    hbelow (above ++ [label]) frame hg hne (Taken.length_names_le_of_named hback' hdepth) hleft
  rw [h.fills.join_of_group hframe hi hthere hne hback' fun frame hleft => (hmerge frame hleft).1]
  -- and this is what the group is without what stays out
  have hpaths := Taken.pathsThrough_of_named hout'
  have hnotwhole : [] ∉ pathsThrough label (out.map Taken.names) := by
    rw [hpaths]
    intro hnil
    obtain ⟨e, -, he⟩ := List.mem_map.mp hnil
    exact e.2.1.nonempty he
  have hleft : IsLeft (some (g.pruned (pathsThrough label paths))) g (pathsThrough label paths) :=
    ⟨rfl, fun _ => rfl⟩
  rw [Column.prune?_group hnotwhole, hpaths, if_neg fun hno => (hmerge _ hleft).2 hno.2]
  rfl

/-- **What becomes of a name is what is left of its column without what stays out.** -/
theorem join_eq (h : Restoring f paths t back out) (hframe : IsLeft frame f paths)
    (hbelow : Restores below depth) (hdepth : ∀ e ∈ back, e.names.length ≤ depth + 1)
    (name : String) :
    Frame.join below above (some t) frame (back.map Taken.pending) name =
      .ok ((f.pruned (out.map Taken.names)).column? name) := by
  have hnodup := h.wellFormed.nodup_names
  rw [Frame.column?_pruned hnodup]
  cases hc : f.column? name with
  | none =>
    rw [h.fills.join_of_not_mem hframe (Frame.column?_eq_none_iff.mp hc)]
    rfl
  | some c =>
    obtain ⟨hmem, rfl⟩ := (Frame.column?_eq_some_iff hnodup).mp hc
    obtain ⟨i, hi⟩ := List.getElem?_of_mem hmem
    rw [Option.bind_some]
    by_cases hback : Taken.named back c.name = []
    · -- nothing goes back into the column
      rw [h.fills.join_of_named_eq_nil hframe hmem hback, h.prune?_of_named_eq_nil hi hback]
    · by_cases hwhole : [] ∈ pathsThrough c.name paths
      · exact h.join_of_whole hi hframe hwhole hback
      · rcases hleaf : c.group? with _ | g
        · -- nothing was taken out of a column that is no group
          have hperm := h.perm_named hi
          rw [Column.taken_leaf hleaf hwhole, List.map_nil] at hperm
          exact absurd (List.append_eq_nil_iff.mp hperm.eq_nil).1 hback
        · rw [Column.group?_eq_some_iff.mp hleaf] at hi ⊢
          exact h.join_of_group hi hframe hbelow hdepth hwhole hback

end Restoring

/-- **A merge puts entries back**, at every depth. -/
theorem restores_mergeBelow (depth : Nat) : Restores (Frame.mergeBelow depth) depth := by
  induction depth with
  | zero =>
    intro f paths t back out above frame h hne hdepth hframe
    obtain ⟨e, he⟩ := List.exists_mem_of_ne_nil _ hne
    exact absurd (List.length_eq_zero_iff.mp (Nat.le_zero.mp (hdepth e he))) e.2.1.nonempty
  | succ depth ih =>
    intro f paths t back out above frame h hne hdepth hframe
    exact h.fills.mergeBelow_eq hframe hne (h.wellFormed.pruned _) rfl
      (Frame.names_pruned_sublist f _) (h.join_eq hframe ih hdepth)

/-! ### Putting entries back -/

/-- **An entry of a removal as a request** for the place where it was. -/
def Removed.request (r : Removed) : Request where
  path := r.path
  column := r.column
  node := some r.node

namespace Frame

variable {f : Frame}

/-- Where nothing goes back, what stays out leaves what the removal has left. -/
theorem pruned_eq_of_restoring {paths : List (List String)} {t : Layout} {out : List Taken}
    (h : Restoring f paths t [] out) : f.pruned (out.map Taken.names) = f.pruned paths := by
  rw [pruned, pruned, List.filterMap_congr fun c hc => ?_]
  obtain ⟨i, hi⟩ := List.getElem?_of_mem hc
  exact h.prune?_of_named_eq_nil hi rfl

/-- An entry of a removal, as an entry of its uppermost level. -/
def entryOf (t : Layout) (e : Taken) : Removed where
  path := e.2.1
  column := e.2.2
  node := t.number e.1

/-- **What goes back is left out of what stays out**, in terms of the entries of a level. -/
theorem merge_restoring {paths : List (List String)} {t : Layout} {back out : List Taken}
    (h : Restoring f paths t back out) :
    merge (some (f.pruned paths)) ((back.map (entryOf t)).map Removed.request) (some t) =
      .ok (f.pruned (out.map Taken.names)) := by
  have hrequests : (back.map (entryOf t)).map Removed.request = back.map (Taken.request t) := by
    rw [List.map_map]
    rfl
  have hnodes : ∀ e ∈ back, ∃ s, t.at? e.1 = some s := fun e he =>
    at?_of_mem_takenAll h.wellFormed h.children (h.perm.subset (List.mem_append_left out he))
  by_cases hback : back = []
  · subst hback
    rw [pruned_eq_of_restoring h]
    exact merge_nil _ _
  · rw [merge, hrequests, Taken.map_ofRequest_request hnodes]
    refine (restores_mergeBelow _ [] _ h hback (fun e he => ?_) ⟨rfl, fun _ => rfl⟩).1
    exact length_le_deepest (List.mem_map_of_mem (f := Taken.request t) he)

/-- **Partial restore.** Some of what a removal takes out, put back in any order, makes the frame from
which the rest alone has been removed; all of it makes the frame itself. -/
theorem merge_removed {paths : List Path} (hf : f.WellFormed)
    (hpaths : ∀ path ∈ paths, ∃ c, f.get path = .ok c) :
    ∃ removal, f.remove paths = .ok removal ∧
      (∀ back out : List Removed, (back ++ out).Perm removal.removed →
        ∃ rest, f.remove (out.map Removed.path) = .ok rest ∧
          merge (some removal.frame) (back.map Removed.request) (some removal.layout) =
            .ok rest.frame) ∧
      ∀ back : List Removed, back.Perm removal.removed →
        merge (some removal.frame) (back.map Removed.request) (some removal.layout) = .ok f := by
  have hresolves := resolves_map_segments hpaths
  have hrestoring (back out : List Removed) (hperm : (back ++ out).Perm
      ((Column.takenAll (paths.map Path.segments) f.columns).map
        (entryOf (f.marked (paths.map Path.segments))))) :
      (∀ path ∈ out.map Removed.path, ∃ c, f.get path = .ok c) ∧
        merge (some (f.pruned (paths.map Path.segments))) (back.map Removed.request)
            (some (f.marked (paths.map Path.segments))) =
          .ok (f.pruned ((out.map Removed.path).map Path.segments)) := by
    obtain ⟨back', out', rfl, rfl, hperm'⟩ := exists_map_eq_of_perm hperm
    constructor
    · refine List.forall_mem_map.mpr (List.forall_mem_map.mpr fun e he => ⟨e.2.2, ?_⟩)
      exact get_eq_ok_iff.mpr
        (find?_of_mem_takenAll hf (hperm'.subset (List.mem_append_right _ he)))
    · have hnames : ((out'.map (entryOf (f.marked (paths.map Path.segments)))).map
          Removed.path).map Path.segments = out'.map Taken.names := by
        rw [List.map_map, List.map_map]
        rfl
      rw [hnames]
      exact merge_restoring ⟨hf, hresolves, rfl, hperm'⟩
  refine ⟨_, (remove_eq_ok_iff hf).mpr ⟨hpaths, rfl⟩, fun back out hperm => ?_, fun back hperm => ?_⟩
  · obtain ⟨hout, hmerge⟩ := hrestoring back out hperm
    exact ⟨_, (remove_eq_ok_iff hf).mpr ⟨hout, rfl⟩, hmerge⟩
  · obtain ⟨-, hmerge⟩ := hrestoring back [] (by rwa [List.append_nil])
    rw [List.map_nil, List.map_nil, pruned_nil] at hmerge
    exact hmerge

/-- A group that goes because both of its columns go, and one path below another. -/
theorem merge_removed_nested :
    let f : Frame :=
      ⟨[.group "g" ⟨[.ofTexts "x" [some "1"], .group "h" ⟨[.ofTexts "y" [none]], 1⟩], 1⟩,
        .ofTexts "a" [some "2"]], 1⟩
    let paths : List Path :=
      [.below ["g", "h"] "y", .below ["g"] "x", .below ["g"] "h", .below ["g"] "x"]
    (f.WellFormed ∧ ∀ path ∈ paths, ∃ c, f.get path = .ok c) ∧
      ∃ removal, f.remove paths = .ok removal ∧
        (∀ back out : List Removed, (back ++ out).Perm removal.removed →
          ∃ rest, f.remove (out.map Removed.path) = .ok rest ∧
            merge (some removal.frame) (back.map Removed.request) (some removal.layout) =
              .ok rest.frame) ∧
        ∀ back : List Removed, back.Perm removal.removed →
          merge (some removal.frame) (back.map Removed.request) (some removal.layout) = .ok f := by
  intro f paths
  have hf : f.WellFormed := by
    simp [f, Frame.WellFormed, columnsWellFormed, Column.WellFormed, Column.ofTexts,
      Column.ofValues, cellsWellFormed, Value.ofText, Value.WellFormed, Column.name, Column.length]
  have hpaths : ∀ path ∈ paths, ∃ c, f.get path = .ok c := by
    refine List.forall_mem_cons.mpr ⟨⟨_, rfl⟩, List.forall_mem_cons.mpr ⟨⟨_, rfl⟩, ?_⟩⟩
    exact List.forall_mem_cons.mpr ⟨⟨_, rfl⟩, List.forall_mem_singleton.mpr ⟨_, rfl⟩⟩
  exact ⟨⟨hf, hpaths⟩, merge_removed hf hpaths⟩

end Frame

end Colonnade
