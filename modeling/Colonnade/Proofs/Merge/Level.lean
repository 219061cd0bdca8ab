import Colonnade.Proofs.FirstSeen
import Colonnade.Proofs.Frame.Descent
import Colonnade.Proofs.Merge.Placement
import Colonnade.Proofs.Outcome

/-!
# One level of a merge

A level does many things in one pass: it looks up every column among the parts, sorts the parts
that are left over, builds their columns and places them. This file takes it apart into two
questions that have nothing to do with each other.

* *What becomes of a name?* `Frame.join` is the answer: the column that is there, or the one
  that a request puts there, with the requests that lead into it.
* *Where do the names go?* `Frame.placedNames` is the answer; it looks at names and anchors only.

`Frame.mergeLevel_eq_ok_iff` puts the two together: a level gives a frame if and only if its
columns are what becomes of their names, its names are in their places and its columns have one
length. Nothing after this file opens `Frame.mergeLevel`.
-/

namespace Colonnade

/-! ### The requests for a name -/

namespace Part

/-- The requests of a level for a name. -/
def named (pending : List Pending) (name : String) : Part where
  name := name
  members := pending.filter fun p => p.name == name

theorem split_eq_map (pending : List Pending) :
    split pending = (pending.map Pending.name).eraseDups.map (named pending) := rfl

variable {pending : List Pending} {name : String}

theorem mem_named {p : Pending} : p ∈ (named pending name).members ↔ p ∈ pending ∧ p.name = name := by
  simp [named]

theorem named_members_eq_nil : (named pending name).members = [] ↔ name ∉ pending.map Pending.name := by
  simp [named]

theorem find?_split (pending : List Pending) (name : String) :
    ((split pending).find? fun part => part.name == name) =
      if name ∈ pending.map Pending.name then some (named pending name) else none := by
  have hfind : ((split pending).find? fun part => part.name == name) =
      ((pending.map Pending.name).eraseDups.find? fun x => x == name).map (named pending) := by
    rw [split_eq_map, List.find?_map]
    rfl
  rw [hfind, find?_beq_eq]
  by_cases h : name ∈ pending.map Pending.name <;> simp [h]

/-- Whether requests go on does not depend on where their nodes are. -/
theorem deeper_eq_nil_iff {part : Part} {i : Option Nat} :
    part.deeper i = [] ↔ ∀ p ∈ part.members, p.rest = [] := by
  rw [deeper, List.filterMap_eq_nil_iff]
  refine forall₂_congr fun p _ => ?_
  cases h : p.rest <;> simp [Pending.deeper?, h]

theorem terminal_eq_nil_iff {part : Part} :
    part.terminal = [] ↔ ∀ p ∈ part.members, p.rest ≠ [] := by
  simp [terminal, List.filter_eq_nil_iff]

/-- A part has requests that end here or requests that go on. -/
theorem deeper_ne_nil {part : Part} {i : Option Nat} (hm : part.members ≠ [])
    (ht : part.terminal = []) : part.deeper i ≠ [] := by
  obtain ⟨p, hp⟩ := List.exists_mem_of_ne_nil _ hm
  intro hd
  exact terminal_eq_nil_iff.mp ht p hp (deeper_eq_nil_iff.mp hd p hp)

end Part

/-! ### What becomes of a name -/

namespace Part

/-- **The seat of a part**: the column that requests may lead into, which is the one that is
there or else the one that a request puts there. -/
def seat (above : List String) (part : Part) : Option Column → Except FrameError (Option Column)
  | some c =>
    if part.terminal.isEmpty then .ok (some c)
    else .error (.pathAlreadyExists (Path.below above part.name))
  | none =>
    match part.terminal with
    | [] => .ok none
    | [request] => .ok (some (request.column.rename part.name))
    | _ => .error (.multipleColumnsAtPath (Path.below above part.name))

/-- A seat with the requests that lead into it; if there is none, they get a new group. -/
def fill (below : MergeBelow) (above : List String) (layout : Option Layout) (part : Part)
    (seat : Option Column) : Except FrameError (Option Column) :=
  if (part.deeper none).isEmpty then .ok seat
  else
    match seat with
    | none => (part.mergeDeeper below above layout none).map some
    | some (.group _ inner) => (part.mergeDeeper below above layout (some inner)).map some
    | some _ => .error (.notAColumnGroup (Path.below above part.name))

variable {below : MergeBelow} {above : List String} {layout : Option Layout}
variable {pending : List Pending}

/-- Where no request ends, the seat is what is there. -/
theorem seat_of_terminal_eq_nil {part : Part} (ht : part.terminal = [])
    (existing : Option Column) : part.seat above existing = .ok existing := by
  cases existing <;> simp [seat, ht]

/-- **The three ways to a seat.** -/
theorem seat_eq_ok {part : Part} {existing b : Option Column}
    (h : part.seat above existing = .ok b) :
    (∃ c, existing = some c ∧ part.terminal = [] ∧ b = some c) ∨
      (existing = none ∧ part.terminal = [] ∧ b = none) ∨
      ∃ t, existing = none ∧ part.terminal = [t] ∧ b = some (t.column.rename part.name) := by
  rcases existing with _ | c
  · rcases ht : part.terminal with _ | ⟨t, _ | ⟨t', ts⟩⟩
    · exact Or.inr (Or.inl ⟨rfl, rfl, by simpa [seat, ht] using h.symm⟩)
    · exact Or.inr (Or.inr ⟨t, rfl, rfl, by simpa [seat, ht] using h.symm⟩)
    · simp [seat, ht] at h
  · by_cases ht : part.terminal = []
    · exact Or.inl ⟨c, rfl, ht, by simpa [seat, ht] using h.symm⟩
    · simp [seat, ht] at h

/-- A column that is there is the seat of its name. -/
theorem mergeColumn_map_some (c : Column) :
    (mergeColumn below above layout (split pending) c).map some =
      (named pending c.name).seat above (some c) >>=
        (named pending c.name).fill below above layout := by
  rw [mergeColumn, find?_split]
  by_cases hname : c.name ∈ pending.map Pending.name
  · have hm : (named pending c.name).members ≠ [] := fun h => named_members_eq_nil.mp h hname
    rw [if_pos hname]
    simp only [mergeInto, seat]
    by_cases ht : (named pending c.name).terminal = []
    · have hd : (named pending c.name).deeper none ≠ [] := deeper_ne_nil hm ht
      cases c <;> simp_all [fill, bind, Except.bind, Except.map]
    · simp [ht, bind, Except.bind, Except.map]
  · have hm : (named pending c.name).members = [] := named_members_eq_nil.mpr hname
    have ht : (named pending c.name).terminal = [] := terminal_eq_nil_iff.mpr (by simp [hm])
    have hd : (named pending c.name).deeper none = [] := deeper_eq_nil_iff.mpr (by simp [hm])
    simp [hname, seat, fill, ht, hd, bind, Except.bind, Except.map]

/-- A new column is built on the seat that a request provides, or on none. -/
theorem newColumn_map_some {part : Part} (hm : part.members ≠ []) :
    (part.newColumn below above layout).map some =
      part.seat above none >>= part.fill below above layout := by
  rw [newColumn, seat]
  rcases ht : part.terminal with _ | ⟨request, _ | ⟨second, rest⟩⟩
  · have hd : part.deeper none ≠ [] := deeper_ne_nil hm ht
    simp [fill, hd, bind, Except.bind]
  · by_cases hd : part.deeper none = []
    · simp [fill, hd, bind, Except.bind, Except.map]
    · cases hc : request.column <;>
        simp [fill, hd, hc, Column.rename, bind, Except.bind, Except.map]
  · simp [bind, Except.bind, Except.map]

/-- Without requests that go on, a seat stays as it is. -/
theorem fill_of_deeper_eq_nil {part : Part} (hd : part.deeper none = []) (b : Option Column) :
    part.fill below above layout b = .ok b := by
  simp [fill, hd]

/-- Requests that go on are merged into the group of the seat, or into none. -/
theorem fill_of_group {part : Part} {b : Option Column} (hd : part.deeper none ≠ [])
    (hb : ∀ c ∈ b, ∃ f, c.group? = some f) :
    part.fill below above layout b =
      (part.mergeDeeper below above layout (b.bind Column.group?)).map some := by
  rcases b with _ | c
  · simp [fill, hd]
  · obtain ⟨f, hf⟩ := hb c rfl
    rw [Option.bind_some, hf, Column.group?_eq_some_iff.mp hf]
    simp [fill, hd]

/-- They do not go into any other column. -/
theorem fill_of_leaf {part : Part} {c : Column} (hd : part.deeper none ≠ []) (hc : c.group? = none) :
    part.fill below above layout (some c) =
      .error (.notAColumnGroup (Path.below above part.name)) := by
  cases c with
  | group label f => exact absurd hc (by simp [Column.group?])
  | value _ _ _ _ => simp [fill, hd]
  | frames _ _ => simp [fill, hd]

/-- A seat is no column or a group, or it is in the way. -/
theorem seat_group_or_leaf (b : Option Column) :
    (∀ c ∈ b, ∃ f, c.group? = some f) ∨ ∃ c, b = some c ∧ c.group? = none := by
  rcases b with _ | c
  · exact Or.inl (by simp)
  · rcases hc : c.group? with _ | f
    · exact Or.inr ⟨c, rfl, hc⟩
    · exact Or.inl (by rintro d ⟨⟩; exact ⟨f, hc⟩)

/-- **The two ways to fill a seat**: no requests go on, or they are merged into its group. -/
theorem fill_eq_ok {part : Part} {b d : Option Column}
    (h : part.fill below above layout b = .ok d) :
    (part.deeper none = [] ∧ d = b) ∨
      part.deeper none ≠ [] ∧ (∀ c ∈ b, ∃ f, c.group? = some f) ∧
        ∃ r, below (above ++ [part.name]) (part.child layout).2 (b.bind Column.group?)
            (part.deeper (part.child layout).1) = .ok r ∧ d = some (.group part.name r) := by
  by_cases hd : part.deeper none = []
  · rw [fill_of_deeper_eq_nil hd] at h
    exact Or.inl ⟨hd, (Except.ok.inj h).symm⟩
  · rcases seat_group_or_leaf b with hb | ⟨c, rfl, hc⟩
    · rw [fill_of_group hd hb] at h
      obtain ⟨_, hmerge, rfl⟩ := map_eq_ok_iff.mp h
      obtain ⟨r, hr, rfl⟩ := map_eq_ok_iff.mp hmerge
      exact Or.inr ⟨hd, hb, r, hr, rfl⟩
    · rw [fill_of_leaf hd hc] at h
      exact absurd h (by simp)

/-- What becomes of a column keeps its name. -/
theorem name_of_fill {part : Part} {b : Option Column} {c : Column}
    (hb : ∀ d ∈ b, d.name = part.name) (h : part.fill below above layout b = .ok (some c)) :
    c.name = part.name := by
  rcases fill_eq_ok h with ⟨-, hcb⟩ | ⟨-, -, r, -, hcr⟩
  · exact hb c hcb.symm
  · obtain rfl := Option.some.inj hcr
    rfl

/-- A seat has the name of its part. -/
theorem name_of_seat {part : Part} {existing b : Option Column}
    (he : ∀ d ∈ existing, d.name = part.name) (h : part.seat above existing = .ok b) :
    ∀ d ∈ b, d.name = part.name := by
  rcases seat_eq_ok h with ⟨c, rfl, -, rfl⟩ | ⟨-, -, rfl⟩ | ⟨t, -, -, rfl⟩
  · exact he
  · rintro d ⟨⟩
  · rintro d ⟨⟩
    exact Column.name_rename _ _

/-- A new column has the name of its part. -/
theorem name_of_newColumn {part : Part} {c : Column}
    (h : part.newColumn below above layout = .ok c) : c.name = part.name := by
  unfold newColumn at h
  split at h
  · obtain ⟨g, -, rfl⟩ := map_eq_ok_iff.mp h
    rfl
  · split at h
    · obtain rfl := Except.ok.inj h
      exact Column.name_rename _ _
    · split at h
      · obtain ⟨g, -, rfl⟩ := map_eq_ok_iff.mp h
        rfl
      · exact absurd h (by simp)
  · exact absurd h (by simp)

end Part

namespace Frame

variable (below : MergeBelow) (above : List String) (layout : Option Layout)
variable (frame : Option Frame) (pending : List Pending)

/-- **What becomes of a name** at a level: no column, the column that is there, or a column with
requests in it. -/
def join (name : String) : Except FrameError (Option Column) :=
  (Part.named pending name).seat above ((frame.getD empty).column? name) >>=
    (Part.named pending name).fill below above layout

/-- The names of the requests that no column has, as they come first. -/
def newNames (names : List String) (pending : List Pending) : List String :=
  (pending.map Pending.name).eraseDups.filter (· ∉ names)

/-- New names with their anchors, in ascending order of them. -/
def anchoredNames (names : List String) : List (Option Nat × String) :=
  ((newNames names pending).map fun name =>
    ((Part.named pending name).anchor? layout, name)).mergeSort fun a b => Part.anchorLe a.1 b.1

/-- **Where the names go** at a level. -/
def placedNames (names : List String) : List String :=
  (Walk.start layout).place names (anchoredNames layout pending names)

variable {below above layout frame pending}

theorem mem_newNames {names : List String} {name : String} :
    name ∈ newNames names pending ↔ name ∈ pending.map Pending.name ∧ name ∉ names := by
  simp [newNames]

theorem nodup_newNames (names : List String) : (newNames names pending).Nodup :=
  (nodup_eraseDups _).filter _

theorem anchoredNames_perm (names : List String) :
    ((anchoredNames layout pending names).map Prod.snd).Perm (newNames names pending) := by
  have h := (List.mergeSort_perm ((newNames names pending).map fun name =>
    ((Part.named pending name).anchor? layout, name))
      (fun a b => Part.anchorLe a.1 b.1)).map Prod.snd
  simpa [anchoredNames, Function.comp_def] using h

/-- A level keeps the names that are there and adds the new ones. -/
theorem placedNames_perm (names : List String) :
    (placedNames layout pending names).Perm (names ++ newNames names pending) :=
  (Walk.place_perm _ _ _).trans ((anchoredNames_perm names).append_left names)

/-- Without requests all names stay where they are. -/
theorem placedNames_nil (names : List String) : placedNames layout [] names = names := by
  have hnew : newNames names [] = [] := by simp [newNames]
  simp [placedNames, anchoredNames, hnew, Walk.place]

theorem mem_placedNames {names : List String} {name : String} :
    name ∈ placedNames layout pending names ↔ name ∈ names ∨ name ∈ pending.map Pending.name := by
  rw [(placedNames_perm names).mem_iff, List.mem_append, mem_newNames]
  tauto

theorem nodup_placedNames {names : List String} (h : names.Nodup) :
    (placedNames layout pending names).Nodup := by
  rw [(placedNames_perm names).nodup_iff, List.nodup_append]
  refine ⟨h, nodup_newNames names, fun a ha b hb hab => ?_⟩
  exact (mem_newNames.mp hb).2 (hab ▸ ha)

/-- The parts for new columns are those of the new names. -/
theorem fresh_split (columns : List Column) :
    Part.fresh columns (Part.split pending) =
      (newNames (columns.map Column.name) pending).map (Part.named pending) := by
  rw [Part.fresh, Part.split_eq_map, List.filter_map, newNames]
  refine congrArg _ (List.filter_congr fun name _ => ?_)
  rw [Bool.eq_iff_iff]
  simp [Part.named]

theorem byAnchor_fresh_split (columns : List Column) :
    (Part.byAnchor layout (Part.fresh columns (Part.split pending))).map
        (fun entry => (entry.1, entry.2.name)) =
      anchoredNames layout pending (columns.map Column.name) := by
  rw [Part.byAnchor, fresh_split, anchoredNames,
    List.map_mergeSort (s := fun a b => Part.anchorLe a.1 b.1)]
  · simp [Function.comp_def, Part.named]
  · intros
    rfl

theorem mem_byAnchor_fresh_split {columns : List Column} {entry : Option Nat × Part} :
    entry ∈ Part.byAnchor layout (Part.fresh columns (Part.split pending)) ↔
      ∃ name ∈ newNames (columns.map Column.name) pending,
        ((Part.named pending name).anchor? layout, Part.named pending name) = entry := by
  rw [Part.byAnchor, List.mem_mergeSort, fresh_split, List.map_map, List.mem_map]
  rfl

/-! ### The level -/

/-- What becomes of the name of a column that is there. -/
theorem join_name_of_mem (hf : (frame.getD empty).names.Nodup) {c : Column}
    (hc : c ∈ (frame.getD empty).columns) :
    join below above layout frame pending c.name =
      (Part.mergeColumn below above layout (Part.split pending) c).map some := by
  rw [join, column?_name hf hc, Part.mergeColumn_map_some]

/-- What becomes of a new name. -/
theorem join_of_mem_newNames {name : String}
    (h : name ∈ newNames (frame.getD empty).names pending) :
    join below above layout frame pending name =
      ((Part.named pending name).newColumn below above layout).map some := by
  obtain ⟨hmem, hnot⟩ := mem_newNames.mp h
  have hm : (Part.named pending name).members ≠ [] := fun hnil =>
    Part.named_members_eq_nil.mp hnil hmem
  rw [join, column?_eq_none_iff.mpr hnot, Part.newColumn_map_some hm]

/-- Nothing becomes of a name without requests, and what is there stays as it is. -/
theorem join_of_not_mem {name : String} (h : name ∉ pending.map Pending.name) :
    join below above layout frame pending name = .ok ((frame.getD empty).column? name) := by
  have hm : (Part.named pending name).members = [] := Part.named_members_eq_nil.mpr h
  have ht : (Part.named pending name).terminal = [] := Part.terminal_eq_nil_iff.mpr (by simp [hm])
  have hd : (Part.named pending name).deeper none = [] := Part.deeper_eq_nil_iff.mpr (by simp [hm])
  cases hc : (frame.getD empty).column? name <;>
    simp [join, hc, Part.seat, Part.fill, ht, hd, bind, Except.bind]

/-- What becomes of a name has that name. -/
theorem name_of_join {name : String} {c : Column}
    (h : join below above layout frame pending name = .ok (some c)) : c.name = name := by
  obtain ⟨b, hseat, hfill⟩ := bind_eq_ok_iff.mp h
  refine Part.name_of_fill (Part.name_of_seat ?_ hseat) hfill
  exact fun d hd => name_of_column?_eq_some hd

/-- **Something becomes of a name** that is there or is asked for. -/
theorem isSome_of_join {name : String} {b : Option Column}
    (h : join below above layout frame pending name = .ok b) :
    b.isSome ↔ name ∈ (frame.getD empty).names ∨ name ∈ pending.map Pending.name := by
  obtain ⟨d, hseat, hfill⟩ := bind_eq_ok_iff.mp h
  have hfilled : d.isSome → b.isSome := by
    intro hd
    rcases Part.fill_eq_ok hfill with ⟨-, rfl⟩ | ⟨-, -, r, -, rfl⟩
    · exact hd
    · rfl
  constructor
  · intro hb
    by_contra hno
    obtain ⟨hold, hnew⟩ := not_or.mp hno
    rw [join_of_not_mem hnew, column?_eq_none_iff.mpr hold] at h
    obtain rfl := Except.ok.inj h
    exact absurd hb (by simp)
  · rintro (hold | hnew)
    · rcases Part.seat_eq_ok hseat with ⟨c, -, -, rfl⟩ | ⟨hc, -, -⟩ | ⟨t, -, -, rfl⟩
      · exact hfilled rfl
      · exact absurd hold (column?_eq_none_iff.mp hc)
      · exact hfilled rfl
    · have hm : (Part.named pending name).members ≠ [] := fun hnil =>
        Part.named_members_eq_nil.mp hnil hnew
      rcases Part.seat_eq_ok hseat with ⟨c, -, -, rfl⟩ | ⟨-, ht, -⟩ | ⟨t, -, -, rfl⟩
      · exact hfilled rfl
      · -- no request ends here, so some go on and get a group
        rcases Part.fill_eq_ok hfill with ⟨hd, -⟩ | ⟨-, -, r, -, rfl⟩
        · exact absurd hd (Part.deeper_ne_nil hm ht)
        · rfl
      · exact hfilled rfl

/-- The columns that are there keep their names, -/
theorem names_of_mapM_mergeColumn {columns merged : List Column}
    (h : columns.mapM (Part.mergeColumn below above layout (Part.split pending)) = .ok merged) :
    merged.map Column.name = columns.map Column.name := by
  refine map_eq_of_mapM_eq_ok (fun c c' hc => ?_) h
  have hjoin : (Part.mergeColumn below above layout (Part.split pending) c).map some = _ :=
    Part.mergeColumn_map_some c
  rw [hc] at hjoin
  obtain ⟨b, hseat, hfill⟩ := bind_eq_ok_iff.mp hjoin.symm
  exact Part.name_of_fill (Part.name_of_seat (by rintro d ⟨⟩; rfl) hseat) hfill

/-- and new columns have the new names, with their anchors. -/
theorem names_of_mapM_newColumn {columns : List Column} {built : List (Option Nat × Column)}
    (h : ((Part.byAnchor layout (Part.fresh columns (Part.split pending))).mapM fun entry =>
      (entry.2.newColumn below above layout).map fun c => (entry.1, c)) = .ok built) :
    built.map (fun entry => (entry.1, entry.2.name)) =
      anchoredNames layout pending (columns.map Column.name) := by
  rw [← byAnchor_fresh_split]
  refine map_eq_of_mapM_eq_ok (fun entry entry' he => ?_) h
  obtain ⟨c, hc, rfl⟩ := map_eq_ok_iff.mp he
  rw [Part.name_of_newColumn hc]

/-- The columns of a level: one for every name of which something becomes, in their places. -/
theorem exists_columns (hf : (frame.getD empty).names.Nodup) {merged : List Column}
    {built : List (Option Nat × Column)}
    (hm : (frame.getD empty).columns.mapM
      (Part.mergeColumn below above layout (Part.split pending)) = .ok merged)
    (hb : ((Part.byAnchor layout (Part.fresh (frame.getD empty).columns
      (Part.split pending))).mapM fun entry =>
        (entry.2.newColumn below above layout).map fun c => (entry.1, c)) = .ok built) :
    ((Walk.start layout).place merged built).map Column.name =
        placedNames layout pending (frame.getD empty).names ∧
      ∀ name, join below above layout frame pending name =
        .ok (column? ⟨(Walk.start layout).place merged built, 0⟩ name) := by
  set all := (Walk.start layout).place merged built with hall
  have hnames : all.map Column.name = placedNames layout pending (frame.getD empty).names := by
    rw [hall, Walk.map_place, names_of_mapM_mergeColumn hm, names_of_mapM_newColumn hb]
    rfl
  refine ⟨hnames, fun name => ?_⟩
  have hnodup : (all.map Column.name).Nodup := hnames ▸ nodup_placedNames hf
  have hfound {c : Column} (hc : c ∈ merged ∨ c ∈ built.map Prod.snd) :
      column? ⟨all, 0⟩ c.name = some c :=
    column?_name (f := ⟨all, 0⟩) hnodup ((Walk.place_perm _ _ _).mem_iff.mpr (List.mem_append.mpr hc))
  -- a name is that of a column, of a request for a new one, or of neither
  by_cases hold : name ∈ (frame.getD empty).names
  · obtain ⟨c, hc, rfl⟩ := List.mem_map.mp hold
    obtain ⟨c', hc', hmerge⟩ := exists_of_mapM_eq_ok hm hc
    have hjoin : join below above layout frame pending c.name = .ok (some c') := by
      rw [join_name_of_mem hf hc, hmerge]
      rfl
    rw [hjoin, ← name_of_join hjoin, hfound (Or.inl hc')]
  · by_cases hnew : name ∈ pending.map Pending.name
    · have hmem := mem_newNames.mpr ⟨hnew, hold⟩
      obtain ⟨entry, hentry, hbuild⟩ := exists_of_mapM_eq_ok hb
        (mem_byAnchor_fresh_split.mpr ⟨name, hmem, rfl⟩)
      obtain ⟨c, hc, rfl⟩ := map_eq_ok_iff.mp hbuild
      have hjoin : join below above layout frame pending name = .ok (some c) := by
        rw [join_of_mem_newNames hmem, hc]
        rfl
      rw [hjoin, ← name_of_join hjoin, hfound (Or.inr (List.mem_map_of_mem hentry))]
    · have hnone : name ∉ (Frame.mk all 0).names := by
        change name ∉ all.map Column.name
        rw [hnames, mem_placedNames]
        tauto
      rw [join_of_not_mem hnew, column?_eq_none_iff.mpr hold, column?_eq_none_iff.mpr hnone]

/-- **A level either fails at a name or has its columns and checks their lengths.** -/
theorem mergeLevel_cases (hf : (frame.getD empty).names.Nodup) :
    (∃ name e, join below above layout frame pending name = .error e ∧
        mergeLevel below above layout frame pending = .error e) ∨
      ∃ all : List Column,
        all.map Column.name = placedNames layout pending (frame.getD empty).names ∧
        (∀ name, join below above layout frame pending name = .ok (column? ⟨all, 0⟩ name)) ∧
        mergeLevel below above layout frame pending = withRowCount all (levelRows frame all) := by
  have hcolumns : (frame.map Frame.columns).getD [] = (frame.getD empty).columns := by
    cases frame <;> rfl
  unfold mergeLevel
  simp only [hcolumns]
  rcases hm : (frame.getD empty).columns.mapM
      (Part.mergeColumn below above layout (Part.split pending)) with e | merged
  · -- it fails at a column that is there
    obtain ⟨c, hc, he⟩ := exists_of_mapM_eq_error hm
    refine Or.inl ⟨c.name, e, ?_, rfl⟩
    rw [join_name_of_mem hf hc, he]
    rfl
  · rcases hb : ((Part.byAnchor layout (Part.fresh (frame.getD empty).columns
        (Part.split pending))).mapM fun entry =>
          (entry.2.newColumn below above layout).map fun c => (entry.1, c)) with e | built
    · -- it fails at a new one
      obtain ⟨entry, hentry, he⟩ := exists_of_mapM_eq_error hb
      obtain ⟨name, hname, rfl⟩ := mem_byAnchor_fresh_split.mp hentry
      refine Or.inl ⟨name, e, ?_, by simp [hb, bind, Except.bind]⟩
      rw [join_of_mem_newNames hname, map_eq_error_iff.mp he]
      rfl
    · obtain ⟨hnames, hjoin⟩ := exists_columns hf hm hb
      exact Or.inr ⟨_, hnames, hjoin, by simp [hb, bind, Except.bind]⟩

/-- **A level gives a frame** if and only if the columns of the frame are what becomes of their
names, the names are in their places and the columns have one length. -/
theorem mergeLevel_eq_ok_iff (hf : (frame.getD empty).names.Nodup) {r : Frame} :
    mergeLevel below above layout frame pending = .ok r ↔
      r.names = placedNames layout pending (frame.getD empty).names ∧
      (∀ name, join below above layout frame pending name = .ok (r.column? name)) ∧
      (∀ c ∈ r.columns, c.length = r.rowCount) ∧ r.rowCount = levelRows frame r.columns := by
  constructor
  · intro h
    rcases mergeLevel_cases hf with ⟨_, e, -, he⟩ | ⟨all, hnames, hjoin, hcheck⟩
    · exact absurd (he.symm.trans h) (by simp)
    · obtain ⟨rfl, -, hlength⟩ := withRowCount_eq_ok_iff.mp (hcheck.symm.trans h)
      exact ⟨hnames, hjoin, hlength, rfl⟩
  · rintro ⟨hnames, hjoin, hlength, hrows⟩
    rcases mergeLevel_cases hf with ⟨name, e, he, -⟩ | ⟨all, hnames', hjoin', hcheck⟩
    · exact absurd (he.symm.trans (hjoin name)) (by simp)
    · obtain ⟨columns, rowCount⟩ := r
      have hnodup : (Frame.mk columns rowCount).names.Nodup := by
        rw [hnames]
        exact nodup_placedNames hf
      obtain rfl : columns = all := by
        refine columns_eq_of_names_eq (f := ⟨columns, rowCount⟩) (g := ⟨all, 0⟩) hnodup
          (hnames.trans hnames'.symm) ?_
        exact fun name _ => Except.ok.inj ((hjoin name).symm.trans (hjoin' name))
      rw [hcheck, ← hrows]
      exact withRowCount_eq_ok_iff.mpr ⟨rfl, hnodup, hlength⟩

/-- A level that gives a frame was given one with different names. -/
theorem nodup_names_of_mergeLevel {r : Frame}
    (h : mergeLevel below above layout frame pending = .ok r) :
    (frame.getD empty).names.Nodup := by
  have hcolumns : (frame.map Frame.columns).getD [] = (frame.getD empty).columns := by
    cases frame <;> rfl
  simp only [mergeLevel, hcolumns] at h
  obtain ⟨merged, hmerged, h⟩ := bind_eq_ok_iff.mp h
  obtain ⟨built, -, h⟩ := bind_eq_ok_iff.mp h
  obtain ⟨-, hnodup, -⟩ := withRowCount_eq_ok_iff.mp h
  rw [names, ← names_of_mapM_mergeColumn hmerged]
  exact hnodup.sublist ((Walk.sublist_place _ _ _).map Column.name)

/-- The columns of a level with requests are not none. -/
theorem columns_ne_nil_of_placedNames (hp : pending ≠ []) {columns : List Column}
    {names : List String} (h : columns.map Column.name = placedNames layout pending names) :
    columns ≠ [] := by
  rintro rfl
  obtain ⟨p, hmem⟩ := List.exists_mem_of_ne_nil _ hp
  have hname : p.name ∈ placedNames layout pending names :=
    mem_placedNames.mpr (Or.inr (List.mem_map_of_mem hmem))
  rw [← h] at hname
  exact List.not_mem_nil hname

/-- The number of rows is the length that all columns have. -/
theorem levelRows_eq {columns : List Column} {n : Nat} (hne : columns ≠ [])
    (hframe : (frame.getD empty).columns ≠ [] → (frame.getD empty).rowCount = n)
    (hlength : ∀ c ∈ columns, c.length = n) : levelRows frame columns = n := by
  obtain ⟨c, cs, rfl⟩ := List.exists_cons_of_ne_nil hne
  have hc : c.length = n := hlength c List.mem_cons_self
  cases frame with
  | none => simp [levelRows, hc]
  | some f =>
    by_cases h : f.columns = []
    · simp [levelRows, h, hc]
    · simpa [levelRows, h] using hframe h

/-- **Where all that becomes of names has one length, a level fails only at a name.** -/
theorem mergeLevel_of_length (hf : (frame.getD empty).names.Nodup) (hp : pending ≠ []) {n : Nat}
    (hframe : (frame.getD empty).columns ≠ [] → (frame.getD empty).rowCount = n)
    (hlength : ∀ name c, join below above layout frame pending name = .ok (some c) → c.length = n) :
    (∃ r, mergeLevel below above layout frame pending = .ok r ∧ r.rowCount = n) ∨
      ∃ name e, join below above layout frame pending name = .error e ∧
        mergeLevel below above layout frame pending = .error e := by
  rcases mergeLevel_cases hf with herror | ⟨all, hnames, hjoin, hcheck⟩
  · exact Or.inr herror
  · have hnodup : (all.map Column.name).Nodup := hnames ▸ nodup_placedNames hf
    have hall : ∀ c ∈ all, c.length = n := fun c hc =>
      hlength c.name c ((hjoin c.name).trans
        (congrArg _ (column?_name (f := ⟨all, 0⟩) hnodup hc)))
    have hrows : levelRows frame all = n :=
      levelRows_eq (columns_ne_nil_of_placedNames hp hnames) hframe hall
    refine Or.inl ⟨⟨all, n⟩, ?_, rfl⟩
    rw [hcheck, hrows]
    exact withRowCount_eq_ok_iff.mpr ⟨rfl, hnodup, hall⟩

/-- **When a level gives a frame with `n` rows**: every name gives a column with `n` rows or
none. -/
theorem exists_mergeLevel_iff (hf : (frame.getD empty).WellFormed) (hp : pending ≠ []) {n : Nat} :
    (∃ r, mergeLevel below above layout frame pending = .ok r ∧ r.rowCount = n) ↔
      ((frame.getD empty).columns ≠ [] → (frame.getD empty).rowCount = n) ∧
      ∀ name, ∃ b, join below above layout frame pending name = .ok b ∧
        ∀ c ∈ b, c.length = n := by
  constructor
  · rintro ⟨r, h, rfl⟩
    obtain ⟨hnames, hjoin, hlength, hrows⟩ := (mergeLevel_eq_ok_iff hf.nodup_names).mp h
    refine ⟨fun hne => ?_, fun name => ⟨_, hjoin name, fun c hc => ?_⟩⟩
    · cases frame with
      | none => exact absurd rfl hne
      | some f =>
        rw [hrows, levelRows]
        simp_all
    · exact hlength c (mem_of_column?_eq_some hc)
  · rintro ⟨hframe, hall⟩
    have hlength : ∀ name c, join below above layout frame pending name = .ok (some c) →
        c.length = n := by
      intro name c hc
      obtain ⟨b, hb, hlength⟩ := hall name
      obtain rfl := Except.ok.inj (hb.symm.trans hc)
      exact hlength c rfl
    rcases mergeLevel_of_length hf.nodup_names hp hframe hlength with h | ⟨name, e, he, -⟩
    · exact h
    · obtain ⟨b, hb, -⟩ := hall name
      exact absurd (he.symm.trans hb) (by simp)

end Frame

end Colonnade
