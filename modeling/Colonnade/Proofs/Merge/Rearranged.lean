import Colonnade.Proofs.Merge.Leaves
import Colonnade.Proofs.Merge.Order
import Colonnade.Proofs.Merge.Successive
import Colonnade.Proofs.Removal.Undo

/-!
# The same columns in another order

Where a merge puts new columns is up to the layout, to nodes and to what has been merged before. Nothing
else is: two merges of the same columns, whatever their layouts, give frames that differ in the order of
their columns only, and one of them succeeds if the other does
(`Frame.rearranged_merge`, `Frame.Rearranged.exists_merge`).

`Frame.Rearranged` compares two frames by what names lead to. A group is compared without its columns,
for names lead to those as well. If in addition the columns of every group have one order, the frames
are the same: `Frame.Rearranged.eq_of_names`.
-/

namespace Colonnade

/-- A column without what is inside it: a group with its rows only, any other column as it is. -/
def Column.shell : Column → Column
  | .group name f => .group name ⟨[], f.rowCount⟩
  | .value name type nullable cells => .value name type nullable cells
  | .frames name fs => .frames name fs

/-- **The same columns, in whatever order** at every level: names lead to the same column in both
frames, or in both to a group of one name with as many rows, or in both to nothing. -/
def Frame.Rearranged (f g : Frame) : Prop :=
  ∀ names, (f.find? names).map Column.shell = (g.find? names).map Column.shell

namespace Column

variable {c d : Column} {f g : Frame}

@[simp] theorem shell_group (name : String) (f : Frame) :
    (group name f).shell = group name ⟨[], f.rowCount⟩ := rfl

theorem shell_leaf (hc : c.group? = none) : c.shell = c := by
  cases c with
  | group label f => exact absurd hc (by simp [group?])
  | value _ _ _ _ => rfl
  | frames _ _ => rfl

@[simp] theorem isSome_group?_shell (c : Column) : c.shell.group?.isSome = c.group?.isSome := by
  cases c <;> rfl

/-- Two columns have the same shell if both are no groups and the same, or groups with one name and as
many rows. -/
theorem shell_eq_iff :
    c.shell = d.shell ↔ (c.group? = none ∧ c = d) ∨
      ∃ f g, c = .group c.name f ∧ d = .group c.name g ∧ f.rowCount = g.rowCount := by
  constructor
  · intro h
    have hgroup : c.group?.isSome = d.group?.isSome := by
      rw [← isSome_group?_shell c, h, isSome_group?_shell]
    rcases hc : c.group? with _ | f
    · rw [hc, Option.isSome_none, eq_comm, Option.isSome_eq_false_iff,
        Option.isNone_iff_eq_none] at hgroup
      rw [shell_leaf hc, shell_leaf hgroup] at h
      exact Or.inl ⟨rfl, h⟩
    · rw [hc, Option.isSome_some, eq_comm, Option.isSome_iff_exists] at hgroup
      obtain ⟨g, hd⟩ := hgroup
      rw [group?_eq_some_iff.mp hc, group?_eq_some_iff.mp hd, shell_group, shell_group,
        Column.group.injEq, Frame.mk.injEq] at h
      exact Or.inr ⟨f, g, group?_eq_some_iff.mp hc, h.1 ▸ group?_eq_some_iff.mp hd, h.2.2⟩
  · rintro (⟨-, rfl⟩ | ⟨f, g, hc, hd, hrows⟩)
    · rfl
    · rw [hc, hd, shell_group, shell_group, hrows]

/-- What is in two groups, if names lead to the same in both. -/
theorem rearranged_of_descend?
    (h : ∀ names, (c.descend? names).map shell = (d.descend? names).map shell)
    (hc : c.group? = some f) (hd : d.group? = some g) : f.Rearranged g := by
  have hc' := group?_eq_some_iff.mp hc
  have hd' := group?_eq_some_iff.mp hd
  rintro (_ | ⟨name, rest⟩)
  · have hnil := h []
    rw [hc', hd'] at hnil
    have hrows : c.name = d.name ∧ f.rowCount = g.rowCount := by simpa using hnil
    simpa using hrows.2
  · have hcons := h (name :: rest)
    rw [hc', hd'] at hcons
    exact hcons

/-- What names lead to in two groups of one name, if they lead to the same in their frames. -/
theorem shell_descend?_group {names : List String}
    (h : (f.find? names).map shell = (g.find? names).map shell) (label : String) :
    ((group label f).descend? names).map shell = ((group label g).descend? names).map shell := by
  cases names with
  | nil => simpa using h
  | cons name rest => exact h

end Column

namespace Frame

variable {f g k : Frame}

namespace Rearranged

theorem refl (f : Frame) : f.Rearranged f := fun _ => rfl

theorem symm (h : f.Rearranged g) : g.Rearranged f := fun names => (h names).symm

theorem trans (hfg : f.Rearranged g) (hgk : g.Rearranged k) : f.Rearranged k := fun names =>
  (hfg names).trans (hgk names)

theorem rowCount_eq (h : f.Rearranged g) : f.rowCount = g.rowCount := by
  have hnil := h []
  simpa using hnil

/-- Names that lead to a column in one frame lead to one of the same shell in the other. -/
theorem exists_find? (h : f.Rearranged g) {names : List String} {c : Column}
    (hc : f.find? names = some c) : ∃ d, g.find? names = some d ∧ c.shell = d.shell := by
  have hshell := h names
  rw [hc, Option.map_some, eq_comm, Option.map_eq_some_iff] at hshell
  obtain ⟨d, hd, heq⟩ := hshell
  exact ⟨d, hd, heq.symm⟩

theorem find?_eq_none_iff (h : f.Rearranged g) {names : List String} :
    f.find? names = none ↔ g.find? names = none := by
  rw [← Option.map_eq_none_iff (f := Column.shell), h names, Option.map_eq_none_iff]

/-- There is room for a path in one frame if there is in the other. -/
theorem admits (h : f.Rearranged g) {path : Path} (hadmits : f.Admits path) : g.Admits path := by
  constructor
  · intro d hd
    obtain ⟨c, hc, -⟩ := h.symm.exists_find? (get_eq_ok_iff.mp hd)
    exact hadmits.1 c (get_eq_ok_iff.mpr hc)
  · intro q hq hne d hd
    obtain ⟨c, hc, hshell⟩ := h.symm.exists_find? (get_eq_ok_iff.mp hd)
    obtain ⟨inner, hinner⟩ := hadmits.2 q hq hne c (get_eq_ok_iff.mpr hc)
    rw [← Option.isSome_iff_exists, ← Column.isSome_group?_shell, hshell, Column.isSome_group?_shell,
      hinner]
    rfl

end Rearranged

end Frame

/-- **Columns that names lead to alike, in groups of one order, are the same.** -/
theorem Column.eq_of_shells {c d : Column} (hc : c.WellFormed)
    (h : ∀ names, (c.descend? names).map shell = (d.descend? names).map shell)
    (hnames : ∀ names f g, (c.descend? names).bind group? = some f →
      (d.descend? names).bind group? = some g → f.names = g.names) : c = d := by
  induction c using groupInduction generalizing d with
  | leaf c hleaf =>
    have hshell := h []
    simp only [descend?_nil, Option.map_some, Option.some.injEq, shell_eq_iff] at hshell
    obtain ⟨-, heq⟩ | ⟨f, -, hf, -⟩ := hshell
    · exact heq
    · exact absurd (hleaf.symm.trans (group?_eq_some_iff.mpr hf)) (by simp)
  | group label f ih =>
    have hshell := h []
    simp only [descend?_nil, Option.map_some, Option.some.injEq, shell_eq_iff] at hshell
    obtain ⟨hleaf, -⟩ | ⟨f', g, hf, rfl, hrows⟩ := hshell
    · exact absurd hleaf (by simp [group?])
    · obtain rfl : f = f' := (Column.group.inj hf).2
      have hwf : f.WellFormed := (wellFormed_group _ _).mp hc
      have horder : f.names = g.names := hnames [] f g rfl rfl
      have hcolumns : f.columns = g.columns := by
        refine Frame.columns_eq_of_names_eq hwf.nodup_names horder fun name hname => ?_
        obtain ⟨c, hcf, rfl⟩ := List.mem_map.mp hname
        have hcol := Frame.column?_name hwf.nodup_names hcf
        have hbelow := fun rest => h (c.name :: rest)
        have hinner := fun rest => hnames (c.name :: rest)
        simp only [descend?_group_cons, hcol, Option.bind_some] at hbelow hinner
        have hsome := hbelow []
        rw [descend?_nil, Option.map_some, eq_comm, Option.map_eq_some_iff] at hsome
        obtain ⟨d, hd, -⟩ := hsome
        obtain ⟨e, he, hed⟩ := Option.bind_eq_some_iff.mp hd
        simp only [he, Option.bind_some] at hbelow hinner
        rw [hcol, he, ih c hcf (hwf.of_mem hcf) hbelow hinner]
      obtain ⟨columns, rowCount⟩ := f
      obtain ⟨columns', rowCount'⟩ := g
      obtain rfl : columns = columns' := hcolumns
      obtain rfl : rowCount = rowCount' := hrows
      rfl

/-- **The same columns in the same order** at every level are the same frame. -/
theorem Frame.Rearranged.eq_of_names {f g : Frame} (hf : f.WellFormed) (h : f.Rearranged g)
    (hnames : ∀ names inner inner', f.groupAt? names = some inner → g.groupAt? names = some inner' →
      inner.names = inner'.names) : f = g :=
  (Column.group.inj (Column.eq_of_shells ((Column.wellFormed_group "" f).mpr hf) h hnames)).2

/-! ### Merging the same columns -/

/-- Requests with the entries of none are none. -/
theorem Pending.eq_nil_of_entries {pending pending' : List Pending}
    (hentries : ∀ e, e ∈ pending.map entry ↔ e ∈ pending'.map entry) (h : pending = []) :
    pending' = [] := by
  refine List.eq_nil_iff_forall_not_mem.mpr fun p hp => ?_
  have hmem := (hentries p.entry).mpr (List.mem_map_of_mem hp)
  rw [h] at hmem
  exact List.not_mem_nil hmem

namespace Part

variable {above above' : List String} {layout layout' : Option Layout} {pending pending' : List Pending}
variable {name : String} {existing existing' b b' : Option Column}
variable (hentries : ∀ e, e ∈ pending.map Pending.entry ↔ e ∈ pending'.map Pending.entry)

include hentries

/-- The same requests go on from a name, -/
theorem mem_entries_deeper_iff (i j : Option Nat) (e : List String × Column) :
    e ∈ ((named pending name).deeper i).map Pending.entry ↔
      e ∈ ((named pending' name).deeper j).map Pending.entry := by
  rw [Frame.mem_entries_deeper, Frame.mem_entries_deeper, hentries]

theorem deeper_eq_nil_of_entries (h : (named pending name).deeper none = []) :
    (named pending' name).deeper none = [] :=
  Pending.eq_nil_of_entries (mem_entries_deeper_iff hentries none none) h

/-- and requests with the same columns end there. -/
theorem exists_mem_terminal_of_entries {t : Pending} (ht : t ∈ (named pending name).terminal) :
    ∃ t' ∈ (named pending' name).terminal, t'.column = t.column := by
  obtain ⟨t', ht', heq⟩ := List.mem_map.mp ((hentries _).mp (Frame.mem_entries_of_mem_terminal ht))
  obtain ⟨hnames, hcolumn⟩ := Prod.mk.inj heq
  obtain ⟨hname, hrest⟩ := List.cons.inj hnames
  exact ⟨t', mem_terminal.mpr ⟨mem_named.mpr ⟨ht', hname⟩, hrest⟩, hcolumn⟩

/-- **Two seats of a name** are alike if what was there is alike. -/
theorem shell_of_seat
    (hexisting : ∀ rest, (existing.bind fun c => c.descend? rest).map Column.shell =
      (existing'.bind fun c => c.descend? rest).map Column.shell)
    (h : (named pending name).seat above existing = .ok b)
    (h' : (named pending' name).seat above' existing' = .ok b') (rest : List String) :
    (b.bind fun c => c.descend? rest).map Column.shell =
      (b'.bind fun c => c.descend? rest).map Column.shell := by
  have hsome : existing.isSome = existing'.isSome := by
    have hnil := congrArg Option.isSome (hexisting [])
    simpa [Option.isSome_map] using hnil
  have hterminal {t : Pending} (ht : (named pending name).terminal = [t]) :
      ∃ t' ∈ (named pending' name).terminal, t'.column = t.column :=
    exists_mem_terminal_of_entries hentries (ht ▸ List.mem_singleton_self t)
  have hterminal' {t : Pending} (ht : (named pending' name).terminal = [t]) :
      ∃ t' ∈ (named pending name).terminal, t'.column = t.column :=
    exists_mem_terminal_of_entries (fun e => (hentries e).symm) (ht ▸ List.mem_singleton_self t)
  rcases seat_eq_ok h with ⟨c, rfl, -, rfl⟩ | ⟨rfl, ht, rfl⟩ | ⟨t, rfl, ht, rfl⟩
  · rcases seat_eq_ok h' with ⟨c', rfl, -, rfl⟩ | ⟨rfl, -, -⟩ | ⟨t', rfl, -, -⟩
    · exact hexisting rest
    · exact absurd hsome (by simp)
    · exact absurd hsome (by simp)
  · rcases seat_eq_ok h' with ⟨c', rfl, -, -⟩ | ⟨rfl, -, rfl⟩ | ⟨t', rfl, ht', -⟩
    · exact absurd hsome (by simp)
    · rfl
    · obtain ⟨t, hmem, -⟩ := hterminal' ht'
      exact absurd (ht ▸ hmem) List.not_mem_nil
  · rcases seat_eq_ok h' with ⟨c', rfl, -, -⟩ | ⟨rfl, ht', -⟩ | ⟨t', rfl, ht', rfl⟩
    · exact absurd hsome (by simp)
    · obtain ⟨t', hmem, -⟩ := hterminal ht
      exact absurd (ht' ▸ hmem) List.not_mem_nil
    · obtain ⟨u, hu, hcolumn⟩ := hterminal ht
      obtain rfl : u = t' := List.mem_singleton.mp (ht' ▸ hu)
      rw [hcolumn]
      rfl

end Part

namespace Frame

variable {n : Nat}

/-- The frames that requests lead into are alike if the seats are. -/
theorem rearranged_seatFrame {b b' : Option Column} (hb : ∀ c ∈ b, ∃ f, c.group? = some f)
    (hb' : ∀ c ∈ b', ∃ f, c.group? = some f)
    (h : ∀ rest, (b.bind fun c => c.descend? rest).map Column.shell =
      (b'.bind fun c => c.descend? rest).map Column.shell) :
    ((b.bind Column.group?).getD empty).Rearranged ((b'.bind Column.group?).getD empty) := by
  have hnil := h []
  rcases b with _ | c
  · rcases b' with _ | c'
    · exact Rearranged.refl _
    · exact absurd hnil (by simp)
  · rcases b' with _ | c'
    · exact absurd hnil (by simp)
    · obtain ⟨f, hf⟩ := hb c rfl
      obtain ⟨f', hf'⟩ := hb' c' rfl
      rw [Option.bind_some, Option.bind_some, hf, hf']
      exact Column.rearranged_of_descend? h hf hf'

/-- **Two merges of the same columns** into frames that are alike give frames that are alike, whatever
the layouts and nodes are, by induction on the names that lead to a column. -/
theorem rearranged_of_mergeBelow {depth depth' : Nat} {above above' : List String}
    {layout layout' : Option Layout} {frame frame' : Option Frame} {pending pending' : List Pending}
    {r r' : Frame} (hframe : (frame.getD empty).Rearranged (frame'.getD empty))
    (hentries : ∀ e, e ∈ pending.map Pending.entry ↔ e ∈ pending'.map Pending.entry)
    (hn : ∀ e ∈ pending.map Pending.entry, e.2.length = n)
    (hdepth : ∀ p ∈ pending, p.rest.length < depth) (hdepth' : ∀ p ∈ pending', p.rest.length < depth')
    (h : mergeBelow depth above layout frame pending = .ok r)
    (h' : mergeBelow depth' above' layout' frame' pending' = .ok r') : r.Rearranged r' := by
  intro names
  induction names generalizing depth depth' above above' layout layout' frame frame' pending pending'
    r r' with
  | nil =>
    by_cases hp : pending = []
    · rw [Pending.eq_nil_of_entries hentries hp, mergeBelow_nil] at h'
      rw [hp, mergeBelow_nil] at h
      rw [← Except.ok.inj h, ← Except.ok.inj h']
      exact hframe []
    · have hp' : pending' ≠ [] := fun hnil =>
        hp (Pending.eq_nil_of_entries (fun e => (hentries e).symm) hnil)
      have hrows : r.rowCount = n :=
        rowCount_of_mergeBelow hp hdepth (List.forall_mem_map.mp hn) h
      have hrows' : r'.rowCount = n := rowCount_of_mergeBelow hp' hdepth'
        (List.forall_mem_map.mp fun e he => hn e ((hentries e).mpr he)) h'
      simp [hrows, hrows']
  | cons name rest ih =>
    by_cases hp : pending = []
    · rw [Pending.eq_nil_of_entries hentries hp, mergeBelow_nil] at h'
      rw [hp, mergeBelow_nil] at h
      rw [← Except.ok.inj h, ← Except.ok.inj h']
      exact hframe (name :: rest)
    · have hp' : pending' ≠ [] := fun hnil =>
        hp (Pending.eq_nil_of_entries (fun e => (hentries e).symm) hnil)
      obtain ⟨d, rfl, -, -, -, hname⟩ := exists_level_of_mergeBelow hp hdepth h
      obtain ⟨d', rfl, -, -, -, hname'⟩ := exists_level_of_mergeBelow hp' hdepth' h'
      obtain ⟨b, hseat, hfill⟩ := hname name
      obtain ⟨b', hseat', hfill'⟩ := hname' name
      have hb := Part.shell_of_seat hentries (fun below => hframe (name :: below)) hseat hseat'
      rw [find?_cons, find?_cons]
      rcases Part.fill_eq_ok hfill with ⟨hd, heq⟩ | ⟨hd, hgroups, s, hs, heq⟩
      · rcases Part.fill_eq_ok hfill' with ⟨-, heq'⟩ | ⟨hd', -⟩
        · rw [heq, heq']
          exact hb rest
        · exact absurd (Part.deeper_eq_nil_of_entries hentries hd) hd'
      · rcases Part.fill_eq_ok hfill' with ⟨hd', -⟩ | ⟨-, hgroups', s', hs', heq'⟩
        · exact absurd (Part.deeper_eq_nil_of_entries (fun e => (hentries e).symm) hd') hd
        · rw [heq, heq']
          refine Column.shell_descend?_group (ih (rearranged_seatFrame hgroups hgroups' hb)
            (Part.mem_entries_deeper_iff hentries _ _) (fun e he => ?_)
            (fun q hq => length_rest_of_mem_deeper hdepth hq)
            (fun q hq => length_rest_of_mem_deeper hdepth' hq) hs hs') name
          exact hn (name :: e.1, e.2) (mem_entries_deeper.mp he).2

/-- **A merge of well-formed columns is well-formed**, by induction on the depth. -/
theorem wellFormed_of_mergeBelow {depth : Nat} {above : List String} {layout : Option Layout}
    {frame : Option Frame} {pending : List Pending} {r : Frame} (hf : (frame.getD empty).WellFormed)
    (hwf : ∀ p ∈ pending, p.column.WellFormed) (hdepth : ∀ p ∈ pending, p.rest.length < depth)
    (h : mergeBelow depth above layout frame pending = .ok r) : r.WellFormed := by
  induction depth generalizing above layout frame pending r with
  | zero =>
    obtain rfl := Except.ok.inj h
    exact hf
  | succ depth ih =>
    by_cases hp : pending = []
    · rw [hp, mergeBelow_nil] at h
      obtain rfl := Except.ok.inj h
      exact hf
    · rw [mergeBelow_succ depth above layout frame hp] at h
      obtain ⟨hnames, hjoin, hlength, -⟩ := (mergeLevel_eq_ok_iff hf.nodup_names).mp h
      have hnodup : r.names.Nodup := hnames ▸ nodup_placedNames hf.nodup_names
      refine wellFormed_iff.mpr ⟨hnodup, hlength, fun c hc => ?_⟩
      -- a column is the seat of its name, with what is merged into that
      obtain ⟨b, hseat, hfill⟩ := bind_eq_ok_iff.mp (hjoin c.name)
      have hb := Part.wellFormed_of_seat (fun c hc => hf.column hc)
        (fun p hp => hwf p (Part.mem_named.mp hp).1) hseat
      rw [column?_name hnodup hc] at hfill
      rcases Part.fill_eq_ok hfill with ⟨-, rfl⟩ | ⟨-, -, s, hs, heq⟩
      · exact hb c rfl
      · rw [Option.some.inj heq, Column.wellFormed_group]
        exact ih (wellFormed_seatFrame hb) (fun q hq => column_wellFormed_of_mem_deeper hwf hq)
          (fun q hq => length_rest_of_mem_deeper hdepth hq) hs

/-! ### Requests with the same columns -/

section Requests

variable {f g r r' : Frame} {requests requests' : List Request} {layout layout' : Option Layout}

theorem wellFormed_merge (hf : f.WellFormed) (hwf : ∀ q ∈ requests, q.column.WellFormed)
    (h : merge (some f) requests layout = .ok r) : r.WellFormed := by
  have hf' : ((some f).getD empty).WellFormed := hf
  exact wellFormed_of_mergeBelow hf' (List.forall_mem_map.mpr hwf)
    (fun _ hp => length_rest_lt_deepest hp) h

variable (hsame : requests'.map (fun q => (q.path, q.column)) =
  requests.map fun q => (q.path, q.column))

include hsame

/-- **Merging the same columns into frames that are alike** gives frames that are alike, -/
theorem rearranged_merge (hfg : f.Rearranged g) (hn : ∀ q ∈ requests, q.column.length = n)
    (h : merge (some f) requests layout = .ok r) (h' : merge (some g) requests' layout' = .ok r') :
    r.Rearranged r' := by
  have hframes : ((some f).getD empty).Rearranged ((some g).getD empty) := hfg
  have hentries : requests'.map (fun q => (q.path.segments, q.column)) =
      requests.map fun q => (q.path.segments, q.column) := by
    have hmap := congrArg (List.map fun e => (e.1.segments, e.2)) hsame
    simpa [Function.comp_def] using hmap
  have hn' : ∀ e ∈ (requests.map (Pending.ofRequest layout)).map Pending.entry,
      e.2.length = n := by
    rw [entries_ofRequest]
    exact List.forall_mem_map.mpr hn
  refine rearranged_of_mergeBelow hframes (fun e => ?_) hn' ?_ ?_ h h'
  · rw [entries_ofRequest, entries_ofRequest, hentries]
  · exact fun _ hp => length_rest_lt_deepest hp
  · exact fun _ hp => length_rest_lt_deepest hp

/-- and succeeds in one of them if it does in the other. -/
theorem Rearranged.exists_merge (hfg : f.Rearranged g) (hf : f.WellFormed) (hg : g.WellFormed)
    (hrows : f.rowCount = n) (hwf : ∀ q ∈ requests, q.column.WellFormed ∧ q.column.length = n)
    (h : ∃ r, merge (some f) requests layout = .ok r) :
    ∃ r', merge (some g) requests' layout' = .ok r' := by
  have hf' : ∀ k ∈ some f, k.WellFormed := by
    rintro _ ⟨⟩
    exact hf
  have hg' : ∀ k ∈ some g, k.WellFormed := by
    rintro _ ⟨⟩
    exact hg
  have hfrows : ∀ k ∈ some f, k.columns ≠ [] → k.rowCount = n := by
    rintro _ ⟨⟩ -
    exact hrows
  have hgrows : ∀ k ∈ some g, k.columns ≠ [] → k.rowCount = n := by
    rintro _ ⟨⟩ -
    exact hfg.rowCount_eq ▸ hrows
  -- there is room for the requests in the one frame, so there is in the other
  have hcompatible : Compatible (some f) requests := (merge_ok_iff_compatible hf' hfrows hwf).1.mp h
  have hcompatible' : Compatible (some g) requests :=
    ⟨fun q hq => hfg.admits (hcompatible.admits q hq), hcompatible.distinct, hcompatible.absorbs⟩
  have hmerge : ∃ r', merge (some g) requests layout = .ok r' :=
    (merge_ok_iff_compatible hg' hgrows hwf).1.mpr hcompatible'
  have hseat : ((some g).getD empty).WellFormed := hg
  exact exists_merge_of_perm hseat (fun q hq => (hwf q hq).1) (List.Perm.of_eq hsame) hmerge

end Requests

end Frame

end Colonnade
