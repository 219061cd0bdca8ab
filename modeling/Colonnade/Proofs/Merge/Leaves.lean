import Colonnade.Proofs.Merge.Success

/-!
# Merging as a union of leaves

A *leaf* is a column that is no group. A merge keeps every leaf of the frame and adds those that
the requests bring along, and it does nothing else: a leaf of the result has one origin, and is
the same column there.

* `Part.seat_descend`, `Part.fill_descend` – what is below a name comes from its seat and from
  the requests that go on;
* `Frame.find?_of_mergeBelow` – the same below a frame, at every depth;
* `Frame.merge_leaves` – **a merge is a disjoint union**, and neither layout nor nodes nor the
  order of the requests have a part in it.
-/

namespace Colonnade

/-! ### Leaves, and where they come from -/

/-- **A leaf**: a column at a path that is no group. -/
def Frame.HasLeaf (f : Frame) (path : Path) (c : Column) : Prop :=
  f.get path = .ok c ∧ c.group? = none

/-- A request brings a leaf along: its own column, under the name that it is to have, or one
inside its column. -/
def Request.Supplies (r : Request) (path : Path) (c : Column) : Prop :=
  (path = r.path ∧ c = r.column.rename r.path.last ∧ c.group? = none) ∨
    ∃ rest : Path, path.segments = r.path.segments ++ rest.segments ∧
      ∃ g, r.column.group? = some g ∧ g.HasLeaf rest c

/-- The name that the column of a request is to have. -/
def Pending.last (p : Pending) : String :=
  p.names.getLast (List.cons_ne_nil _ _)

/-- A request of a level brings a column along, at names counted from the level. -/
def Pending.Supplies (p : Pending) (names : List String) (c : Column) : Prop :=
  ∃ rest, names = p.names ++ rest ∧ (p.column.rename p.last).descend? rest = some c

/-- A leaf below a group is one of its frame, whatever the name of the group. -/
theorem descend?_group_eq_some_iff {label : String} {f : Frame} {names : List String} {c : Column}
    (hc : c.group? = none) :
    (Column.group label f).descend? names = some c ↔ f.find? names = some c := by
  cases names with
  | nil =>
    refine iff_of_false (fun h => ?_) fun h => ?_
    · obtain rfl := Option.some.inj h
      exact absurd hc (by simp [Column.group?])
    · obtain rfl := Option.some.inj h
      exact absurd hc (by simp [Column.group?])
  | cons name rest => rfl

theorem find?_empty_ne {names : List String} {c : Column} (hc : c.group? = none) :
    Frame.empty.find? names ≠ some c := by
  cases names with
  | nil =>
    intro h
    obtain rfl := Option.some.inj h
    exact absurd hc (by simp [Column.group?])
  | cons name rest => simp [Frame.column?, Frame.empty]

namespace Part

variable {below : MergeBelow} {above : List String} {layout : Option Layout}
variable {part : Part} {rest : List String} {c : Column}

/-- **What is below a seat** was there or comes with the request that ends here. -/
theorem seat_descend {existing b : Option Column} (h : part.seat above existing = .ok b) :
    (b.bind fun d => d.descend? rest) = some c ↔
      (existing.bind fun d => d.descend? rest) = some c ∨
        ∃ t ∈ part.terminal, (t.column.rename part.name).descend? rest = some c := by
  rcases seat_eq_ok h with ⟨e, rfl, ht, rfl⟩ | ⟨rfl, ht, rfl⟩ | ⟨t, rfl, ht, rfl⟩
  · simp [ht]
  · simp [ht]
  · simp [ht]

/-- The group of a seat has the leaves that are below the seat. -/
theorem find?_seatFrame {b : Option Column} (hb : ∀ e ∈ b, ∃ f, e.group? = some f)
    (hc : c.group? = none) :
    ((b.bind Column.group?).getD .empty).find? rest = some c ↔
      (b.bind fun e => e.descend? rest) = some c := by
  rcases b with _ | e
  · exact iff_of_false (find?_empty_ne hc) (by simp)
  · obtain ⟨f, hf⟩ := hb e rfl
    rw [Option.bind_some, Option.bind_some, Column.group?_eq_some_iff.mp hf,
      descend?_group_eq_some_iff hc]
    rfl

/-- **What is below a filled seat** was below the seat or comes with the requests that go on. -/
theorem fill_descend {b d : Option Column} (hb : ∀ e ∈ b, e.WellFormed)
    (h : part.fill below above layout b = .ok d) (hc : c.group? = none)
    (hbelow : ∀ (above : List String) (layout : Option Layout) (frame : Option Frame)
      (i : Option Nat) (r : Frame), (frame.getD .empty).WellFormed →
        below above layout frame (part.deeper i) = .ok r →
        (r.find? rest = some c ↔ (frame.getD .empty).find? rest = some c ∨
          ∃ q ∈ part.deeper i, q.Supplies rest c)) :
    (d.bind fun e => e.descend? rest) = some c ↔
      (b.bind fun e => e.descend? rest) = some c ∨
        ∃ q ∈ part.deeper (part.child layout).1, q.Supplies rest c := by
  rcases fill_eq_ok h with ⟨hd, rfl⟩ | ⟨-, hgroups, r, hr, rfl⟩
  · have hi : part.deeper (part.child layout).1 = [] :=
      deeper_eq_nil_iff.mpr (deeper_eq_nil_iff.mp hd)
    simp [hi]
  · rw [Option.bind_some, descend?_group_eq_some_iff hc, ← find?_seatFrame hgroups hc]
    exact hbelow _ _ _ _ r (wellFormed_seatFrame hb) hr

/-- The requests for a name, by whether they end at it. -/
theorem exists_supplies_cons_iff {pending : List Pending} {name : String} (i : Option Nat) :
    (∃ p ∈ pending, p.Supplies (name :: rest) c) ↔
      (∃ t ∈ (named pending name).terminal, (t.column.rename name).descend? rest = some c) ∨
        ∃ q ∈ (named pending name).deeper i, q.Supplies rest c := by
  have hlast {p q : Pending} (h : q.names = p.rest) : q.last = p.last := by
    simp only [Pending.last, Pending.names] at h ⊢
    simp [← h]
  constructor
  · rintro ⟨p, hp, below, heq, hbelow⟩
    obtain ⟨rfl, htail⟩ := List.cons.inj heq
    have hrest : rest = p.rest ++ below := htail
    have hmem : p ∈ (named pending p.name).members := mem_named.mpr ⟨hp, rfl⟩
    by_cases hnil : p.rest = []
    · -- it ends at the name, and the column is below its own
      refine Or.inl ⟨p, mem_terminal.mpr ⟨hmem, hnil⟩, ?_⟩
      rw [hnil, List.nil_append] at hrest
      simpa [Pending.last, Pending.names, hnil, hrest] using hbelow
    · obtain ⟨q, hq, hnames, hcolumn⟩ := exists_mem_deeper hmem hnil i
      refine Or.inr ⟨q, hq, below, by rw [hnames, hrest], ?_⟩
      rwa [hcolumn, hlast hnames]
  · rintro (⟨t, ht, hbelow⟩ | ⟨q, hq, below, heq, hbelow⟩)
    · obtain ⟨hmem, hnil⟩ := mem_terminal.mp ht
      obtain ⟨hp, rfl⟩ := mem_named.mp hmem
      exact ⟨t, hp, rest, by simp [Pending.names, hnil], by
        simpa [Pending.last, Pending.names, hnil] using hbelow⟩
    · obtain ⟨p, hmem, hnames, hcolumn⟩ := exists_of_mem_deeper hq
      obtain ⟨hp, rfl⟩ := mem_named.mp hmem
      refine ⟨p, hp, below, by rw [Pending.names, hnames, heq]; rfl, ?_⟩
      rwa [hcolumn, ← hlast hnames.symm]

end Part

/-- **Where the leaves of a merged frame come from**, by induction on the path: its first name leads
to what becomes of it, and there the seat and the requests that go on are all there is. -/
theorem Frame.find?_of_mergeBelow {depth : Nat} {above : List String} {layout : Option Layout}
    {frame : Option Frame} {pending : List Pending} {r : Frame} {names : List String} {c : Column}
    (hf : (frame.getD empty).WellFormed) (hwf : ∀ p ∈ pending, p.column.WellFormed)
    (hdepth : ∀ p ∈ pending, p.rest.length < depth)
    (h : mergeBelow depth above layout frame pending = .ok r) (hc : c.group? = none) :
    r.find? names = some c ↔
      (frame.getD empty).find? names = some c ∨ ∃ p ∈ pending, p.Supplies names c := by
  induction names generalizing depth above layout frame pending r with
  | nil =>
    -- a frame itself is no leaf
    have hno (f : Frame) : f.find? [] ≠ some c := by
      intro hfind
      obtain rfl := Option.some.inj hfind
      exact absurd hc (by simp [Column.group?])
    refine iff_of_false (hno r) (not_or.mpr ⟨hno _, ?_⟩)
    rintro ⟨p, -, rest, heq, -⟩
    exact absurd heq (by simp [Pending.names])
  | cons name rest ih =>
    rcases mergeBelow_eq_ok hf hdepth h with ⟨rfl, rfl⟩ | ⟨depth, rfl, -, hname⟩
    · simp
    · obtain ⟨b, hseat, hfill⟩ := hname name
      have hb := Part.wellFormed_of_seat (fun c hc => hf.column hc)
        (fun p hp => hwf p (Part.mem_named.mp hp).1) hseat
      rw [find?_cons, find?_cons, Part.exists_supplies_cons_iff
          ((Part.named pending name).child layout).1, ← or_assoc,
        Part.fill_descend hb hfill hc, Part.seat_descend hseat]
      · rfl
      · intro above layout frame i r hframe hr
        exact ih hframe (fun q hq => column_wellFormed_of_mem_deeper hwf hq)
          (fun q hq => length_rest_of_mem_deeper hdepth hq) hr

/-! ### One origin -/

section Origin

variable {c d e : Column} {pending pending' : List Pending} {names : List String} {n : Nat}

/-- What is below a place is below the way to it. -/
theorem Column.exists_descend?_of_append {above below : List String}
    (h : c.descend? (above ++ below) = some d) : ∃ e, c.descend? above = some e := by
  rw [Column.descend?_append] at h
  obtain ⟨e, he, -⟩ := Option.bind_eq_some_iff.mp h
  exact ⟨e, he⟩

/-- Where there is room for a column there is none, nor anything below it. -/
theorem Column.Admits.descend?_append_ne {above below : List String} (h : c.Admits above) :
    c.descend? (above ++ below) ≠ some d := by
  intro hd
  obtain ⟨e, he⟩ := Column.exists_descend?_of_append hd
  exact (Column.admits_iff.mp h above [] (List.append_nil _).symm e he).1 rfl

/-- **A request brings nothing to where there is a column.** -/
theorem Mergeable.not_supplies (h : Mergeable c pending n) (hd : c.descend? names = some d)
    {p : Pending} (hp : p ∈ pending) : ¬p.Supplies names e := by
  rintro ⟨rest, rfl, -⟩
  exact (h.admits p hp).descend?_append_ne hd

/-- One request cannot lead into the column of another where that has a column. -/
theorem Mergeable.not_supplies_append (h : Mergeable c pending n) {p q : Pending}
    (hp : p ∈ pending) (hq : q ∈ pending) {rest below : List String} (hne : q.names ≠ p.names)
    (heq : q.names = p.names ++ rest) :
    (p.column.rename p.last).descend? (rest ++ below) ≠ some d := by
  obtain ⟨name, rest', rfl⟩ : ∃ name rest', rest = name :: rest' :=
    List.exists_cons_of_ne_nil fun hnil => hne (by rw [heq, hnil, List.append_nil])
  rw [List.cons_append, Column.descend?_rename_cons, ← List.cons_append]
  exact (h.absorbs p hp q hq _ (List.cons_ne_nil _ _) heq).descend?_append_ne

/-- **Two requests never bring columns to one place.** -/
theorem Mergeable.pairwise_not_supplies (h : Mergeable c pending n) :
    pending.Pairwise fun p q => ∀ names d e, p.Supplies names d → ¬q.Supplies names e := by
  refine h.distinct.imp_of_mem fun {p q} hp hq hne names d e => ?_
  rintro ⟨rest, hrest, hd⟩ ⟨rest', hrest', he⟩
  -- one of the two leads into the column of the other
  rcases List.append_eq_append_iff.mp (hrest.symm.trans hrest') with ⟨s, hs, rfl⟩ | ⟨s, hs, rfl⟩
  · exact h.not_supplies_append hp hq hne.symm hs hd
  · exact h.not_supplies_append hq hp hne hs he

/-- **Only names and columns count** for whether requests can be merged, not their order and not
their nodes. -/
theorem Mergeable.of_perm (h : Mergeable c pending n)
    (hperm : (pending'.map fun p => (p.names, p.column)).Perm
      (pending.map fun p => (p.names, p.column))) : Mergeable c pending' n := by
  have hfind {p : Pending} (hp : p ∈ pending') :
      ∃ q ∈ pending, q.names = p.names ∧ q.column = p.column := by
    obtain ⟨q, hq, heq⟩ := List.mem_map.mp (hperm.subset (List.mem_map_of_mem hp))
    exact ⟨q, hq, congrArg Prod.fst heq, congrArg Prod.snd heq⟩
  have hfind' {p : Pending} (hp : p ∈ pending) :
      ∃ q ∈ pending', q.names = p.names ∧ q.column = p.column := by
    obtain ⟨q, hq, heq⟩ := List.mem_map.mp (hperm.symm.subset (List.mem_map_of_mem hp))
    exact ⟨q, hq, congrArg Prod.fst heq, congrArg Prod.snd heq⟩
  refine ⟨fun p hp => ?_, ?_, fun p hp q hq rest hrest heq => ?_, h.fits, fun p hp => ?_⟩
  · obtain ⟨q, hq, hnames, -⟩ := hfind hp
    exact hnames ▸ h.admits q hq
  · have hpairs : (pending.map fun p => (p.names, p.column)).Pairwise fun a b => a.1 ≠ b.1 :=
      List.pairwise_map.mpr h.distinct
    have hpairs' := (hperm.pairwise_iff fun hne => hne.symm).mpr hpairs
    exact (List.pairwise_map (f := fun p : Pending => (p.names, p.column))).mp hpairs'
  · obtain ⟨p', hp', hpn, hpc⟩ := hfind hp
    obtain ⟨q', hq', hqn, -⟩ := hfind hq
    exact hpc ▸ h.absorbs p' hp' q' hq' rest hrest (by rw [hqn, hpn, heq])
  · obtain ⟨p', hp', hpn, hpc⟩ := hfind hp
    refine ⟨hpc ▸ (h.rows p' hp').1, fun hno => hpc ▸ (h.rows p' hp').2 fun q hq rest hrest heq => ?_⟩
    obtain ⟨q', hq', hqn, -⟩ := hfind' hq
    exact hno q' hq' rest hrest (by rw [hqn, heq, hpn])

end Origin

/-! ### The merge -/

@[simp] theorem Pending.last_ofRequest (layout : Option Layout) (r : Request) :
    (Pending.ofRequest layout r).last = r.path.last := by
  simp only [Pending.last, Pending.names_ofRequest, Path.last]

/-- A request brings along what it does as one of the uppermost level. -/
theorem Request.supplies_iff {r : Request} {path : Path} {c : Column} (layout : Option Layout)
    (hc : c.group? = none) :
    r.Supplies path c ↔ (Pending.ofRequest layout r).Supplies path.segments c := by
  rw [Pending.Supplies, Pending.names_ofRequest, Pending.last_ofRequest, Pending.column_ofRequest]
  constructor
  · rintro (⟨rfl, rfl, -⟩ | ⟨rest, hrest, g, hg, hleaf, -⟩)
    · exact ⟨[], (List.append_nil _).symm, Column.descend?_nil _⟩
    · refine ⟨rest.segments, hrest, ?_⟩
      rw [Column.group?_eq_some_iff.mp hg]
      exact (descend?_group_eq_some_iff hc).mpr (Frame.get_eq_ok_iff.mp hleaf)
  · rintro ⟨rest, hrest, h⟩
    cases rest with
    | nil =>
      rw [List.append_nil] at hrest
      exact Or.inl ⟨Path.ext hrest, (Option.some.inj ((Column.descend?_nil _).symm.trans h)).symm, hc⟩
    | cons name rest =>
      rw [Column.descend?_rename_cons] at h
      refine Or.inr ⟨⟨name :: rest, List.cons_ne_nil _ _⟩, hrest, ?_⟩
      rcases hg : r.column.group? with _ | g
      · rw [Column.descend?_cons_of_group?_eq_none hg] at h
        exact absurd h (by simp)
      · rw [Column.group?_eq_some_iff.mp hg] at h
        exact ⟨g, rfl, Frame.get_eq_ok_iff.mpr h, hc⟩

theorem Request.Supplies.group?_eq_none {r : Request} {path : Path} {c : Column}
    (h : r.Supplies path c) : c.group? = none := by
  rcases h with ⟨-, -, hc⟩ | ⟨_, -, _, -, -, hc⟩
  · exact hc
  · exact hc

/-- The same requests, in another order and with other nodes, bring along the same leaves. -/
theorem exists_supplies_of_perm {requests requests' : List Request} {path : Path} {c : Column}
    (hperm : (requests'.map fun r => (r.path, r.column)).Perm
      (requests.map fun r => (r.path, r.column)))
    (h : ∃ q ∈ requests', q.Supplies path c) : ∃ q ∈ requests, q.Supplies path c := by
  obtain ⟨q, hq, hs⟩ := h
  obtain ⟨q', hq', heq⟩ := List.mem_map.mp (hperm.subset (List.mem_map_of_mem hq))
  have hpath : q'.path = q.path := congrArg Prod.fst heq
  have hcolumn : q'.column = q.column := congrArg Prod.snd heq
  refine ⟨q', hq', ?_⟩
  rwa [Request.Supplies, hpath, hcolumn]

/-- So they bring along well-formed columns if those do. -/
theorem wellFormed_of_perm {requests requests' : List Request}
    (hperm : (requests'.map fun r => (r.path, r.column)).Perm
      (requests.map fun r => (r.path, r.column)))
    (hwf : ∀ r ∈ requests, r.column.WellFormed) : ∀ r ∈ requests', r.column.WellFormed := by
  intro r hmem
  obtain ⟨q, hq, heq⟩ := List.mem_map.mp (hperm.subset (List.mem_map_of_mem hmem))
  have hcolumn : q.column = r.column := congrArg Prod.snd heq
  exact hcolumn ▸ hwf q hq

namespace Frame

variable {frame : Option Frame} {requests : List Request} {layout : Option Layout}

/-- The leaves of a merged frame. -/
theorem hasLeaf_merge_iff (hf : (frame.getD empty).WellFormed)
    (hwf : ∀ r ∈ requests, r.column.WellFormed) {r : Frame}
    (h : merge frame requests layout = .ok r) (path : Path) (c : Column) :
    r.HasLeaf path c ↔ (frame.getD empty).HasLeaf path c ∨ ∃ q ∈ requests, q.Supplies path c := by
  by_cases hc : c.group? = none
  · have hfind : r.find? path.segments = some c ↔ _ :=
      find?_of_mergeBelow hf (List.forall_mem_map.mpr hwf)
        (fun _ hp => length_rest_lt_deepest hp) h hc
    have hsupplies : (∃ p ∈ requests.map (Pending.ofRequest layout), p.Supplies path.segments c) ↔
        ∃ q ∈ requests, q.Supplies path c := by
      constructor
      · rintro ⟨p, hp, hs⟩
        obtain ⟨q, hq, rfl⟩ := List.mem_map.mp hp
        exact ⟨q, hq, (Request.supplies_iff layout hc).mpr hs⟩
      · rintro ⟨q, hq, hs⟩
        exact ⟨_, List.mem_map_of_mem hq, (Request.supplies_iff layout hc).mp hs⟩
    rw [HasLeaf, HasLeaf, get_eq_ok_iff, get_eq_ok_iff, hfind, hsupplies]
    simp [hc]
  · refine iff_of_false (fun h => hc h.2) ?_
    rintro (h | ⟨q, -, h⟩)
    · exact hc h.2
    · exact hc h.group?_eq_none

/-- Whether a merge succeeds does not depend on the layout, on nodes or on the order. -/
theorem exists_merge_of_perm (hf : (frame.getD empty).WellFormed)
    (hwf : ∀ r ∈ requests, r.column.WellFormed) {requests' : List Request}
    {layout' : Option Layout}
    (hperm : (requests'.map fun r => (r.path, r.column)).Perm
      (requests.map fun r => (r.path, r.column)))
    (h : ∃ r, merge frame requests layout = .ok r) : ∃ r, merge frame requests' layout' = .ok r := by
  by_cases hr : requests' = []
  · subst hr
    exact ⟨_, merge_nil frame layout'⟩
  · have hr' : requests ≠ [] := by
      rintro rfl
      exact hr (List.map_eq_nil_iff.mp (hperm.eq_nil))
    have hwf' := wellFormed_of_perm hperm hwf
    obtain ⟨r, h⟩ := h
    have hmergeable := (exists_merge_iff hf hr' hwf).mp ⟨r, h, rfl⟩
    have hperm' : ((requests'.map (Pending.ofRequest layout')).map fun p =>
          (p.names, p.column)).Perm
        ((requests.map (Pending.ofRequest layout)).map fun p => (p.names, p.column)) := by
      have hmap := hperm.map fun e => (e.1.segments, e.2)
      simpa [Function.comp_def] using hmap
    obtain ⟨r', h', -⟩ := (exists_merge_iff hf hr hwf').mpr (hmergeable.of_perm hperm')
    exact ⟨r', h'⟩

/-- **Merging is a disjoint union of leaves.** A merged frame has the leaves of the frame and those
that requests bring along, each from one origin; whether there is one, and which leaves it has,
does not depend on the layout, on nodes or on the order of the requests. -/
theorem merge_leaves (hf : ∀ f ∈ frame, f.WellFormed)
    (hwf : ∀ r ∈ requests, r.column.WellFormed) :
    (∀ r, merge frame requests layout = .ok r →
      (∀ path c, r.HasLeaf path c ↔
        (frame.getD empty).HasLeaf path c ∨ ∃ q ∈ requests, q.Supplies path c) ∧
      (∀ path c d, (frame.getD empty).HasLeaf path c → ∀ q ∈ requests, ¬q.Supplies path d) ∧
      requests.Pairwise fun p q => ∀ path c d, p.Supplies path c → ¬q.Supplies path d) ∧
    ∀ (requests' : List Request) (layout' : Option Layout),
      (requests'.map fun r => (r.path, r.column)).Perm
        (requests.map fun r => (r.path, r.column)) →
      ((∃ r, merge frame requests' layout' = .ok r) ↔ ∃ r, merge frame requests layout = .ok r) ∧
      ∀ r r', merge frame requests layout = .ok r → merge frame requests' layout' = .ok r' →
        ∀ path c, r'.HasLeaf path c ↔ r.HasLeaf path c := by
  have hf' : (frame.getD empty).WellFormed := by
    cases frame with
    | none => exact wellFormed_empty
    | some f => exact hf f rfl
  constructor
  · intro r h
    refine ⟨hasLeaf_merge_iff hf' hwf h, ?_⟩
    by_cases hr : requests = []
    · subst hr
      simp
    · have hmergeable := (exists_merge_iff hf' hr hwf).mp ⟨r, h, rfl⟩
      constructor
      · intro path c d hleaf q hq hs
        have hd := hs.group?_eq_none
        exact hmergeable.not_supplies (get_eq_ok_iff.mp hleaf.1) (List.mem_map_of_mem hq)
          ((Request.supplies_iff layout hd).mp hs)
      · refine (List.pairwise_map.mp hmergeable.pairwise_not_supplies).imp ?_
        intro p q hpq path c d hp hq
        have hc := hp.group?_eq_none
        have hd := hq.group?_eq_none
        exact hpq path.segments c d ((Request.supplies_iff layout hc).mp hp)
          ((Request.supplies_iff layout hd).mp hq)
  · intro requests' layout' hperm
    have hwf' := wellFormed_of_perm hperm hwf
    refine ⟨⟨exists_merge_of_perm hf' hwf' hperm.symm, exists_merge_of_perm hf' hwf hperm⟩, ?_⟩
    intro r r' h h' path c
    rw [hasLeaf_merge_iff hf' hwf h, hasLeaf_merge_iff hf' hwf' h']
    refine or_congr_right ⟨fun ⟨q, hq, hs⟩ => ?_, fun ⟨q, hq, hs⟩ => ?_⟩
    · exact exists_supplies_of_perm hperm ⟨q, hq, hs⟩
    · exact exists_supplies_of_perm hperm.symm ⟨q, hq, hs⟩

/-- A group in a request takes in the column of another, in whatever order the two come. -/
theorem merge_leaves_nested :
    let f : Frame := ⟨[.group "g" ⟨[.ofTexts "x" [some "1"]], 1⟩], 1⟩
    let requests : List Request :=
      [{ path := .below ["g", "h"] "y", column := .ofTexts "t" [some "2"], node := some 2 },
        { path := .below ["g"] "h", column := .group "t" ⟨[.ofTexts "z" [none]], 1⟩ }]
    (f.WellFormed ∧ ∀ r ∈ requests, r.column.WellFormed) ∧
      (∀ r, merge (some f) requests (some f.layout) = .ok r →
        (∀ path c, r.HasLeaf path c ↔
          f.HasLeaf path c ∨ ∃ q ∈ requests, q.Supplies path c) ∧
        (∀ path c d, f.HasLeaf path c → ∀ q ∈ requests, ¬q.Supplies path d) ∧
        requests.Pairwise fun p q => ∀ path c d, p.Supplies path c → ¬q.Supplies path d) ∧
      ∀ (requests' : List Request) (layout' : Option Layout),
        (requests'.map fun r => (r.path, r.column)).Perm
          (requests.map fun r => (r.path, r.column)) →
        ((∃ r, merge (some f) requests' layout' = .ok r) ↔
          ∃ r, merge (some f) requests (some f.layout) = .ok r) ∧
        ∀ r r', merge (some f) requests (some f.layout) = .ok r →
          merge (some f) requests' layout' = .ok r' →
            ∀ path c, r'.HasLeaf path c ↔ r.HasLeaf path c := by
  intro f requests
  have hf : f.WellFormed := by
    simp [f, Frame.WellFormed, columnsWellFormed, Column.WellFormed, Column.ofTexts,
      Column.ofValues, cellsWellFormed, Value.ofText, Value.WellFormed, Column.name, Column.length]
  have hrequests : ∀ r ∈ requests, r.column.WellFormed := by
    simp [requests, Frame.WellFormed, columnsWellFormed, Column.WellFormed, Column.ofTexts,
      Column.ofValues, cellsWellFormed, Value.ofText, Value.WellFormed, Column.length]
  refine ⟨⟨hf, hrequests⟩, @merge_leaves (some f) requests (some f.layout) ?_ hrequests⟩
  rintro g ⟨⟩
  exact hf

end Frame

end Colonnade
