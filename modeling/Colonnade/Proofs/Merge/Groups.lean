import Colonnade.Proofs.Frame.Addresses
import Colonnade.Proofs.Merge.Mergeable

/-!
# The groups of a merged frame

A merge goes down from level to level, and at each it sees other requests and another layout. For a
group anywhere in the result, this file says what was seen there:

* `Pending.into?` – a request as the level of a group sees it;
* `Frame.HadAt` – the group that was there before the requests that lead further in: one of the
  frame, one that a request brings along, or an empty one;
* `Frame.names_of_mergeBelow` – **the columns of every group of the result** are the ones that were
  there and the new ones in their places.

`Frame.exists_groupAt?_of_mergeBelow` adds that no group of the frame is lost.
-/

namespace Colonnade

/-! ### What a level sees -/

/-- The layout of a part is the child of its name. -/
theorem Part.child_eq (layout : Option Layout) (part : Part) :
    part.child layout =
      (layout.bind fun t => t.childIndex? part.name, layout.bind fun t => t.child? part.name) := by
  cases layout <;> rfl

/-- **A request as the level of a group sees it**, if it leads into that group. -/
def Pending.into? : Option Layout → List String → Pending → Option Pending
  | _, [], p => some p
  | layout, name :: rest, p =>
    if p.name = name then
      (p.deeper? (layout.bind fun t => t.childIndex? name)).bind
        (into? (layout.bind fun t => t.child? name) rest)
    else none

theorem filterMap_into?_nil (layout : Option Layout) (pending : List Pending) :
    pending.filterMap (Pending.into? layout []) = pending := by
  have hsome : Pending.into? layout [] = some := funext fun p => by rw [Pending.into?]
  rw [hsome, List.filterMap_some]

/-- The level of a group sees what the one of its first name passes on. -/
theorem filterMap_into?_cons (layout : Option Layout) (pending : List Pending) (name : String)
    (rest : List String) :
    pending.filterMap (Pending.into? layout (name :: rest)) =
      ((Part.named pending name).deeper (layout.bind fun t => t.childIndex? name)).filterMap
        (Pending.into? (layout.bind fun t => t.child? name) rest) := by
  rw [Part.deeper, Part.named, List.filterMap_filterMap, List.filterMap_filter]
  refine List.filterMap_congr fun p _ => ?_
  by_cases h : p.name = name <;> simp [Pending.into?, h]

/-! ### What was there -/

/-- The column, and the names that it is put at. -/
def Pending.entry (p : Pending) : List String × Column :=
  (p.names, p.column)

namespace Frame

/-- **The group that is at names before requests lead into it**: one of the frame, one that the
column of a request brings along, or, if there is neither, an empty one. -/
def HadAt (f : Frame) (entries : List (List String × Column)) (names : List String) (g : Frame) :
    Prop :=
  f.groupAt? names = some g ∨
    (∃ e ∈ entries, ∃ rest, names = e.1 ++ rest ∧
      (e.2.descend? rest).bind Column.group? = some g) ∨
    (g = empty ∧ f.groupAt? names = none ∧ ∀ e ∈ entries, ∀ rest, names = e.1 ++ rest →
      (e.2.descend? rest).bind Column.group? = none)

variable {f inner g : Frame} {pending : List Pending} {name : String} {rest : List String}

/-- Where requests begin there is the frame. -/
theorem hadAt_nil (h : f.HadAt (pending.map Pending.entry) [] g) : f = g := by
  rcases h with h | ⟨e, he, below, heq, -⟩ | ⟨-, h, -⟩
  · exact Option.some.inj h
  · obtain ⟨p, -, rfl⟩ := List.mem_map.mp he
    exact absurd heq (by simp [Pending.entry, Pending.names])
  · exact absurd h (by simp)

/-- Without requests there is what is in the frame. -/
theorem hadAt_of_nil (h : f.HadAt [] rest g) {merged : Frame} (hm : f.groupAt? rest = some merged) :
    merged = g := by
  rcases h with h | ⟨e, he, -⟩ | ⟨-, h, -⟩
  · exact Option.some.inj (hm.symm.trans h)
  · exact absurd he List.not_mem_nil
  · exact absurd (hm.symm.trans h) (by simp)

/-- What is in a group of a column. -/
theorem descend?_bind_group? {c : Column} (h : c.group? = some inner) (rest : List String) :
    (c.descend? rest).bind Column.group? = inner.groupAt? rest := by
  rw [Column.group?_eq_some_iff.mp h]
  cases rest with
  | nil => rfl
  | cons name rest => rfl

/-- A request that goes on has an entry at the name and one below it. -/
theorem mem_entries_deeper {i : Option Nat} {e : List String × Column} :
    e ∈ ((Part.named pending name).deeper i).map Pending.entry ↔
      e.1 ≠ [] ∧ (name :: e.1, e.2) ∈ pending.map Pending.entry := by
  constructor
  · intro he
    obtain ⟨q, hq, rfl⟩ := List.mem_map.mp he
    obtain ⟨p, hp, hrest, hcolumn⟩ := Part.exists_of_mem_deeper hq
    obtain ⟨hmem, rfl⟩ := Part.mem_named.mp hp
    refine ⟨List.cons_ne_nil _ _, List.mem_map.mpr ⟨p, hmem, ?_⟩⟩
    rw [Pending.entry, Pending.entry, ← hrest, ← hcolumn, Pending.names]
  · rintro ⟨hne, he⟩
    obtain ⟨p, hp, hentry⟩ := List.mem_map.mp he
    obtain ⟨hnames, hcolumn⟩ := Prod.mk.inj hentry
    obtain ⟨rfl, hrest⟩ := List.cons.inj hnames
    obtain ⟨q, hq, hq1, hq2⟩ :=
      Part.exists_mem_deeper (Part.mem_named.mpr ⟨hp, rfl⟩) (hrest ▸ hne) i
    exact List.mem_map.mpr ⟨q, hq, Prod.ext (hq1.trans hrest) (hq2.trans hcolumn)⟩

/-- The request that ends at a name has its entry there. -/
theorem mem_entries_of_mem_terminal {t : Pending} (ht : t ∈ (Part.named pending name).terminal) :
    ([name], t.column) ∈ pending.map Pending.entry := by
  obtain ⟨hmem, hnil⟩ := Part.mem_terminal.mp ht
  obtain ⟨hp, rfl⟩ := Part.mem_named.mp hmem
  exact List.mem_map.mpr ⟨t, hp, by rw [Pending.entry, Pending.names, hnil]⟩

/-- **What was in a group below a name** was in the group of the seat, or comes with the requests
that go on. -/
theorem HadAt.deeper {above : List String} (i : Option Nat) {b : Option Column}
    (hseat : (Part.named pending name).seat above (f.column? name) = .ok b)
    (hb : ∀ c ∈ b, c.group? = some inner) (hnone : b = none → inner = empty)
    (h : f.HadAt (pending.map Pending.entry) (name :: rest) g) :
    inner.HadAt (((Part.named pending name).deeper i).map Pending.entry) rest g := by
  have hseats := Part.seat_eq_ok hseat
  rcases h with h | ⟨e, he, below, heq, hg⟩ | ⟨rfl, h, hall⟩
  · -- the group is one of the frame, and the column of the name is the seat
    refine Or.inl ?_
    obtain ⟨c, inner', hc, hgroup, hrest⟩ := groupAt?_cons_eq_some_iff.mp h
    rcases hseats with ⟨c', hc', -, rfl⟩ | ⟨hc', -, -⟩ | ⟨t, hc', -, -⟩
    · obtain rfl := Option.some.inj (hc.symm.trans hc')
      obtain rfl := Option.some.inj (hgroup.symm.trans (hb c rfl))
      exact hrest
    · exact absurd (hc.symm.trans hc') (by simp)
    · exact absurd (hc.symm.trans hc') (by simp)
  · -- it comes with a request, which either is the seat or goes on
    obtain ⟨p, hp, rfl⟩ := List.mem_map.mp he
    obtain ⟨hname, hrest⟩ := List.cons.inj heq
    have hmem : p ∈ (Part.named pending name).members := Part.mem_named.mpr ⟨hp, hname.symm⟩
    by_cases hnil : p.rest = []
    · have hterminal : p ∈ (Part.named pending name).terminal := Part.mem_terminal.mpr ⟨hmem, hnil⟩
      rcases hseats with ⟨c', -, ht, -⟩ | ⟨-, ht, -⟩ | ⟨t, -, ht, rfl⟩
      · exact absurd (ht ▸ hterminal) List.not_mem_nil
      · exact absurd (ht ▸ hterminal) List.not_mem_nil
      · obtain rfl : p = t := List.mem_singleton.mp (ht ▸ hterminal)
        refine Or.inl ?_
        have hgroup := hb _ rfl
        rw [Column.group?_rename] at hgroup
        obtain rfl : rest = below := by simpa [hnil] using hrest
        rw [← descend?_bind_group? hgroup]
        exact hg
    · refine Or.inr (Or.inl ⟨(p.rest, p.column), mem_entries_deeper.mpr ⟨hnil, ?_⟩, below, hrest, hg⟩)
      exact hname ▸ he
  · -- there is none, neither in the seat nor with requests
    have hdeeper : ∀ e ∈ ((Part.named pending name).deeper i).map Pending.entry, ∀ below,
        rest = e.1 ++ below → (e.2.descend? below).bind Column.group? = none := by
      rintro e he below rfl
      exact hall _ (mem_entries_deeper.mp he).2 below rfl
    rcases hseats with ⟨c, hc, -, rfl⟩ | ⟨-, -, rfl⟩ | ⟨t, -, ht, rfl⟩
    · refine Or.inr (Or.inr ⟨rfl, ?_, hdeeper⟩)
      rwa [groupAt?_cons, hc, Option.bind_some, hb c rfl, Option.bind_some] at h
    · obtain rfl := hnone rfl
      cases rest with
      | nil => exact Or.inl rfl
      | cons next rest => exact Or.inr (Or.inr ⟨rfl, rfl, hdeeper⟩)
    · refine Or.inr (Or.inr ⟨rfl, ?_, hdeeper⟩)
      have hgroup := hb _ rfl
      rw [Column.group?_rename] at hgroup
      rw [← descend?_bind_group? hgroup]
      exact hall _ (mem_entries_of_mem_terminal (ht ▸ List.mem_singleton_self t)) rest rfl

/-! ### Every level -/

section Levels

variable {depth : Nat} {above : List String} {layout : Option Layout} {frame : Option Frame}
variable {r : Frame} {names : List String}

/-- The node of a group below a name is a node below the child of the name. -/
theorem bind_node?_cons (layout : Option Layout) (name : String) (rest : List String) :
    (layout.bind fun t => t.node? (name :: rest)) =
      (layout.bind fun t => t.child? name).bind fun t => t.node? rest := by
  simp only [Option.bind_assoc, Layout.node?_cons]

/-- **The columns of every group of the result** are those that were there and the new ones in their
places, by induction on the names that lead to the group. -/
theorem names_of_mergeBelow (hf : (frame.getD empty).WellFormed)
    (hwf : ∀ p ∈ pending, p.column.WellFormed) (hdepth : ∀ p ∈ pending, p.rest.length < depth)
    (h : mergeBelow depth above layout frame pending = .ok r) {merged : Frame}
    (hmerged : r.groupAt? names = some merged)
    (hg : (frame.getD empty).HadAt (pending.map Pending.entry) names g) :
    merged.names = placedNames (layout.bind fun t => t.node? names)
      (pending.filterMap (Pending.into? layout names)) g.names := by
  induction names generalizing depth above layout frame pending r with
  | nil =>
    obtain rfl := hadAt_nil hg
    obtain rfl := Option.some.inj hmerged
    have hlayout : (layout.bind fun t => t.node? []) = layout := by cases layout <;> simp
    rw [filterMap_into?_nil, hlayout]
    rcases mergeBelow_eq_ok hf hdepth h with ⟨rfl, rfl⟩ | ⟨-, -, hnames, -⟩
    · exact (placedNames_nil _).symm
    · exact hnames
  | cons name rest ih =>
    rcases mergeBelow_eq_ok hf hdepth h with ⟨rfl, rfl⟩ | ⟨depth, rfl, -, hname⟩
    · rw [hadAt_of_nil hg hmerged]
      exact (placedNames_nil _).symm
    · obtain ⟨b, hseat, hfill⟩ := hname name
      obtain ⟨c, inner, hc, hgroup, hmerged⟩ := groupAt?_cons_eq_some_iff.mp hmerged
      rw [hc] at hfill
      have hchild := Part.child_eq layout (Part.named pending name)
      rw [filterMap_into?_cons, bind_node?_cons]
      rcases Part.fill_eq_ok hfill with ⟨hd, rfl⟩ | ⟨-, hgroups, r', hr', hcr⟩
      · -- the column is the one that was there, as it was
        have hdeeper : (Part.named pending name).deeper (layout.bind fun t => t.childIndex? name) =
            [] := Part.deeper_eq_nil_iff.mpr (Part.deeper_eq_nil_iff.mp hd)
        have hbelow := hg.deeper (layout.bind fun t => t.childIndex? name) hseat
          (by rintro d ⟨⟩; exact hgroup) (by simp)
        rw [hdeeper] at hbelow ⊢
        rw [hadAt_of_nil hbelow hmerged]
        exact (placedNames_nil _).symm
      · -- requests were merged into the group of the seat
        obtain rfl := Option.some.inj hcr
        obtain rfl : r' = inner := Option.some.inj hgroup
        rw [hchild] at hr'
        have hb := Part.wellFormed_of_seat (fun c hc => hf.column hc)
          (fun p hp => hwf p (Part.mem_named.mp hp).1) hseat
        refine ih (wellFormed_seatFrame hb) (fun q hq => column_wellFormed_of_mem_deeper hwf hq)
          (fun q hq => length_rest_of_mem_deeper hdepth hq) hr' hmerged (hg.deeper _ hseat ?_ ?_)
        · rintro c rfl
          obtain ⟨f, hcf⟩ := hgroups c rfl
          rw [Option.bind_some, hcf]
          rfl
        · rintro rfl
          rfl

/-- **No group of the frame is lost.** -/
theorem exists_groupAt?_of_mergeBelow (hf : (frame.getD empty).WellFormed)
    (hwf : ∀ p ∈ pending, p.column.WellFormed) (hdepth : ∀ p ∈ pending, p.rest.length < depth)
    (h : mergeBelow depth above layout frame pending = .ok r)
    (hold : (frame.getD empty).groupAt? names = some g) :
    ∃ merged, r.groupAt? names = some merged := by
  induction names generalizing depth above layout frame pending r with
  | nil => exact ⟨r, rfl⟩
  | cons name rest ih =>
    rcases mergeBelow_eq_ok hf hdepth h with ⟨rfl, rfl⟩ | ⟨depth, rfl, -, hname⟩
    · exact ⟨g, hold⟩
    · obtain ⟨b, hseat, hfill⟩ := hname name
      obtain ⟨c, inner, hc, hgroup, hold⟩ := groupAt?_cons_eq_some_iff.mp hold
      obtain rfl : b = some c := by
        rcases Part.seat_eq_ok hseat with ⟨c', hc', -, rfl⟩ | ⟨hc', -, -⟩ | ⟨t, hc', -, -⟩
        · exact hc'.symm.trans hc
        · exact absurd (hc.symm.trans hc') (by simp)
        · exact absurd (hc.symm.trans hc') (by simp)
      rw [groupAt?_cons]
      rcases Part.fill_eq_ok hfill with ⟨-, hcr⟩ | ⟨-, -, r', hr', hcr⟩
      · exact ⟨g, by rw [hcr, Option.bind_some, hgroup]; exact hold⟩
      · rw [Option.bind_some, hgroup] at hr'
        have hinnerwf : ((some inner).getD empty).WellFormed := (hf.column hc).frame hgroup
        obtain ⟨merged, hmerged⟩ := ih hinnerwf
          (fun q hq => column_wellFormed_of_mem_deeper hwf hq)
          (fun q hq => length_rest_of_mem_deeper hdepth hq) hr' hold
        exact ⟨merged, by rw [hcr]; exact hmerged⟩

end Levels

end Frame

end Colonnade
