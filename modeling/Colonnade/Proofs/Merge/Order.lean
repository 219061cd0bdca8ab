import Mathlib
import Colonnade.Proofs.Merge.Groups
import Colonnade.Proofs.Merge.StableMerge
import Colonnade.Proofs.Merge.Success
import Colonnade.Proofs.Removal.Pruned

/-!
# Where a merge puts new columns

After a removal the layout it leaves behind says where everything was. `Frame.merge_order` is about
requests merged into what remains, in that layout: at the top and in every group that is still there,
the result is a stable merge of the new names into the old ones, by anchors that are read off the
layout as a whole – from the group's node, the node of the request and the ancestors of it – and not
level by level. The walk that computes it never has to cut down a position there. In a group that has
gone as a whole and is built anew it may have to: the columns in it went without marks of their own.

Without a layout, all that is new comes last.
-/

namespace Colonnade

/-! ### Requests for a group -/

/-- The name that a request leads to in a group, if it leads into it. -/
def Request.nameIn? (names : List String) (r : Request) : Option String :=
  if names.isPrefixOf r.path.segments then r.path.segments[names.length]? else none

/-- **The new names in a group** with some names, as the requests come. -/
def newcomers (requests : List Request) (names old : List String) : List String :=
  (requests.filterMap (Request.nameIn? names)).eraseDups.filter (· ∉ old)

namespace Layout

/-- **The anchor of an address in a group**: there is one if the ancestor of the address one below the
group's depth is a child of the group's node. It is the position of that child if it has been
removed, and the one behind it otherwise. -/
def anchorAt? (t : Layout) (names : List String) (address : List Nat) : Option Nat := do
  let here ← t.addressOf? names
  let ancestor ← ancestorAt? address (names.length + 1)
  if parentAt? ancestor = some here then
    let child ← t.at? ancestor
    let position ← ancestor.getLast?
    if child.isRemoved then some position else some (position + 1)
  else none

/-- **The anchor of a name in a group**: the least one of the nodes of the requests for it. -/
def anchorOf? (t : Layout) (requests : List Request) (names : List String) (name : String) :
    Option Nat :=
  ((requests.filter fun r => r.nameIn? names = some name).filterMap fun r =>
    r.node.bind fun n => (t.address? n).bind (t.anchorAt? names)).min?

/-! ### From level to level -/

/-- At the top, an address is anchored at the child it begins with. -/
theorem anchorAt?_nil (t : Layout) (address : List Nat) :
    t.anchorAt? [] address = address.head?.bind fun i =>
      (t.children[i]?).map fun child => if child.isRemoved then i else i + 1 := by
  rcases address with _ | ⟨i, rest⟩
  · simp [anchorAt?, ancestorAt?]
  · cases h : t.children[i]? with
    | none => simp [anchorAt?, ancestorAt?, parentAt?, at?_cons, h]
    | some child =>
      by_cases hgone : child.isRemoved <;>
        simp [anchorAt?, ancestorAt?, parentAt?, at?_cons, h, hgone]

/-- In a group further in, it has to begin with the child of the first name. -/
theorem anchorAt?_cons (t : Layout) (name : String) (rest : List String) (address : List Nat) :
    t.anchorAt? (name :: rest) address =
      (t.child? name).bind fun child =>
        (Pending.placeBelow (t.childIndex? name) (some address)).bind (child.anchorAt? rest) := by
  rw [anchorAt?, addressOf?_cons, child?]
  rcases hj : t.childIndex? name with _ | j
  · rfl
  · rcases hchild : t.children[j]? with _ | child
    · simp [hchild]
    · rcases address with _ | ⟨i, tail⟩
      · simp [hchild, ancestorAt?, Pending.placeBelow]
      · -- an address that is too short has no ancestor in the group, seen from either level
        by_cases hlen : rest.length + 1 ≤ tail.length
        · obtain ⟨k, above, hcut⟩ : ∃ k above, tail.take (rest.length + 1) = k :: above := by
            cases tail with
            | nil => simp at hlen
            | cons k tail => exact ⟨k, tail.take rest.length, by simp⟩
          by_cases hij : j = i
          · subst hij
            cases hhere : child.addressOf? rest with
            | none => simp [hchild, hhere, Pending.placeBelow, anchorAt?]
            | some here =>
              simp [hchild, hhere, ancestorAt?, Pending.placeBelow, anchorAt?, hlen, hcut, parentAt?,
                at?_cons]
          · simp [hchild, ancestorAt?, Pending.placeBelow, hlen, hcut, parentAt?, Ne.symm hij, hij]
        · have hshort : child.anchorAt? rest tail = none := by
            simp [anchorAt?, ancestorAt?, hlen]
          by_cases hij : j = i
          · subst hij
            simp [hchild, ancestorAt?, Pending.placeBelow, hlen, hshort]
          · simp [hchild, ancestorAt?, Pending.placeBelow, hlen, hij]

end Layout

namespace Pending

variable {layout : Option Layout} {names : List String} {p q : Pending}

/-- The name under which a level sees a request. -/
theorem name_into? (layout : Option Layout) (names : List String) (p : Pending) :
    (p.into? layout names).map Pending.name =
      if names.isPrefixOf p.names then p.names[names.length]? else none := by
  induction names generalizing layout p with
  | nil => simp [into?, Pending.names]
  | cons name rest ih =>
    by_cases hname : p.name = name
    · rcases hd : p.deeper? (layout.bind fun t => t.childIndex? name) with _ | p'
      · have hnil : p.rest = [] := by
          by_contra hne
          obtain ⟨q, hq⟩ := exists_deeper? hne (layout.bind fun t => t.childIndex? name)
          exact absurd (hd.symm.trans hq) (by simp)
        simp [into?, hname, hd, Pending.names, hnil]
      · rw [into?, if_pos hname, hd, Option.bind_some, ih, (deeper?_eq_some hd).1]
        simp [Pending.names, hname]
    · simp [into?, hname, Pending.names, Ne.symm hname]

/-- **The anchor that a level sees** is the one of the address in the layout as a whole. -/
theorem anchor?_into? (h : p.into? layout names = some q) :
    q.anchor? (layout.bind fun t => t.node? names) =
      layout.bind fun t => p.place.bind (t.anchorAt? names) := by
  induction names generalizing layout p with
  | nil =>
    obtain rfl : p = q := by simpa [into?] using h
    rcases layout with _ | t
    · rfl
    · rw [Option.bind_some, Option.bind_some, Layout.node?_nil]
      rcases hp : p.place with _ | (_ | ⟨i, rest⟩)
      · simp [anchor?, hp]
      · simp [anchor?, hp, Layout.anchorAt?_nil]
      · simp [anchor?, hp, Layout.anchorAt?_nil]
  | cons name rest ih =>
    by_cases hname : p.name = name
    · rw [into?, if_pos hname] at h
      obtain ⟨p', hd, hq⟩ := Option.bind_eq_some_iff.mp h
      have hplace : p'.place = placeBelow (layout.bind fun t => t.childIndex? name) p.place := by
        rw [deeper?] at hd
        split at hd
        · exact absurd hd (by simp)
        · obtain rfl := Option.some.inj hd
          rfl
      -- the address goes on as the name does, or it is lost on both sides
      rw [Frame.bind_node?_cons, ih hq, hplace]
      rcases layout with _ | t
      · rfl
      · rcases p.place with _ | address
        · simp [placeBelow]
        · simp only [Option.bind_some, Layout.anchorAt?_cons]
    · rw [into?, if_neg hname] at h
      exact absurd h (by simp)

end Pending

namespace Frame

variable {requests : List Request} {layout : Option Layout} {names : List String}

/-- The requests as the level of a group sees them. -/
def pendingAt (layout : Option Layout) (requests : List Request) (names : List String) :
    List Pending :=
  (requests.map (Pending.ofRequest layout)).filterMap (Pending.into? layout names)

theorem name_into?_ofRequest (layout : Option Layout) (names : List String) (r : Request) :
    ((Pending.ofRequest layout r).into? layout names).map Pending.name = r.nameIn? names := by
  rw [Pending.name_into?, Pending.names_ofRequest, Request.nameIn?]

/-- New names are the same from below and from above. -/
theorem newNames_pendingAt (layout : Option Layout) (requests : List Request)
    (names old : List String) :
    newNames old (pendingAt layout requests names) = newcomers requests names old := by
  rw [newNames, newcomers, pendingAt, List.map_filterMap, List.filterMap_map]
  simp only [Function.comp_def, name_into?_ofRequest]

/-- So are anchors. -/
theorem anchor?_pendingAt (t : Layout) (requests : List Request) (names : List String)
    (name : String) :
    (Part.named (pendingAt (some t) requests names) name).anchor? (t.node? names) =
      t.anchorOf? requests names name := by
  rw [Part.anchor?_eq_min?, Layout.anchorOf?, Part.named, pendingAt]
  refine congrArg List.min? ?_
  rw [List.filterMap_filter, List.filterMap_filterMap, List.filterMap_map, List.filterMap_filter]
  refine List.filterMap_congr fun r _ => ?_
  have hname := name_into?_ofRequest (some t) names r
  rcases hq : (Pending.ofRequest (some t) r).into? (some t) names with _ | q
  · rw [hq] at hname
    simp [hq, ← hname]
  · rw [hq, Option.map_some] at hname
    have hplace : (Pending.ofRequest (some t) r).place = r.node.bind t.address? := rfl
    have hanchor := Pending.anchor?_into? hq
    rw [Option.bind_some, Option.bind_some, hplace, Option.bind_assoc] at hanchor
    by_cases hx : q.name = name
    · simp [hq, ← hname, hx, hanchor]
    · simp [hq, ← hname, hx]

/-! ### After a removal -/

/-- A name has the same position in the layout as in the frame. -/
theorem childIndex?_eq_columnIndex? {whole : Frame} {t : Layout} {inside : List (List String)}
    (ht : t.children = whole.columns.map (Column.marked inside)) (name : String) :
    t.childIndex? name = whole.columnIndex? name := by
  rw [Layout.childIndex?, columnIndex?, ht, List.findIdx?_map]
  simp [Function.comp_def]

theorem entries_ofRequest (layout : Option Layout) (requests : List Request) :
    (requests.map (Pending.ofRequest layout)).map Pending.entry =
      requests.map fun q => (q.path.segments, q.column) := by
  simp [Pending.entry, Function.comp_def]

/-- New names with their anchors, in ascending order of them, are the same from below and from
above. -/
theorem anchoredNames_pendingAt {t node : Layout} (hnode : t.node? names = some node)
    (requests : List Request) (old : List String) :
    anchoredNames (some node) (pendingAt (some t) requests names) old =
      ((newcomers requests names old).map fun name =>
        (t.anchorOf? requests names name, name)).mergeSort fun a b => Part.anchorLe a.1 b.1 := by
  rw [anchoredNames, newNames_pendingAt, ← hnode]
  simp only [anchor?_pendingAt]

/-- So is the stable merge. -/
theorem stableMerge_pendingAt {t node : Layout} (hnode : t.node? names = some node)
    (requests : List Request) {old : List String} (h : node.Keeps old) :
    StableMerge node.childIndex? (t.anchorOf? requests names) old (newcomers requests names old)
      (placedNames (some node) (pendingAt (some t) requests names) old) := by
  have hanchor : (fun x => (Part.named (pendingAt (some t) requests names) x).anchor? (some node)) =
      t.anchorOf? requests names :=
    funext fun x => hnode ▸ anchor?_pendingAt t requests names x
  rw [← hanchor, ← newNames_pendingAt (some t)]
  exact stableMerge_placedNames h

/-- **A merge into what is left of a frame**, in a group that is still there. -/
theorem merge_pruned_order {f : Frame} {t : Layout} {inside : List (List String)}
    (hf : f.WellFormed) (ht : t.children = f.columns.map (Column.marked inside))
    (hwf : ∀ r ∈ requests, r.column.WellFormed) {r old : Frame}
    (h : merge (some (f.pruned inside)) requests (some t) = .ok r)
    (hold : (f.pruned inside).groupAt? names = some old) :
    ∃ whole node merged, f.groupAt? names = some whole ∧ t.node? names = some node ∧
      r.groupAt? names = some merged ∧
      whole.columnIndex? = node.childIndex? ∧ node.Keeps old.names ∧
      merged.names = placedNames (some node) (pendingAt (some t) requests names) old.names := by
  have hleft : ((some (f.pruned inside)).getD empty).WellFormed := hf.pruned inside
  have hpending : ∀ p ∈ requests.map (Pending.ofRequest (some t)), p.column.WellFormed :=
    List.forall_mem_map.mpr hwf
  have hdepth : ∀ p ∈ requests.map (Pending.ofRequest (some t)), p.rest.length < deepest requests :=
    fun _ hp => length_rest_lt_deepest hp
  obtain ⟨whole, node, inside', hwhole, hnode, rfl, hchildren⟩ := groupAt?_pruned hf ht hold
  obtain ⟨merged, hmerged⟩ := exists_groupAt?_of_mergeBelow hleft hpending hdepth h hold
  have hnames := names_of_mergeBelow hleft hpending hdepth h hmerged (Or.inl hold)
  rw [Option.bind_some, hnode] at hnames
  exact ⟨whole, node, merged, hwhole, hnode, hmerged,
    (funext (childIndex?_eq_columnIndex? hchildren)).symm,
    keeps_pruned hchildren (hf.groupAt hwhole).nodup_names, hnames⟩

/-- **The running offset computes a stable merge.** When requests are merged into what a removal
leaves, then at the top and in every group that is still there the old names keep their order, a new
name with an anchor stands after exactly those whose position was less than it, and new names are in
the order of anchors and requests; and every position the walk computes is a place that there is.
Without a layout new names come last in every group. -/
theorem merge_order {f : Frame} {paths : List Path} {removal : Removal} (hf : f.WellFormed)
    (hremoval : f.remove paths = .ok removal) (hwf : ∀ r ∈ requests, r.column.WellFormed) :
    (∀ r, merge (some removal.frame) requests (some removal.layout) = .ok r →
      ∀ names old, removal.frame.groupAt? names = some old →
        ∃ whole node merged, f.groupAt? names = some whole ∧
          removal.layout.node? names = some node ∧ r.groupAt? names = some merged ∧
          StableMerge whole.columnIndex? (removal.layout.anchorOf? requests names) old.names
            (newcomers requests names old.names) merged.names ∧
          let new := ((newcomers requests names old.names).map fun name =>
            (removal.layout.anchorOf? requests names name, name)).mergeSort
              fun a b => Part.anchorLe a.1 b.1
          merged.names = (Walk.start (some node)).place old.names new ∧
            (Walk.start (some node)).InRange old.names.length (new.map Prod.fst)) ∧
      ∀ frame : Option Frame, (∀ g ∈ frame, g.WellFormed) →
        ∀ r, merge frame requests none = .ok r →
          ∀ names merged base, r.groupAt? names = some merged →
            (frame.getD empty).HadAt (requests.map fun q => (q.path.segments, q.column)) names base →
              merged.names = base.names ++ newcomers requests names base.names := by
  constructor
  · -- with the layout of the removal
    intro r h names old hold
    obtain ⟨-, rfl⟩ := (remove_eq_ok_iff hf).mp hremoval
    obtain ⟨whole, node, merged, hwhole, hnode, hmerged, hindex, hkeeps, hnames⟩ :=
      merge_pruned_order (t := f.marked (paths.map Path.segments)) hf rfl hwf h hold
    have hstable := stableMerge_pendingAt hnode requests hkeeps
    have hwalk : (Walk.start (some node)).InRange old.names.length ((anchoredNames (some node)
        (pendingAt (some (f.marked (paths.map Path.segments))) requests names) old.names).map
          Prod.fst) := (placedNames_eq_rankedNames hkeeps).2
    rw [← hnames, ← hindex] at hstable
    rw [placedNames, anchoredNames_pendingAt hnode] at hnames
    rw [anchoredNames_pendingAt hnode] at hwalk
    exact ⟨whole, node, merged, hwhole, hnode, hmerged, hstable, hnames, hwalk⟩
  · -- without a layout
    intro frame hframe r h names merged base hmerged hbase
    have hf' : (frame.getD empty).WellFormed := by
      cases frame with
      | none => exact wellFormed_empty
      | some g => exact hframe g rfl
    rw [← entries_ofRequest none] at hbase
    have hnames := names_of_mergeBelow hf' (List.forall_mem_map.mpr hwf)
      (fun _ hp => length_rest_lt_deepest hp) h hmerged hbase
    rw [Option.bind_none, placedNames_none] at hnames
    rw [hnames, ← newNames_pendingAt none]
    rfl

/-- In a group that has lost its first two columns, one new column takes the place of the second, one
goes behind the third, and one has no place of its own. -/
theorem merge_order_in_group :
    let f : Frame :=
      ⟨[.ofTexts "a" [none], .group "g"
        ⟨[.ofTexts "x" [none], .ofTexts "y" [none], .ofTexts "z" [none]], 1⟩], 1⟩
    let paths : List Path := [.below ["g"] "y", .below ["g"] "x"]
    let requests : List Request :=
      [{ path := .below ["g"] "w", column := .ofTexts "w" [none] },
        { path := .below ["g"] "v", column := .ofTexts "v" [none], node := some 5 },
        { path := .below ["g"] "u", column := .ofTexts "u" [none], node := some 4 }]
    let r : Frame :=
      ⟨[.ofTexts "a" [none], .group "g"
        ⟨[.ofTexts "u" [none], .ofTexts "z" [none], .ofTexts "v" [none], .ofTexts "w" [none]], 1⟩], 1⟩
    ∃ removal old, (f.WellFormed ∧ f.remove paths = .ok removal ∧
        (∀ r ∈ requests, r.column.WellFormed) ∧
        merge (some removal.frame) requests (some removal.layout) = .ok r ∧
        removal.frame.groupAt? ["g"] = some old) ∧
      ∃ whole node merged, f.groupAt? ["g"] = some whole ∧
        removal.layout.node? ["g"] = some node ∧ r.groupAt? ["g"] = some merged ∧
        StableMerge whole.columnIndex? (removal.layout.anchorOf? requests ["g"]) old.names
          (newcomers requests ["g"] old.names) merged.names ∧
        let new := ((newcomers requests ["g"] old.names).map fun name =>
          (removal.layout.anchorOf? requests ["g"] name, name)).mergeSort
            fun a b => Part.anchorLe a.1 b.1
        merged.names = (Walk.start (some node)).place old.names new ∧
          (Walk.start (some node)).InRange old.names.length (new.map Prod.fst) := by
  intro f paths requests r
  have hf : f.WellFormed := by
    simp [f, Frame.WellFormed, columnsWellFormed, Column.WellFormed, Column.ofTexts,
      Column.ofValues, cellsWellFormed, Column.name, Column.length]
  have hrequests : ∀ r ∈ requests, r.column.WellFormed := by
    simp [requests, Column.WellFormed, Column.ofTexts, Column.ofValues, cellsWellFormed]
  obtain ⟨removal, hremoval⟩ : ∃ removal, f.remove paths = .ok removal := ⟨_, rfl⟩
  have hmerge : merge (some removal.frame) requests (some removal.layout) = .ok r := by
    obtain rfl := Except.ok.inj hremoval
    cbv
  obtain ⟨old, hold⟩ : ∃ old, removal.frame.groupAt? ["g"] = some old := by
    obtain rfl := Except.ok.inj hremoval
    exact ⟨_, rfl⟩
  exact ⟨removal, old, ⟨hf, hremoval, hrequests, hmerge, hold⟩,
    (merge_order hf hremoval hrequests).1 r hmerge ["g"] old hold⟩

end Frame

end Colonnade
