import Colonnade.Frame.Removal
import Colonnade.Proofs.Frame.Descent

/-!
# What a removal leaves of a column

`Column.strip` collects three things at once, and with them the way it has come. Here they are
taken apart, for a column on its own:

* `Column.prune?` – what is left of the column, if anything is;
* `Column.taken` – what is taken out of it, with addresses and paths counted from the column;
* `Column.marked` – its layout, with marks on what has gone.

`Column.stripAll_eq` says that columns side by side have nothing to do with each other, and that
the way does not matter but for being put before addresses and paths. For a group that is not taken
as a whole, the three are those of its columns (`Column.prune?_group`, `Column.taken_group`,
`Column.marked_group`), whether there are paths into it or not.
-/

namespace Colonnade

theorem mem_pathsThrough {name : String} {paths : List (List String)} {rest : List String} :
    rest ∈ pathsThrough name paths ↔ name :: rest ∈ paths := by
  rw [pathsThrough, List.mem_filterMap]
  constructor
  · rintro ⟨_ | ⟨segment, tail⟩, hmem, h⟩
    · exact absurd h (by simp)
    · by_cases hname : segment = name
      · obtain rfl : tail = rest := by simpa [hname] using h
        exact hname ▸ hmem
      · exact absurd h (by simp [hname])
  · exact fun h => ⟨_, h, by simp⟩

/-! ### The way to a column -/

/-- A column that was taken out, with its address and its path. -/
abbrev Taken := List Nat × Path × Column

/-- The path counted from further up. -/
def Path.under (above : List String) (p : Path) : Path :=
  ⟨above ++ p.segments, by simp [p.nonempty]⟩

@[simp] theorem Path.segments_under (above : List String) (p : Path) :
    (p.under above).segments = above ++ p.segments := rfl

@[simp] theorem Path.last_under (above : List String) (p : Path) : (p.under above).last = p.last :=
  List.getLast_append_of_ne_nil _ p.nonempty

/-- Address and path counted from further up. -/
def Taken.under (above : List String) (address : List Nat) (e : Taken) : Taken :=
  (address ++ e.1, e.2.1.under above, e.2.2)

theorem Taken.under_under (above above' : List String) (address address' : List Nat) (e : Taken) :
    (Taken.under above' address' e).under above address =
      Taken.under (above ++ above') (address ++ address') e := by
  simp [Taken.under, Path.under]

namespace Stripped

/-- Addresses and paths counted from further up. -/
def under (above : List String) (address : List Nat) (s : Stripped) : Stripped :=
  { s with removed := s.removed.map (Taken.under above address) }

@[simp] theorem under_take (above : List String) (address : List Nat) (c : Column) :
    (take [] [] c).under above address = take above address c := by
  simp [take, under, Taken.under, Path.under, Path.below]

@[simp] theorem under_group (above : List String) (address : List Nat) (name : String) (n : Nat)
    (s : Stripped) : (group name n s).under above address = group name n (s.under above address) :=
  rfl

@[simp] theorem under_append (above : List String) (address : List Nat) (s t : Stripped) :
    (s.append t).under above address = (s.under above address).append (t.under above address) := by
  simp [append, under]

theorem under_under (above above' : List String) (address address' : List Nat) (s : Stripped) :
    (s.under above' address').under above address =
      s.under (above ++ above') (address ++ address') := by
  simp [under, Function.comp_def, Taken.under_under]

end Stripped

namespace Column

variable {above : List String} {address : List Nat} {paths : List (List String)}

/-- The three things that may become of a column. -/
theorem strip_eq (c : Column) :
    c.strip above address paths =
      if [] ∈ pathsThrough c.name paths then .take above address c
      else
        match c.group? with
        | none => .keep c
        | some f =>
          if (pathsThrough c.name paths).isEmpty then .keep c
          else .group c.name f.rowCount (stripAll (above ++ [c.name]) address 0
            (pathsThrough c.name paths) f.columns) := by
  cases c with
  | value _ _ _ _ => rfl
  | frames _ _ => rfl
  | group name f =>
    obtain ⟨columns, rowCount⟩ := f
    rfl

/-- **The way plays no role** but for being put before addresses and paths. -/
theorem strip_under (above : List String) (address : List Nat) (paths : List (List String))
    (c : Column) : c.strip above address paths = (c.strip [] [] paths).under above address := by
  induction c using groupInduction generalizing above address paths with
  | leaf c hc =>
    rw [strip_eq, strip_eq, hc]
    split
    · exact (Stripped.under_take _ _ _).symm
    · rfl
  | group label f ih =>
    -- side by side, each column puts the way before its own
    have hall (above : List String) (address : List Nat) (paths : List (List String))
        (cs : List Column) (hcs : ∀ c ∈ cs, c ∈ f.columns) (i : Nat) :
        stripAll above address i paths cs = (stripAll [] [] i paths cs).under above address := by
      induction cs generalizing i with
      | nil => rfl
      | cons c cs ihcs =>
        have hc := hcs c List.mem_cons_self
        rw [stripAll, stripAll, ih c hc above, ih c hc [] ([] ++ [i]),
          ihcs (fun d hd => hcs d (List.mem_cons_of_mem c hd)), Stripped.under_append,
          Stripped.under_under, List.nil_append, List.append_nil]
    rw [strip_eq, strip_eq]
    simp only [group?]
    split
    · exact (Stripped.under_take _ _ _).symm
    · split
      · rfl
      · rw [hall (above ++ _) address _ _ (fun _ h => h), hall ([] ++ _) [] _ _ (fun _ h => h),
          Stripped.under_group, Stripped.under_under, List.nil_append, List.append_nil]

/-! ### What becomes of a column -/

/-- **What is left of a column**, if anything is. -/
def prune? (paths : List (List String)) (c : Column) : Option Column :=
  (c.strip [] [] paths).kept.head?

/-- **What is taken out of a column.** -/
def taken (paths : List (List String)) (c : Column) : List Taken :=
  (c.strip [] [] paths).removed

/-- **The layout of a column** with marks on what has gone. -/
def marked (paths : List (List String)) (c : Column) : Layout :=
  (c.strip [] [] paths).layouts.headD c.layout

/-- What is taken out of columns side by side. -/
def takenAll (paths : List (List String)) (cs : List Column) : List Taken :=
  cs.zipIdx.flatMap fun e => (e.1.taken paths).map (Taken.under [] [e.2])

theorem strip_eq_mk (above : List String) (address : List Nat) (paths : List (List String))
    (c : Column) :
    c.strip above address paths =
      ⟨(c.prune? paths).toList, (c.taken paths).map (Taken.under above address),
        [c.marked paths]⟩ := by
  rw [strip_under, prune?, taken, marked, Stripped.under, Stripped.mk.injEq]
  refine ⟨?_, rfl, ?_⟩
  · rw [strip_eq]
    split
    · rfl
    · split
      · rfl
      · split
        · rfl
        · simp only [Stripped.group]
          split <;> rfl
  · rw [strip_eq]
    split
    · rfl
    · split
      · rfl
      · split <;> rfl

/-- **Columns side by side have nothing to do with each other.** -/
theorem stripAll_eq (above : List String) (address : List Nat) (i : Nat)
    (paths : List (List String)) (cs : List Column) :
    stripAll above address i paths cs =
      ⟨cs.filterMap (prune? paths),
        (cs.zipIdx i).flatMap fun e =>
          (e.1.taken paths).map (Taken.under above (address ++ [e.2])),
        cs.map (marked paths)⟩ := by
  induction cs generalizing i with
  | nil => rfl
  | cons c cs ih =>
    rw [stripAll, ih, strip_eq_mk, Stripped.append]
    cases h : c.prune? paths <;> simp [h]

theorem layouts_eq_map (cs : List Column) : layouts cs = cs.map layout := by
  induction cs with
  | nil => rfl
  | cons c cs ih => rw [layouts, ih, List.map_cons]

/-! #### Without paths -/

/-- A column that no path begins with stays as it is. -/
theorem strip_of_pathsThrough_eq_nil {paths : List (List String)} {c : Column}
    (h : pathsThrough c.name paths = []) (above : List String) (address : List Nat) :
    c.strip above address paths = .keep c := by
  rw [strip_eq, h]
  cases c.group? <;> rfl

theorem prune?_of_pathsThrough_eq_nil {paths : List (List String)} {c : Column}
    (h : pathsThrough c.name paths = []) : c.prune? paths = some c := by
  rw [prune?, strip_of_pathsThrough_eq_nil h]
  rfl

theorem strip_nil (above : List String) (address : List Nat) (c : Column) :
    c.strip above address [] = .keep c :=
  strip_of_pathsThrough_eq_nil rfl above address

@[simp] theorem prune?_nil (c : Column) : c.prune? [] = some c :=
  prune?_of_pathsThrough_eq_nil rfl

@[simp] theorem taken_nil (c : Column) : c.taken [] = [] := by
  rw [taken, strip_nil]
  rfl

@[simp] theorem marked_nil (c : Column) : c.marked [] = c.layout := by
  rw [marked, strip_nil]
  rfl

@[simp] theorem filterMap_prune?_nil (cs : List Column) : cs.filterMap (prune? []) = cs := by
  rw [List.filterMap_congr fun c _ => prune?_nil c, List.filterMap_some]

@[simp] theorem takenAll_nil (cs : List Column) : takenAll [] cs = [] := by
  simp [takenAll]

/-! #### A column that is taken as a whole -/

section Whole

variable {paths : List (List String)} {c : Column} (h : [] ∈ pathsThrough c.name paths)

include h

theorem prune?_of_mem : c.prune? paths = none := by
  rw [prune?, strip_eq, if_pos h]
  rfl

theorem taken_of_mem : c.taken paths = [([], Path.single c.name, c)] := by
  rw [taken, strip_eq, if_pos h]
  rfl

theorem marked_of_mem : c.marked paths = c.layout.removed := by
  rw [marked, strip_eq, if_pos h]
  rfl

end Whole

/-! #### A column that is no group -/

section Leaf

variable {paths : List (List String)} {c : Column} (hc : c.group? = none)
  (h : [] ∉ pathsThrough c.name paths)

include hc h

theorem prune?_leaf : c.prune? paths = some c := by
  rw [prune?, strip_eq, if_neg h, hc]
  rfl

theorem taken_leaf : c.taken paths = [] := by
  rw [taken, strip_eq, if_neg h, hc]
  rfl

theorem marked_leaf : c.marked paths = c.layout := by
  rw [marked, strip_eq, if_neg h, hc]
  rfl

end Leaf

/-! #### A group that is not taken as a whole -/

section Group

variable {paths : List (List String)} {label : String} {f : Frame}
  (h : [] ∉ pathsThrough label paths)

include h

theorem strip_group :
    (group label f).strip [] [] paths =
      if pathsThrough label paths = [] then .keep (.group label f)
      else .group label f.rowCount
        ⟨f.columns.filterMap (prune? (pathsThrough label paths)),
          (takenAll (pathsThrough label paths) f.columns).map (Taken.under [label] []),
          f.columns.map (marked (pathsThrough label paths))⟩ := by
  have hname : (group label f).name = label := rfl
  have hall : stripAll ([] ++ [label]) [] 0 (pathsThrough label paths) f.columns =
      ⟨f.columns.filterMap (prune? (pathsThrough label paths)),
        (takenAll (pathsThrough label paths) f.columns).map (Taken.under [label] []),
        f.columns.map (marked (pathsThrough label paths))⟩ := by
    rw [stripAll_eq, takenAll, List.map_flatMap]
    simp only [List.map_map, Function.comp_def, Taken.under_under, List.nil_append,
      List.append_nil]
  rw [strip_eq, hname, if_neg h]
  simp only [group?, hall, List.isEmpty_iff]

theorem prune?_group :
    (group label f).prune? paths =
      if pathsThrough label paths ≠ [] ∧ f.columns.filterMap (prune? (pathsThrough label paths)) = []
      then none
      else some (.group label
        ⟨f.columns.filterMap (prune? (pathsThrough label paths)), f.rowCount⟩) := by
  obtain ⟨columns, rowCount⟩ := f
  rw [prune?, strip_group h]
  by_cases hnil : pathsThrough label paths = []
  · simp [hnil, Stripped.keep]
  · by_cases hkept : columns.filterMap (prune? (pathsThrough label paths)) = []
    · simp [hnil, hkept, Stripped.group]
    · simp [hnil, hkept, Stripped.group]

theorem taken_group :
    (group label f).taken paths =
      (takenAll (pathsThrough label paths) f.columns).map (Taken.under [label] []) := by
  rw [taken, strip_group h]
  by_cases hnil : pathsThrough label paths = []
  · simp [hnil, Stripped.keep]
  · simp [hnil, Stripped.group]

theorem children_marked_group :
    ((group label f).marked paths).children =
      f.columns.map (marked (pathsThrough label paths)) := by
  obtain ⟨columns, rowCount⟩ := f
  rw [marked, strip_group h]
  by_cases hnil : pathsThrough label paths = []
  · simp [hnil, Stripped.keep, layout, layouts_eq_map, Layout.children]
  · simp [hnil, Stripped.group, Layout.children]

end Group

/-! #### Any column -/

/-- **What is left of a column**: a column that is no group as it was, or a group of what is left of
its columns. -/
theorem prune?_eq_some {paths : List (List String)} {c d : Column} (h : c.prune? paths = some d) :
    [] ∉ pathsThrough c.name paths ∧ ((c.group? = none ∧ d = c) ∨ ∃ f, c.group? = some f ∧
      d = .group c.name ⟨f.columns.filterMap (prune? (pathsThrough c.name paths)), f.rowCount⟩) := by
  have hthere : [] ∉ pathsThrough c.name paths := fun hmem =>
    absurd h (by simp [prune?_of_mem hmem])
  refine ⟨hthere, ?_⟩
  rcases hc : c.group? with _ | f
  · exact Or.inl ⟨rfl, (Option.some.inj ((prune?_leaf hc hthere).symm.trans h)).symm⟩
  · rw [group?_eq_some_iff.mp hc, prune?_group hthere] at h
    split at h
    · exact absurd h (by simp)
    · exact Or.inr ⟨f, rfl, (Option.some.inj h).symm⟩

/-- It has the name of the column. -/
theorem name_of_prune? {paths : List (List String)} {c d : Column} (h : c.prune? paths = some d) :
    d.name = c.name := by
  obtain ⟨-, ⟨-, rfl⟩ | ⟨f, -, rfl⟩⟩ := prune?_eq_some h
  · rfl
  · rfl

/-- And its length. -/
theorem length_of_prune? {paths : List (List String)} {c d : Column}
    (h : c.prune? paths = some d) : d.length = c.length := by
  obtain ⟨-, ⟨-, rfl⟩ | ⟨f, hf, rfl⟩⟩ := prune?_eq_some h
  · rfl
  · rw [group?_eq_some_iff.mp hf]
    rfl

@[simp] theorem name_layout (c : Column) : c.layout.name = c.name := by
  rcases c with _ | ⟨label, columns, rowCount⟩ | _ <;> rfl

@[simp] theorem isRemoved_layout (c : Column) : c.layout.isRemoved = false := by
  rcases c with _ | ⟨label, columns, rowCount⟩ | _ <;> rfl

@[simp] theorem name_marked (paths : List (List String)) (c : Column) :
    (c.marked paths).name = c.name := by
  by_cases hmem : [] ∈ pathsThrough c.name paths
  · rw [marked_of_mem hmem, ← name_layout c]
    cases c.layout
    rfl
  · rcases hc : c.group? with _ | f
    · rw [marked_leaf hc hmem, name_layout]
    · rw [group?_eq_some_iff.mp hc, marked, strip_group hmem]
      split
      · exact name_layout _
      · rfl

/-- **Marked is what has nothing left.** -/
theorem isRemoved_marked (paths : List (List String)) (c : Column) :
    (c.marked paths).isRemoved = (c.prune? paths).isNone := by
  by_cases hmem : [] ∈ pathsThrough c.name paths
  · rw [marked_of_mem hmem, prune?_of_mem hmem]
    cases c.layout
    rfl
  · rcases hc : c.group? with _ | f
    · rw [marked_leaf hc hmem, prune?_leaf hc hmem]
      exact isRemoved_layout c
    · rw [group?_eq_some_iff.mp hc, marked, prune?, strip_group hmem]
      split
      · exact isRemoved_layout _
      · simp only [Stripped.group, List.headD_cons, Layout.isRemoved]
        cases f.columns.filterMap (prune? (pathsThrough c.name paths)) <;> rfl

end Column

end Colonnade
