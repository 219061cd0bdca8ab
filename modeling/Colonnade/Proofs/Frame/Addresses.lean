import Colonnade.Frame.Layout
import Mathlib.Data.List.Nodup

/-!
# Names, addresses and numbers of nodes

Names lead from a layout to a node of it, `Layout.node?`, in the way in which they lead from a frame
to a column. A node that is there is found again by its number: `Layout.address?_number`. Each number
below the number of nodes is the number of one: `Layout.exists_number_eq`.
-/

namespace Colonnade

namespace Layout

/-! ### Names and addresses -/

/-- The first child with a name. -/
def child? (t : Layout) (name : String) : Option Layout :=
  (t.childIndex? name).bind fun i => t.children[i]?

/-- **The node that names lead to.** -/
def node? (t : Layout) (names : List String) : Option Layout :=
  (t.addressOf? names).bind t.at?

@[simp] theorem at?_nil (t : Layout) : t.at? [] = some t := by
  rw [at?]

theorem at?_cons (t : Layout) (i : Nat) (rest : List Nat) :
    t.at? (i :: rest) = t.children[i]?.bind fun child => child.at? rest := by
  rw [at?]
  cases t.children[i]? <;> rfl

@[simp] theorem addressOf?_nil (t : Layout) : t.addressOf? [] = some [] := by
  rw [addressOf?]

theorem addressOf?_cons (t : Layout) (name : String) (rest : List String) :
    t.addressOf? (name :: rest) =
      (t.childIndex? name).bind fun i => t.children[i]?.bind fun child =>
        (child.addressOf? rest).map (i :: ·) := by
  rw [addressOf?]
  cases t.childIndex? name with
  | none => rfl
  | some i =>
    dsimp only [Option.bind_some]
    cases t.children[i]? <;> rfl

@[simp] theorem node?_nil (t : Layout) : t.node? [] = some t := by
  simp [node?]

theorem node?_cons (t : Layout) (name : String) (rest : List String) :
    t.node? (name :: rest) = (t.child? name).bind fun child => child.node? rest := by
  rw [node?, addressOf?_cons, child?]
  cases t.childIndex? name with
  | none => rfl
  | some i =>
    cases hi : t.children[i]? with
    | none => simp [hi]
    | some child =>
      have htail : (t.at? ∘ fun tail => i :: tail) = child.at? :=
        funext fun tail => by simp [at?_cons, hi]
      simp only [Option.bind_some, hi, node?, Option.bind_map, htail]

/-- Where names differ, the child at a position is the one of its name. -/
theorem childIndex?_of_getElem? {t child : Layout} {i : Nat}
    (ht : (t.children.map name).Nodup) (h : t.children[i]? = some child) :
    t.childIndex? child.name = some i := by
  obtain ⟨hi, rfl⟩ := List.getElem?_eq_some_iff.mp h
  rw [childIndex?, List.findIdx?_eq_some_iff_getElem]
  refine ⟨hi, by simp, fun j hj heq => ?_⟩
  have hname : t.children[j].name = t.children[i].name := by simpa using heq
  have hji : t.children[j] = t.children[i] :=
    List.inj_on_of_nodup_map ht (List.getElem_mem _) (List.getElem_mem _) hname
  exact absurd ((ht.of_map name).getElem_inj_iff.mp hji) (Nat.ne_of_lt hj)

theorem at?_append (t : Layout) (above below : List Nat) :
    t.at? (above ++ below) = (t.at? above).bind fun s => s.at? below := by
  induction above generalizing t with
  | nil => simp
  | cons i above ih =>
    rw [List.cons_append, at?_cons, at?_cons, Option.bind_assoc]
    exact congrArg _ (funext ih)

/-- The nodes one position below a node are its children. -/
theorem at?_concat_eq_some_iff {t s : Layout} {above : List Nat} {i : Nat} :
    t.at? (above ++ [i]) = some s ↔
      ∃ group, t.at? above = some group ∧ group.children[i]? = some s := by
  simp [at?_append, at?_cons, Option.bind_eq_some_iff]

/-- A child with a name is there. -/
theorem exists_child_of_childIndex? {t : Layout} {name : String} {i : Nat}
    (h : t.childIndex? name = some i) : ∃ child, t.children[i]? = some child ∧ child.name = name := by
  obtain ⟨hlt, hname, -⟩ := List.findIdx?_eq_some_iff_getElem.mp h
  exact ⟨_, List.getElem?_eq_getElem hlt, by simpa using hname⟩

/-- The address of names leads to a node, and its names are these. -/
theorem at?_of_addressOf? {t : Layout} {names : List String} {address : List Nat}
    (h : t.addressOf? names = some address) :
    (∃ s, t.at? address = some s) ∧ t.namesTo address = names := by
  induction names generalizing t address with
  | nil =>
    obtain rfl : address = [] := by simpa using h.symm
    exact ⟨⟨t, at?_nil t⟩, rfl⟩
  | cons name rest ih =>
    rw [addressOf?_cons] at h
    obtain ⟨i, hi, h⟩ := Option.bind_eq_some_iff.mp h
    obtain ⟨child, hchild, h⟩ := Option.bind_eq_some_iff.mp h
    obtain ⟨below, hbelow, rfl⟩ := Option.map_eq_some_iff.mp h
    obtain ⟨⟨s, hs⟩, hnames⟩ := ih hbelow
    obtain ⟨child', hchild', hname⟩ := exists_child_of_childIndex? hi
    obtain rfl : child = child' := Option.some.inj (hchild.symm.trans hchild')
    refine ⟨⟨s, by rw [at?_cons, hchild, Option.bind_some, hs]⟩, ?_⟩
    simp only [namesTo, hchild, hname, hnames]

/-! ### The names on the way -/

theorem namesTo_concat {t s child : Layout} {address : List Nat} {i : Nat} (h : t.at? address = some s)
    (hchild : s.children[i]? = some child) :
    t.namesTo (address ++ [i]) = t.namesTo address ++ [child.name] := by
  induction address generalizing t with
  | nil =>
    obtain rfl : t = s := by simpa using h
    simp [namesTo, hchild]
  | cons j rest ih =>
    rw [at?_cons] at h
    obtain ⟨next, hnext, h⟩ := Option.bind_eq_some_iff.mp h
    simp only [List.cons_append, namesTo, hnext, ih h]

theorem namesTo_take (t : Layout) (address : List Nat) (n : Nat) :
    t.namesTo (address.take n) = (t.namesTo address).take n := by
  induction address generalizing t n with
  | nil => simp [namesTo]
  | cons i rest ih =>
    cases n with
    | zero => simp [namesTo]
    | succ n =>
      simp only [List.take_succ_cons, namesTo]
      cases t.children[i]? with
      | none => simp
      | some child => simp [ih]

theorem length_namesTo {t s : Layout} {address : List Nat} (h : t.at? address = some s) :
    (t.namesTo address).length = address.length := by
  induction address generalizing t with
  | nil => rfl
  | cons i rest ih =>
    rw [at?_cons] at h
    obtain ⟨child, hchild, h⟩ := Option.bind_eq_some_iff.mp h
    simp [namesTo, hchild, ih h]

/-- **The layout keeps these names**: its children have different names, and these are the names of
those that have not been removed. -/
structure Keeps (t : Layout) (names : List String) : Prop where
  nodup : (t.children.map name).Nodup
  kept : (t.children.filter fun child => !child.isRemoved).map name = names

/-! ### Numbers -/

theorem size_eq (t : Layout) : t.size = sizeAll t.children + 1 := by
  cases t
  rw [size, children]

/-- Children before and at a position have no more nodes than all of them. -/
theorem sizeAll_take_add_le {ts : List Layout} {i : Nat} {child : Layout}
    (h : ts[i]? = some child) : sizeAll (ts.take i) + child.size ≤ sizeAll ts := by
  induction ts generalizing i with
  | nil => exact absurd h (by simp)
  | cons t ts ih =>
    cases i with
    | zero =>
      obtain rfl : t = child := by simpa using h
      simp [sizeAll]
    | succ i =>
      have hle := ih (i := i) (by simpa using h)
      simp only [List.take_succ_cons, sizeAll]
      omega

/-- The number of a node below a child counts the children before. -/
theorem number_cons {label : String} {gone : Bool} {ts : List Layout} {child : Layout} {i : Nat}
    (h : ts[i]? = some child) (rest : List Nat) :
    (Layout.node label gone ts).number (i :: rest) = sizeAll (ts.take i) + child.number rest + 1 := by
  simp only [number, children, h, childNumber]
  omega

/-- Only the root has the number 0. -/
theorem number_cons_ne_zero (t : Layout) (i : Nat) (rest : List Nat) : t.number (i :: rest) ≠ 0 := by
  rw [number, childNumber]
  split <;> omega

theorem number_concat {t s : Layout} {address : List Nat} (h : t.at? address = some s) (i : Nat) :
    t.number (address ++ [i]) = t.number address + childNumber s.children i := by
  induction address generalizing t with
  | nil =>
    obtain rfl : t = s := by simpa using h
    cases hchild : t.children[i]? <;> simp [number, hchild]
  | cons j rest ih =>
    rw [at?_cons] at h
    obtain ⟨child, hchild, h⟩ := Option.bind_eq_some_iff.mp h
    simp only [List.cons_append, number, hchild, ih h, Nat.add_assoc]

/-- **A node that is there has one of the numbers there are.** -/
theorem number_lt_size {t s : Layout} {address : List Nat} (h : t.at? address = some s) :
    t.number address < t.size := by
  induction address generalizing t with
  | nil =>
    rw [number, size_eq]
    omega
  | cons i rest ih =>
    rw [at?_cons] at h
    obtain ⟨child, hchild, h⟩ := Option.bind_eq_some_iff.mp h
    have hlt := ih h
    have hle := sizeAll_take_add_le hchild
    simp only [number, hchild, childNumber, size_eq t]
    omega

/-- A number beyond the children before a position is looked for in the child there. -/
theorem addressAmong?_eq {ts : List Layout} {i n : Nat} {child : Layout}
    (h : ts[i]? = some child) (hn : n < child.size) (s : Nat) :
    addressAmong? ts s (sizeAll (ts.take i) + n) = (child.address? n).map ((s + i) :: ·) := by
  induction ts generalizing i s with
  | nil => exact absurd h (by simp)
  | cons t ts ih =>
    rw [addressAmong?]
    cases i with
    | zero =>
      obtain rfl : t = child := by simpa using h
      have hlt : sizeAll ((t :: ts).take 0) + n < t.size := by simpa [sizeAll] using hn
      rw [if_pos hlt]
      simp [sizeAll]
    | succ i =>
      -- the number is past the first child, and less by its size in the others
      have hge : ¬sizeAll ((t :: ts).take (i + 1)) + n < t.size := by
        simp only [List.take_succ_cons, sizeAll]
        omega
      have hsub : sizeAll ((t :: ts).take (i + 1)) + n - t.size = sizeAll (ts.take i) + n := by
        simp only [List.take_succ_cons, sizeAll]
        omega
      rw [if_neg hge, hsub, ih (by simpa using h), Nat.add_right_comm, Nat.add_assoc]

/-- **A node that is there is found by its number.** -/
theorem address?_number {t s : Layout} {address : List Nat} (h : t.at? address = some s) :
    t.address? (t.number address) = some address := by
  induction address generalizing t with
  | nil =>
    cases t
    rw [number, address?]
  | cons i rest ih =>
    rw [at?_cons] at h
    obtain ⟨child, hchild, hrest⟩ := Option.bind_eq_some_iff.mp h
    obtain ⟨label, gone, ts⟩ := t
    rw [children] at hchild
    rw [number_cons hchild, address?, addressAmong?_eq hchild (number_lt_size hrest), ih hrest]
    simp

mutual

/-- **Each number belongs to a node.** -/
theorem exists_number_eq : ∀ (t : Layout) {n : Nat}, n < t.size →
    ∃ address s, t.at? address = some s ∧ t.number address = n
  | t, 0, _ => ⟨[], t, at?_nil t, by rw [number]⟩
  | node label gone ts, n + 1, h => by
    rw [size] at h
    obtain ⟨i, child, rest, s, hchild, hs, hn⟩ := exists_number_eq_among ts (Nat.lt_of_succ_lt_succ h)
    refine ⟨i :: rest, s, ?_, ?_⟩
    · rw [at?_cons, children, hchild, Option.bind_some, hs]
    · rw [number_cons hchild, hn]

theorem exists_number_eq_among : ∀ (ts : List Layout) {n : Nat}, n < sizeAll ts →
    ∃ i child rest s, ts[i]? = some child ∧ child.at? rest = some s ∧
      sizeAll (ts.take i) + child.number rest = n
  | [], _, h => absurd h (Nat.not_lt_zero _)
  | t :: ts, n, h => by
    rw [sizeAll] at h
    rcases Nat.lt_or_ge n t.size with hlt | hge
    · obtain ⟨rest, s, hs, hn⟩ := exists_number_eq t hlt
      exact ⟨0, t, rest, s, rfl, hs, by simpa [sizeAll] using hn⟩
    · obtain ⟨i, child, rest, s, hchild, hs, hn⟩ :=
        exists_number_eq_among ts (show n - t.size < sizeAll ts by omega)
      refine ⟨i + 1, child, rest, s, hchild, hs, ?_⟩
      rw [List.take_succ_cons, sizeAll]
      omega

end

end Layout

end Colonnade
