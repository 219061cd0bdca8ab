import Colonnade.Proofs.Ascending
import Colonnade.Proofs.Json.Leaves
import Colonnade.Proofs.Json.Spelling

/-!
# The order of the columns of a JSON document

The columns of a frame stand in the order in which their keys come first: that of the first row that
has the key and, within a row, that of its members. But the reader has put the members of an object in
ascending order, so within a row it is not the order of the text that counts.

* `Json.rows` – a value as the rows that it is read as, objects and nulls;
* `Json.InOrder` – the columns are in the order of rows, in groups and in the frames of cells as well;
  it leaves open in which order the keys of one row count;
* `Json.inOrder_of_ofRecords` – the keys of a row count in ascending order;
* `Json.columns_in_order` – so the columns of a document stand as its keys come first when the text is
  read from left to right, if the keys of every object ascend there.
-/

namespace Colonnade

namespace Json

/-! ### Keys and rows -/

/-- The keys of an object from left to right. -/
def keys : Json → List String
  | object members => members.map Prod.fst
  | _ => []

/-- **The value of a key** in an object as it is written: the last one. Null if the key is missing, or
if there is no object. -/
def valueOf (key : String) : Json → Json
  | object members => (member? key members.reverse).getD null
  | _ => null

/-- A value by itself, under the name of the column that it is read into. -/
def alone (j : Json) : Json :=
  object [(valueColumn, j)]

/-- **The rows that a value is read as**: objects and nulls. -/
def rows : Json → List Json
  | array items => if areRecords items then items else items.map alone
  | object members => [object members]
  | j => [j.alone]

mutual

/-- **The keys of every object ascend** from left to right. -/
def KeysAscend : Json → Prop
  | array items => itemsAscend items
  | object members => (members.map Prod.fst).Pairwise (· < ·) ∧ membersAscend members
  | _ => True

/-- The keys ascend in all items. -/
def itemsAscend : List Json → Prop
  | [] => True
  | item :: items => item.KeysAscend ∧ itemsAscend items

/-- The keys ascend in the values of all members. -/
def membersAscend : List (String × Json) → Prop
  | [] => True
  | (_, value) :: members => value.KeysAscend ∧ membersAscend members

end

/-- **The columns of a frame are in the order of rows**, at every depth. A name stands where the first
row that has it is, and within a row where `order` has it; the columns of a group are in the order of
the values that the rows have at its name, and those of a row or a frame in a cell in the order of the
rows of the one value there. -/
inductive InOrder (order : Json → List String) : List Json → Frame → Prop
  | intro {rows : List Json} {f : Frame} (names_eq : f.names = (rows.flatMap order).eraseDups)
    (group : ∀ name g, f.column? name = some (.group name g) →
      InOrder order (rows.map (valueOf name)) g)
    (cell : ∀ name c i row h, f.column? name = some c → c.group? = none → rows[i]? = some row →
      row.valueOf name ≠ null → c.cell i = some (.row h) ∨ c.cell i = some (.frame h) →
        InOrder order (row.valueOf name).rows h) :
    InOrder order rows f

/-! ### A value put in order -/

section Sorted

variable {t : Json} {key : String}

@[simp] theorem isRecord_sorted (t : Json) : t.sorted.isRecord = t.isRecord := by
  cases t <;> rw [sorted] <;> rfl

@[simp] theorem isObject_sorted (t : Json) : t.sorted.isObject = t.isObject := by
  cases t <;> rw [sorted] <;> rfl

theorem map_fst_insertMember (key : String) (value : Json) (members : List (String × Json)) :
    (insertMember key value members).map Prod.fst = insertInOrder key (members.map Prod.fst) := by
  induction members with
  | nil => rfl
  | cons member members ih =>
    rw [insertMember, List.map_cons, insertInOrder]
    cases hcompare : compare key member.1 with
    | lt => rfl
    | eq =>
      rw [Std.compare_eq_iff_eq.mp hcompare]
      rfl
    | gt =>
      show member.1 :: _ = member.1 :: _
      rw [ih]

theorem member?_cons (key other : String) (value : Json) (members : List (String × Json)) :
    member? key ((other, value) :: members) =
      if other = key then some value else member? key members := by
  by_cases h : other = key
  · simp [member?, h]
  · simp [member?, h, beq_eq_false_iff_ne.mpr h]

/-- A member that is put in its place has its value, and the others keep theirs. -/
theorem member?_insertMember (key other : String) (value : Json) (members : List (String × Json)) :
    member? key (insertMember other value members) =
      if other = key then some value else member? key members := by
  induction members with
  | nil => exact member?_cons key other value []
  | cons member members ih =>
    obtain ⟨k, v⟩ := member
    rw [insertMember]
    cases hcompare : compare other k with
    | lt => exact member?_cons key other value ((k, v) :: members)
    | eq =>
      rw [← Std.compare_eq_iff_eq.mp hcompare]
      simp only [member?_cons]
      split <;> rfl
    | gt =>
      have hne : other ≠ k := fun h => by
        rw [Std.compare_eq_iff_eq.mpr h] at hcompare
        cases hcompare
      simp only [member?_cons, ih]
      by_cases hk : k = key
      · rw [if_pos hk, if_neg (hk ▸ hne), if_pos hk]
      · rw [if_neg hk, if_neg hk]

/-- **The members of an object are put in order**, each with its last value. -/
theorem ofMembers_eq (members : List (String × Json)) : ∃ ordered, ofMembers members = object ordered ∧
    ordered.map Prod.fst = inOrder (members.map Prod.fst) ∧
      ∀ key, member? key ordered = member? key members.reverse := by
  refine ⟨_, rfl, ?_⟩
  -- the member that is put in its place last decides, so the induction goes by it
  induction members using List.reverseRecOn with
  | nil => exact ⟨rfl, fun _ => rfl⟩
  | append_singleton members member ih =>
    obtain ⟨other, value⟩ := member
    obtain ⟨hkeys, hvalues⟩ := ih
    rw [List.foldl_append, List.map_append, List.reverse_append]
    refine ⟨?_, fun key => ?_⟩
    · show (insertMember other value _).map Prod.fst = _
      rw [map_fst_insertMember, hkeys]
      exact (inOrder_append_singleton _ _).symm
    · show member? key (insertMember other value _) = member? key ((other, value) :: members.reverse)
      rw [member?_insertMember, hvalues, member?_cons]

/-- Putting the values of members in order leaves the keys. -/
theorem keys_sorted (t : Json) : t.sorted.keys = inOrder t.keys := by
  cases t with
  | object members =>
    obtain ⟨ordered, hordered, hkeys, -⟩ := ofMembers_eq (sortedMembers members)
    rw [sorted, hordered, keys, hkeys, sortedMembers_eq_map, List.map_map]
    rfl
  | null | bool _ | integer _ | double _ | string _ | array _ => rw [sorted]; rfl

theorem member?_map_sorted (key : String) (members : List (String × Json)) :
    member? key (members.map fun (key, value) => (key, value.sorted)) =
      (member? key members).map sorted := by
  induction members with
  | nil => rfl
  | cons member members ih =>
    rw [List.map_cons, member?_cons, ih, member?_cons]
    split <;> rfl

/-- **The value of a key** is put in order with the object. -/
theorem field_sorted (key : String) (t : Json) : t.sorted.field key = (t.valueOf key).sorted := by
  have hnull : null.sorted = null := by rw [sorted]
  cases t with
  | object members =>
    obtain ⟨ordered, hordered, -, hvalues⟩ := ofMembers_eq (sortedMembers members)
    rw [sorted, hordered, field, hvalues, sortedMembers_eq_map, ← List.map_reverse, member?_map_sorted,
      valueOf]
    cases member? key members.reverse with
    | none => exact hnull.symm
    | some value => rfl
  | null | bool _ | integer _ | double _ | string _ | array _ => rw [sorted]; exact hnull.symm

theorem sorted_alone (t : Json) : t.alone.sorted = t.sorted.alone := by
  rw [alone, sorted, sortedMembers, sortedMembers]
  rfl

theorem areRecords_map_sorted (items : List Json) :
    areRecords (items.map sorted) = areRecords items := by
  simp [areRecords, Function.comp_def]

/-- The rows of a value are put in order with it. -/
theorem rows_sorted (t : Json) : t.sorted.rows = t.rows.map sorted := by
  cases t with
  | array items =>
    rw [sorted, sortedItems_eq_map, rows, rows, areRecords_map_sorted]
    split
    next => rfl
    next =>
      rw [List.map_map, List.map_map]
      exact List.map_congr_left fun item _ => (sorted_alone item).symm
  | object members =>
    rw [rows, List.map_singleton, sorted]
    rfl
  | null | bool _ | integer _ | double _ | string _ =>
    show _ = [(alone _).sorted]
    rw [sorted_alone, sorted]
    rfl

end Sorted

/-! ### The frame of rows -/

theorem isRecord_of_mem_rows {j row : Json} (h : row ∈ j.rows) : row.isRecord := by
  cases j with
  | array items =>
    rw [rows] at h
    split at h
    next hrecords =>
      rw [areRecords, Bool.and_eq_true] at hrecords
      exact List.all_eq_true.mp hrecords.1 row h
    next =>
      obtain ⟨item, -, rfl⟩ := List.mem_map.mp h
      rfl
  | object members => exact List.mem_singleton.mp h ▸ rfl
  | null | bool _ | integer _ | double _ | string _ => exact List.mem_singleton.mp h ▸ rfl

theorem keysOf_map_record? (items : List Json) :
    Frame.keysOf (items.map record?) = (items.flatMap keys).eraseDups := by
  rw [Frame.keysOf, List.flatMap_map]
  congr 1
  refine List.flatMap_congr fun item _ => ?_
  cases item with
  | object members =>
    rw [record?, Option.getD_some, List.map_map]
    rfl
  | null | bool _ | integer _ | double _ | string _ | array _ => rfl

/-- Cells in one column are records with one key. -/
theorem ofCells_eq_ofRecords {items : List Json} (hitems : items ≠ []) :
    Frame.ofCells (items.map cell) = Frame.ofRecords ((items.map alone).map record?) := by
  have hkeys : Frame.keysOf ((items.map alone).map record?) = [valueColumn] := by
    obtain ⟨item, items, rfl⟩ := List.exists_cons_of_ne_nil hitems
    have hkeep : ((items.map alone).flatMap keys).filter (fun key => !key == valueColumn) = [] := by
      simp [keys, alone]
    rw [keysOf_map_record?, List.map_cons, List.flatMap_cons]
    show (valueColumn :: (items.map alone).flatMap keys).eraseDups = _
    rw [List.eraseDups_cons, hkeep]
    rfl
  have hcells : ((items.map alone).map record?).map (Frame.fieldOf valueColumn) = items.map cell := by
    rw [List.map_map, List.map_map]
    refine List.map_congr_left fun item _ => ?_
    exact (fieldOf_record? valueColumn item.alone).trans (by simp [alone, field, member?])
  rw [Frame.ofCells, Frame.ofRecords, hkeys, List.mapM_cons, List.mapM_nil, hcells, List.length_map,
    List.length_map, List.length_map]
  cases Column.collect valueColumn (items.map cell) <;> rfl

/-- **A value is read as its rows are.** -/
theorem toFrame_eq_ofRecords (j : Json) : j.toFrame = Frame.ofRecords (j.rows.map record?) := by
  have halone (j : Json) : (j.toCell >>= fun cell => Frame.ofCells [cell]) =
      Frame.ofRecords ([j.alone].map record?) := by
    rw [toCell_eq]
    exact ofCells_eq_ofRecords (List.cons_ne_nil j [])
  cases j with
  | array items =>
    rw [toFrame, rows]
    split
    next => rw [toRecords_eq]; rfl
    next hrecords =>
      rw [toCells_eq]
      refine ofCells_eq_ofRecords ?_
      rintro rfl
      exact hrecords rfl
  | object members => rw [toFrame, toFields_eq]; rfl
  | null | bool _ | integer _ | double _ | string _ => exact halone _

/-- A row or a frame in the cell of a value is the frame that the value is read as. -/
theorem toFrame_of_cell {j : Json} {f : Frame} {v : Value} (hv : v = .row f ∨ v = .frame f)
    (h : j.cell = some v) : j.toFrame = .ok f := by
  have hread := readAs_of_cell h
  cases j with
  | null => exact hread.elim
  | array items =>
    obtain ⟨g, hg, rfl⟩ := hread
    rcases hv with hv | hv
    · cases hv
    · rwa [← Value.frame.inj hv]
  | object members =>
    obtain ⟨g, hg, -, rfl⟩ := hread
    rcases hv with hv | hv
    · rwa [← Value.row.inj hv]
    · cases hv
  | integer n =>
    have hinteger : IntegerAs n v := hread
    cases hinteger <;> rcases hv with hv | hv <;> cases hv
  | bool _ | double _ | string _ =>
    obtain rfl := hread
    rcases hv with hv | hv <;> cases hv

/-- What is nested is not widened. -/
theorem eq_of_widen_eq {type : ColumnType} {v w : Value} {f : Frame} (hw : w = .row f ∨ w = .frame f)
    (h : v.widen type = w) : v = w := by
  unfold Value.widen at h
  split at h
  · rcases hw with rfl | rfl <;> cases h
  · rcases hw with rfl | rfl <;> cases h
  · rcases hw with rfl | rfl <;> cases h
  · exact h

theorem eq_null_of_sorted_eq_null {t : Json} (h : t.sorted = null) : t = null := by
  cases t with
  | null => rfl
  | object members =>
    rw [sorted] at h
    cases h
  | bool _ | integer _ | double _ | string _ | array _ =>
    rw [sorted] at h
    cases h

/-- **The columns of the frame of rows are in their order**, by induction on the depth of the frame. -/
theorem inOrder_of_ofRecords {depth : Nat} {rows : List Json} {f : Frame} (hf : f.WellFormed)
    (hdepth : f.depth ≤ depth) (hall : ∀ row ∈ rows, row.isRecord)
    (h : Frame.ofRecords ((rows.map sorted).map record?) = .ok f) :
    InOrder (fun row => inOrder row.keys) rows f := by
  induction depth generalizing rows f with
  | zero =>
    obtain ⟨n, hn⟩ := f.exists_depth_eq_succ
    omega
  | succ depth ih =>
    -- what the column of a name is made of are the values at the name, put in order themselves
    have hvalues (name : String) : (rows.map sorted).map (field name) =
        (rows.map (valueOf name)).map sorted := by
      rw [List.map_map, List.map_map]
      exact List.map_congr_left fun row _ => field_sorted name row
    have hcolumn {name : String} {c : Column} (hc : f.column? name = some c) : c.WellFormed ∧
        c.depth ≤ depth ∧
          Column.collect name (((rows.map (valueOf name)).map sorted).map cell) = .ok c :=
      ⟨hf.column hc, Frame.depth_le_succ_iff.mp hdepth c (Frame.mem_of_column?_eq_some hc),
        hvalues name ▸ ((column?_of_ofRecords h).mp hc).2⟩
    refine .intro ?_ (fun name g hc => ?_) fun name c i row g hc hleaf hrow hne hcell => ?_
    · rw [(Frame.column?_of_names (fun _ _ h => Column.name_of_shape h) h).1, keysOf_map_record?,
        List.flatMap_map]
      simp only [keys_sorted]
    · obtain ⟨hwf, hle, hcollect⟩ := hcolumn hc
      obtain ⟨hall', hobject⟩ := records_of_collect_group hcollect
      obtain ⟨g', hg', hgroup⟩ := exists_collect_records name hall' hobject
      obtain ⟨-, rfl⟩ := Column.group.inj (Except.ok.inj (hcollect.symm.trans hgroup))
      rw [Column.depth] at hle
      refine ih ((Column.wellFormed_group _ _).mp hwf) hle (fun value hvalue => ?_) hg'
      rw [← isRecord_sorted]
      exact hall' _ (List.mem_map_of_mem hvalue)
    · -- the frame in a cell is read from the rows of the one value there
      obtain ⟨hwf, hle, hcollect⟩ := hcolumn hc
      obtain ⟨type, -, hcells⟩ := cells_of_collect_leaf hcollect (Column.group?_eq_none_iff.mp hleaf)
      obtain ⟨v, hv⟩ : ∃ v, (row.valueOf name).sorted.cell = some v :=
        Option.ne_none_iff_exists'.mp fun hnone =>
          hne (eq_null_of_sorted_eq_null (eq_null_of_cell_eq_none hnone))
      have hget : c.cells[i]? = some (some (v.widen type)) := by
        rw [hcells]
        simp [hrow, hv]
      obtain ⟨w, hw, hw'⟩ : ∃ w, (w = .row g ∨ w = .frame g) ∧ c.cell i = some w := by
        rcases hcell with hcell | hcell
        · exact ⟨_, .inl rfl, hcell⟩
        · exact ⟨_, .inr rfl, hcell⟩
      rw [Column.cell_eq_join_getElem?, hget] at hw'
      obtain rfl : v = w := eq_of_widen_eq hw (Option.some.inj hw')
      have hmem : some v ∈ c.cells := by
        rw [show v.widen type = v from Option.some.inj hw'] at hget
        exact List.mem_of_getElem? hget
      have hg := toFrame_of_cell hw hv
      rw [toFrame_eq_ofRecords, rows_sorted] at hg
      have hgwf : g.WellFormed := by
        have hvwf := hwf.of_mem_cells hmem
        rcases hw with rfl | rfl
        · rw [Value.WellFormed] at hvwf
          exact hvwf.1
        · rwa [Value.WellFormed] at hvwf
      have hgle : g.depth ≤ depth := by
        have hvle := (Column.depth_le_of_mem_cells hwf hmem).trans hle
        rcases hw with rfl | rfl <;> rwa [Value.depth] at hvle
      exact ih hgwf hgle (fun row hrow => isRecord_of_mem_rows hrow) hg

/-! ### Keys that ascend -/

theorem itemsAscend_iff {items : List Json} : itemsAscend items ↔ ∀ item ∈ items, item.KeysAscend := by
  induction items with
  | nil => simp [itemsAscend]
  | cons item items ih => rw [itemsAscend, ih, List.forall_mem_cons]

theorem membersAscend_iff {members : List (String × Json)} :
    membersAscend members ↔ ∀ member ∈ members, member.2.KeysAscend := by
  induction members with
  | nil => simp [membersAscend]
  | cons member members ih => rw [membersAscend, ih, List.forall_mem_cons]

variable {t : Json}

theorem KeysAscend.inOrder_keys (h : t.KeysAscend) : inOrder t.keys = t.keys := by
  cases t with
  | object members =>
    rw [KeysAscend] at h
    exact inOrder_eq_self (ascends_iff_pairwise_lt.mpr h.1)
  | null | bool _ | integer _ | double _ | string _ | array _ => rfl

theorem keysAscend_null : null.KeysAscend := by
  rw [KeysAscend]
  · trivial
  · exact nofun
  · exact nofun

/-- Where the keys ascend, they ascend in the value of a key, -/
theorem KeysAscend.valueOf (h : t.KeysAscend) (key : String) : (t.valueOf key).KeysAscend := by
  cases t with
  | object members =>
    rw [KeysAscend, membersAscend_iff] at h
    rw [Json.valueOf, member?]
    cases hfind : members.reverse.find? fun member => member.1 == key with
    | none => exact keysAscend_null
    | some member => exact h.2 member (List.mem_reverse.mp (List.mem_of_find?_eq_some hfind))
  | null | bool _ | integer _ | double _ | string _ | array _ => exact keysAscend_null

/-- and in the rows that are read from it. -/
theorem KeysAscend.rows (h : t.KeysAscend) : ∀ row ∈ t.rows, row.KeysAscend := by
  have halone {t : Json} (h : t.KeysAscend) : t.alone.KeysAscend := by
    rw [alone, KeysAscend, membersAscend, membersAscend]
    exact ⟨List.pairwise_singleton _ _, h, trivial⟩
  cases t with
  | array items =>
    rw [KeysAscend, itemsAscend_iff] at h
    rw [Json.rows]
    split
    next => exact h
    next => exact List.forall_mem_map.mpr fun item hitem => halone (h item hitem)
  | object members => exact List.forall_mem_singleton.mpr h
  | null | bool _ | integer _ | double _ | string _ =>
    exact List.forall_mem_singleton.mpr (halone h)

/-- **Ascending keys are in the order of the text**, by induction on the order of the columns. -/
theorem InOrder.of_ascend {rows : List Json} {f : Frame}
    (h : InOrder (fun row => inOrder row.keys) rows f) (hrows : ∀ row ∈ rows, row.KeysAscend) :
    InOrder keys rows f := by
  induction h with
  | @intro rows f hnames group cell hgroup hcell =>
    refine .intro ?_ (fun name g hc => ?_) fun name c i row g hc hleaf hrow hne hg => ?_
    · rw [hnames]
      congr 1
      exact List.flatMap_congr fun row hrow => (hrows row hrow).inOrder_keys
    · exact hgroup name g hc (List.forall_mem_map.mpr fun row hrow => (hrows row hrow).valueOf name)
    · exact hcell name c i row g hc hleaf hrow hne hg
        ((hrows row (List.mem_of_getElem? hrow)).valueOf name).rows

/-! ### Documents -/

/-- **The columns of a document in order.** A document that is read is written in one way, and it makes
a frame in which, at every depth, a column stands where its key comes first, the keys of one object
counting in ascending order. So if the keys of every object ascend in the text, the columns stand as
the keys come first when the text is read from left to right. -/
theorem columns_in_order (s : String) (j : Json) (h : ofText? s = .ok j) :
    ∃ t f, (∀ u, Spells s u ↔ u = t) ∧ Frame.ofJsonText s = .ok f ∧
      InOrder (fun row => inOrder row.keys) t.rows f ∧ (t.KeysAscend → InOrder keys t.rows f) := by
  obtain ⟨t, ht, rfl⟩ := exists_spells h
  obtain ⟨f, hf, hsound, -⟩ := t.sorted.exists_toFrame
  have hread : Frame.ofJsonText s = .ok f := by
    rw [Frame.ofJsonText, h]
    exact hf
  rw [toFrame_eq_ofRecords, rows_sorted] at hf
  have horder := inOrder_of_ofRecords (hsound.wellFormed trivial) (Nat.le_refl _)
    (fun row hrow => isRecord_of_mem_rows hrow) hf
  exact ⟨t, f, fun u => ⟨fun hu => hu.unique ht, fun hu => hu ▸ ht⟩, hread, horder,
    fun hascend => horder.of_ascend hascend.rows⟩

set_option maxRecDepth 4000 in
/-- An object whose keys do not ascend: the columns are not in the order of the text. -/
theorem columns_in_order_swapped :
    let s := "[\x7b\"b\":true,\"a\":null\x7d]"
    ofText? s = .ok (array [object [("a", null), ("b", bool true)]]) ∧
      ∃ t f, (∀ u, Spells s u ↔ u = t) ∧ Frame.ofJsonText s = .ok f ∧
        InOrder (fun row => inOrder row.keys) t.rows f ∧ (t.KeysAscend → InOrder keys t.rows f) ∧
          t = array [object [("b", bool true), ("a", null)]] ∧ f.names = ["a", "b"] := by
  intro s
  have hread : ofText? s = .ok (array [object [("a", null), ("b", bool true)]]) := by
    have hlength : "[\x7b\"b\":true,\"a\":null\x7d]".length = 21 := rfl
    have hcompare : compare "a" "b" = .lt := by decide
    simp [s, ofText?, hlength, readValue, readItems, readMembers, readMember, skip, isSpace, readString,
      readWord, ofMembers, insertMember, maxDepth, Except.map, bind, Except.bind, pure, Except.pure,
      hcompare]
  obtain ⟨t, f, hspells, hf, horder, htext⟩ := columns_in_order s _ hread
  have hb : readValue 1 0 "true,\"a\":null\x7d]".toList =
      .ok (bool true, ",\"a\":null\x7d]".toList) := by
    simp [readValue, skip, isSpace, readWord, Except.map]
  have ha : readValue 1 0 "null\x7d]".toList = .ok (null, "\x7d]".toList) := by
    simp [readValue, skip, isSpace, readWord, Except.map]
  have hmembers : ReadsMembers true "\"b\":true,\"a\":null\x7d]".toList
      [("b", bool true), ("a", null)] "]".toList :=
    .member (.first _) rfl rfl rfl (.scalar hb)
      (.member (.next rfl) rfl rfl rfl (.scalar ha) (.done rfl))
  have hobject : Reads "\x7b\"b\":true,\"a\":null\x7d]".toList
      (object [("b", bool true), ("a", null)]) "]".toList := .object rfl hmembers
  have hitems : ReadsItems true "\x7b\"b\":true,\"a\":null\x7d]".toList
      [object [("b", bool true), ("a", null)]] [] := .item (.first _) hobject (.done rfl)
  have harray : Reads "[\x7b\"b\":true,\"a\":null\x7d]".toList
      (array [object [("b", bool true), ("a", null)]]) [] := .array rfl hitems
  have ht : array [object [("b", bool true), ("a", null)]] = t := (hspells _).mp ⟨[], harray, rfl⟩
  subst ht
  refine ⟨hread, _, f, hspells, hf, horder, htext, rfl, ?_⟩
  cases horder with
  | intro hnames _ _ => exact hnames.trans (by decide)

end Json

end Colonnade
