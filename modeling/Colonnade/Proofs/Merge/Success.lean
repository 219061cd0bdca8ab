import Colonnade.Proofs.Merge.Mergeable

/-!
# The requests that a merge accepts

For requests that all have the same number of rows, rows are no matter: they are merged if and
only if they are *compatible* with the frame and with each other, and if they are not, the error
says so (`Frame.merge_ok_iff_compatible`). In particular a level never finds two columns of one
name and never one of another length.

`Compatible` is stated with `Frame.get` and paths, as the documentation of the errors is;
`compatible_iff_mergeable` is the way from there to the requests of a level.
-/

namespace Colonnade

/-! ### Compatible requests -/

/-- **There is room for a column** at a path: there is none, and none on the way is anything but a
group. -/
def Frame.Admits (f : Frame) (path : Path) : Prop :=
  (∀ c, f.get path ≠ .ok c) ∧
    ∀ q : Path, path.startsWith q → q ≠ path → ∀ c, f.get q = .ok c → ∃ g, c.group? = some g

/-- **Compatible requests**: there is room for each of them in the frame, they are for different
paths, and the column of a request that others lead into is a group with room for them. -/
structure Compatible (frame : Option Frame) (requests : List Request) : Prop where
  admits : ∀ r ∈ requests, (frame.getD .empty).Admits r.path
  distinct : (requests.map Request.path).Nodup
  absorbs : ∀ q ∈ requests, ∀ r ∈ requests, ∀ rest : Path,
    r.path.segments = q.path.segments ++ rest.segments →
      ∃ g, q.column.group? = some g ∧ g.Admits rest

/-- An error about requests that are in the way of each other or of columns. -/
def FrameError.IsConflict (e : FrameError) : Prop :=
  ∃ path, e = .pathAlreadyExists path ∨ e = .notAColumnGroup path ∨ e = .multipleColumnsAtPath path

theorem Path.startsWith_iff {p q : Path} :
    p.startsWith q ↔ ∃ rest, p.segments = q.segments ++ rest := by
  rw [Path.startsWith, List.isPrefixOf_iff_prefix]
  exact ⟨fun ⟨rest, h⟩ => ⟨rest, h.symm⟩, fun ⟨rest, h⟩ => ⟨rest, h.symm⟩⟩

/-- Room in a frame is room in the group around it. -/
theorem Frame.admits_iff {f : Frame} {path : Path} (label : String) :
    f.Admits path ↔ (Column.group label f).Admits path.segments := by
  have hget {names : List String} (hne : names ≠ []) (c : Column) :
      f.get ⟨names, hne⟩ = .ok c ↔ (Column.group label f).descend? names = some c := by
    obtain ⟨name, rest, rfl⟩ := List.exists_cons_of_ne_nil hne
    exact get_eq_ok_iff
  rw [Column.admits_iff]
  constructor
  · rintro ⟨hend, hway⟩ above below heq d hd
    -- the empty way leads to the group around the frame, any other has a path
    by_cases habove : above = []
    · subst habove
      obtain rfl := Option.some.inj ((Column.descend?_nil _).symm.trans hd)
      exact ⟨fun hnil => path.nonempty (by simpa [hnil] using heq), f, rfl⟩
    · have hd' := (hget habove d).mpr hd
      by_cases hbelow : below = []
      · have hpath : path = ⟨above, habove⟩ := Path.ext (by simpa [hbelow] using heq)
        exact absurd hd' (hpath ▸ hend d)
      · refine ⟨hbelow, hway ⟨above, habove⟩ (Path.startsWith_iff.mpr ⟨below, heq⟩) ?_ d hd'⟩
        rintro rfl
        exact hbelow (by simpa using heq)
  · intro h
    refine ⟨fun c hc => ?_, fun q hq hne c hc => ?_⟩
    · exact (h path.segments [] (List.append_nil _).symm c ((hget path.nonempty c).mp hc)).1 rfl
    · obtain ⟨rest, hrest⟩ := Path.startsWith_iff.mp hq
      exact (h q.segments rest hrest c ((hget q.nonempty c).mp hc)).2

@[simp] theorem Pending.names_ofRequest (layout : Option Layout) (r : Request) :
    (Pending.ofRequest layout r).names = r.path.segments :=
  List.cons_head_tail r.path.nonempty

@[simp] theorem Pending.column_ofRequest (layout : Option Layout) (r : Request) :
    (Pending.ofRequest layout r).column = r.column := rfl

/-- **Requests with `n` rows are compatible if and only if they can be merged.** -/
theorem compatible_iff_mergeable {frame : Option Frame} {requests : List Request}
    (layout : Option Layout) {n : Nat} (hrows : ∀ r ∈ requests, r.column.length = n)
    (hframe : (frame.getD .empty).columns ≠ [] → (frame.getD .empty).rowCount = n) :
    Compatible frame requests ↔
      Mergeable (.group "" (frame.getD .empty)) (requests.map (Pending.ofRequest layout)) n := by
  constructor
  · intro h
    refine ⟨?_, ?_, ?_, hframe, ?_⟩
    · refine List.forall_mem_map.mpr fun r hr => ?_
      rw [Pending.names_ofRequest]
      exact (Frame.admits_iff "").mp (h.admits r hr)
    · refine List.pairwise_map.mpr ((List.pairwise_map.mp h.distinct).imp fun {q r} hne heq => ?_)
      rw [Pending.names_ofRequest, Pending.names_ofRequest] at heq
      exact hne (Path.ext heq)
    · refine List.forall_mem_map.mpr fun q hq => List.forall_mem_map.mpr fun r hr rest hrest heq => ?_
      rw [Pending.names_ofRequest, Pending.names_ofRequest] at heq
      obtain ⟨g, hg, hadmits⟩ := h.absorbs q hq r hr ⟨rest, hrest⟩ heq
      rw [Pending.column_ofRequest, Column.group?_eq_some_iff.mp hg]
      exact (Frame.admits_iff _).mp hadmits
    · refine List.forall_mem_map.mpr fun r hr => ?_
      exact ⟨Column.fits_of_length (hrows r hr), fun _ => hrows r hr⟩
  · intro h
    have hmem {r : Request} (hr : r ∈ requests) :
        Pending.ofRequest layout r ∈ requests.map (Pending.ofRequest layout) :=
      List.mem_map_of_mem hr
    refine ⟨fun r hr => ?_, ?_, fun q hq r hr rest heq => ?_⟩
    · have hadmits := h.admits _ (hmem hr)
      rw [Pending.names_ofRequest] at hadmits
      exact (Frame.admits_iff "").mpr hadmits
    · refine List.pairwise_map.mpr ((List.pairwise_map.mp h.distinct).imp fun {q r} hne heq => ?_)
      rw [Pending.names_ofRequest, Pending.names_ofRequest, heq] at hne
      exact hne rfl
    · have hadmits := h.absorbs _ (hmem hq) _ (hmem hr) rest.segments rest.nonempty
        (by rw [Pending.names_ofRequest, Pending.names_ofRequest, heq])
      rw [Pending.column_ofRequest] at hadmits
      obtain ⟨g, hg⟩ := hadmits.group
      rw [Column.group?_eq_some_iff.mp hg] at hadmits
      exact ⟨g, hg, (Frame.admits_iff _).mpr hadmits⟩

/-! ### What the errors are -/

section Conflict

variable {below : MergeBelow} {above : List String} {layout : Option Layout}
variable {part : Part} {n : Nat}

/-- A computation that gives what it should or fails for a conflict. -/
def OkOrConflict {α : Type} (good : α → Prop) (x : Except FrameError α) : Prop :=
  (∃ a, x = .ok a ∧ good a) ∨ ∃ e, x = .error e ∧ e.IsConflict

/-- A seat has `n` rows or is denied for a conflict. -/
theorem Part.seat_okOrConflict {existing : Option Column}
    (hexisting : ∀ c ∈ existing, c.WellFormed ∧ c.length = n)
    (hmembers : ∀ p ∈ part.members, p.column.WellFormed ∧ p.column.length = n) :
    OkOrConflict (fun b => ∀ c ∈ b, c.WellFormed ∧ c.length = n) (part.seat above existing) := by
  rcases existing with _ | c
  · rcases ht : part.terminal with _ | ⟨t, _ | ⟨t', ts⟩⟩
    · exact Or.inl ⟨none, by simp [Part.seat, ht], by simp⟩
    · have htm : t ∈ part.terminal := ht ▸ List.mem_singleton_self t
      have hrows := hmembers t (Part.mem_terminal.mp htm).1
      exact Or.inl ⟨some (t.column.rename part.name), by simp [Part.seat, ht], by simpa using hrows⟩
    · exact Or.inr ⟨.multipleColumnsAtPath (Path.below above part.name), by simp [Part.seat, ht], _,
        Or.inr (Or.inr rfl)⟩
  · by_cases ht : part.terminal = []
    · exact Or.inl ⟨some c, by simp [Part.seat, ht], hexisting⟩
    · exact Or.inr ⟨.pathAlreadyExists (Path.below above part.name), by simp [Part.seat, ht], _,
        Or.inl rfl⟩

/-- So does a seat with the requests that lead into it, if the level below does. -/
theorem Part.fill_okOrConflict {b : Option Column}
    (hb : ∀ c ∈ b, c.WellFormed ∧ c.length = n)
    (hbelow : ∀ (above : List String) (layout : Option Layout) (frame : Option Frame)
      (i : Option Nat), (frame.getD .empty).WellFormed →
        ((frame.getD .empty).columns ≠ [] → (frame.getD .empty).rowCount = n) →
        part.deeper i ≠ [] →
        OkOrConflict (fun r => r.rowCount = n) (below above layout frame (part.deeper i))) :
    OkOrConflict (fun d => ∀ c ∈ d, c.length = n) (part.fill below above layout b) := by
  by_cases hd : part.deeper none = []
  · exact Or.inl ⟨b, Part.fill_of_deeper_eq_nil hd b, fun c hc => (hb c hc).2⟩
  · have hi : part.deeper (part.child layout).1 ≠ [] := fun h =>
      hd (Part.deeper_eq_nil_iff.mpr (Part.deeper_eq_nil_iff.mp h))
    rcases Part.seat_group_or_leaf b with hgroups | ⟨c, rfl, hc⟩
    · have hrows : ((b.bind Column.group?).getD .empty).columns ≠ [] →
          ((b.bind Column.group?).getD .empty).rowCount = n := by
        rcases b with _ | c
        · exact fun h => absurd rfl h
        · obtain ⟨f, hf⟩ := hgroups c rfl
          have hlength := (hb c rfl).2
          rw [Column.group?_eq_some_iff.mp hf] at hlength
          rw [Option.bind_some, hf]
          exact fun _ => hlength
      rw [Part.fill_of_group hd hgroups, Part.mergeDeeper]
      rcases hbelow (above ++ [part.name]) (part.child layout).2 _ _
          (wellFormed_seatFrame fun c hc => (hb c hc).1) hrows hi with
        ⟨r, hr, hn⟩ | ⟨e, he, hconflict⟩
      · refine Or.inl ⟨some (.group part.name r), ?_, by rintro c ⟨⟩; exact hn⟩
        simp [hr, Except.map]
      · refine Or.inr ⟨e, ?_, hconflict⟩
        simp [he, Except.map]
    · exact Or.inr ⟨.notAColumnGroup (Path.below above part.name), Part.fill_of_leaf hd hc, _,
        Or.inr (Or.inl rfl)⟩

/-- **Requests with `n` rows fail only for a conflict.** Names in a level differ and all lengths
are `n`, so that its last check finds nothing. -/
theorem Frame.mergeBelow_okOrConflict {depth : Nat} {frame : Option Frame} {pending : List Pending}
    (hf : (frame.getD empty).WellFormed) (hp : pending ≠ [])
    (hframe : (frame.getD empty).columns ≠ [] → (frame.getD empty).rowCount = n)
    (hrows : ∀ p ∈ pending, p.column.WellFormed ∧ p.column.length = n)
    (hdepth : ∀ p ∈ pending, p.rest.length < depth) :
    OkOrConflict (fun r => r.rowCount = n) (mergeBelow depth above layout frame pending) := by
  induction depth generalizing above layout frame pending with
  | zero =>
    obtain ⟨p, hmem⟩ := List.exists_mem_of_ne_nil _ hp
    exact absurd (hdepth p hmem) (Nat.not_lt_zero _)
  | succ depth ih =>
    have hjoin (name : String) : OkOrConflict (fun d => ∀ c ∈ d, c.length = n)
        (join (mergeBelow depth) above layout frame pending name) := by
      have hseat : OkOrConflict (fun b => ∀ c ∈ b, c.WellFormed ∧ c.length = n)
          ((Part.named pending name).seat above ((frame.getD empty).column? name)) :=
        Part.seat_okOrConflict
          (fun c hc => ⟨hf.column hc, (hf.length_column hc).trans
            (hframe (List.ne_nil_of_mem (mem_of_column?_eq_some hc)))⟩)
          fun p hp => hrows p (Part.mem_named.mp hp).1
      rcases hseat with ⟨b, hseat, hb⟩ | ⟨e, he, hconflict⟩
      · rw [join, hseat]
        refine Part.fill_okOrConflict hb fun above layout frame i hf' hframe' hd => ?_
        refine ih hf' hd hframe' (fun q hq => ?_) fun q hq => length_rest_of_mem_deeper hdepth hq
        obtain ⟨p, hp, -, hcolumn⟩ := Part.exists_of_mem_deeper hq
        exact hcolumn ▸ hrows p (Part.mem_named.mp hp).1
      · exact Or.inr ⟨e, by rw [join, he]; rfl, hconflict⟩
    rw [mergeBelow_succ depth above layout frame hp]
    -- all that becomes of names has `n` rows, so the level fails at a name or not at all
    have hlength : ∀ name c, join (mergeBelow depth) above layout frame pending name = .ok (some c) →
        c.length = n := by
      intro name c hc
      rcases hjoin name with ⟨d, hd, hlength⟩ | ⟨e, he, -⟩
      · obtain rfl := Except.ok.inj (hd.symm.trans hc)
        exact hlength c rfl
      · exact absurd (he.symm.trans hc) (by simp)
    rcases mergeLevel_of_length hf.nodup_names hp hframe hlength with h | ⟨name, e, he, hlevel⟩
    · exact Or.inl h
    · rcases hjoin name with ⟨d, hd, -⟩ | ⟨e', he', hconflict⟩
      · exact absurd (he.symm.trans hd) (by simp)
      · obtain rfl := Except.error.inj (he.symm.trans he')
        exact Or.inr ⟨e, hlevel, hconflict⟩

end Conflict

/-! ### The merge -/

namespace Frame

variable {frame : Option Frame} {requests : List Request} {layout : Option Layout}

/-- No request has more segments than the deepest. -/
theorem length_le_deepest {r : Request} (hr : r ∈ requests) :
    r.path.segments.length ≤ deepest requests := by
  induction requests with
  | nil => exact absurd hr List.not_mem_nil
  | cons q requests ih =>
    rw [deepest, List.foldr_cons]
    rcases List.mem_cons.mp hr with rfl | hr
    · exact Nat.le_max_left _ _
    · exact Nat.le_trans (ih hr) (Nat.le_max_right _ _)

/-- A request has fewer segments left than the deepest has segments. -/
theorem length_rest_lt_deepest {p : Pending} (hp : p ∈ requests.map (Pending.ofRequest layout)) :
    p.rest.length < deepest requests := by
  obtain ⟨r, hr, rfl⟩ := List.mem_map.mp hp
  have hle := length_le_deepest hr
  have hnames := congrArg List.length (Pending.names_ofRequest layout r)
  rw [Pending.names, List.length_cons] at hnames
  omega

theorem merge_nil (frame : Option Frame) (layout : Option Layout) :
    merge frame [] layout = .ok (frame.getD empty) :=
  mergeBelow_nil _ _ _ _

/-- **When requests are merged into a frame with `n` rows.** -/
theorem exists_merge_iff (hf : (frame.getD empty).WellFormed) (hr : requests ≠ [])
    (hwf : ∀ r ∈ requests, r.column.WellFormed) {n : Nat} :
    (∃ r, merge frame requests layout = .ok r ∧ r.rowCount = n) ↔
      Mergeable (.group "" (frame.getD empty)) (requests.map (Pending.ofRequest layout)) n :=
  exists_mergeBelow_iff hf (by simpa using hr) (List.forall_mem_map.mpr hwf)
    fun _ hp => length_rest_lt_deepest hp

/-- **The exact success condition of a merge**: requests whose columns all have the number of rows
of the frame are merged if and only if they are compatible, and otherwise the error is that a
column is there already, that it is no group, or that there are two for one path. -/
theorem merge_ok_iff_compatible {n : Nat} (hf : ∀ f ∈ frame, f.WellFormed)
    (hframe : ∀ f ∈ frame, f.columns ≠ [] → f.rowCount = n)
    (hrequests : ∀ r ∈ requests, r.column.WellFormed ∧ r.column.length = n) :
    ((∃ r, merge frame requests layout = .ok r) ↔ Compatible frame requests) ∧
      ∀ e, merge frame requests layout = .error e →
        ∃ path, e = .pathAlreadyExists path ∨ e = .notAColumnGroup path ∨
          e = .multipleColumnsAtPath path := by
  have hf' : (frame.getD empty).WellFormed := by
    cases frame with
    | none => exact wellFormed_empty
    | some f => exact hf f rfl
  have hframe' : (frame.getD empty).columns ≠ [] → (frame.getD empty).rowCount = n := by
    cases frame with
    | none => exact fun h => absurd rfl h
    | some f => exact hframe f rfl
  by_cases hr : requests = []
  · subst hr
    rw [merge_nil]
    exact ⟨iff_of_true ⟨_, rfl⟩ ⟨by simp, List.nodup_nil, by simp⟩, fun e he => by simp at he⟩
  · have hgood : OkOrConflict (fun r => r.rowCount = n) (merge frame requests layout) :=
      mergeBelow_okOrConflict hf' (by simpa using hr) hframe' (List.forall_mem_map.mpr hrequests)
        fun _ hp => length_rest_lt_deepest hp
    constructor
    · rw [compatible_iff_mergeable layout (fun r hr => (hrequests r hr).2) hframe',
        ← exists_merge_iff hf' hr fun r hr => (hrequests r hr).1]
      refine ⟨fun ⟨r, h⟩ => ?_, fun ⟨r, h, _⟩ => ⟨r, h⟩⟩
      rcases hgood with hok | ⟨e, he, -⟩
      · exact hok
      · exact absurd (he.symm.trans h) (by simp)
    · intro e he
      rcases hgood with ⟨r, h, -⟩ | ⟨e', he', hconflict⟩
      · exact absurd (he.symm.trans h) (by simp)
      · obtain rfl := Except.error.inj (he.symm.trans he')
        exact hconflict

/-- A group takes a column in, a new group takes in one that comes before it. -/
theorem merge_ok_iff_compatible_nested :
    let f : Frame := ⟨[.ofTexts "a" [some "1"], .group "g" ⟨[.ofTexts "x" [some "2"]], 1⟩], 1⟩
    let requests : List Request :=
      [{ path := .below ["g"] "y", column := .ofTexts "t" [none], node := some 3 },
        { path := .below ["h"] "z", column := .ofTexts "t" [some "3"] },
        { path := .single "h", column := .group "t" ⟨[.ofTexts "w" [some "4"]], 1⟩ }]
    (f.WellFormed ∧ f.rowCount = 1 ∧
        ∀ r ∈ requests, r.column.WellFormed ∧ r.column.length = 1) ∧
      ((∃ r, merge (some f) requests (some f.layout) = .ok r) ↔ Compatible (some f) requests) ∧
      ∀ e, merge (some f) requests (some f.layout) = .error e →
        ∃ path, e = .pathAlreadyExists path ∨ e = .notAColumnGroup path ∨
          e = .multipleColumnsAtPath path := by
  intro f requests
  have hf : f.WellFormed := by
    simp [f, Frame.WellFormed, columnsWellFormed, Column.WellFormed, Column.ofTexts,
      Column.ofValues, cellsWellFormed, Value.ofText, Value.WellFormed, Column.name, Column.length]
  have hrequests : ∀ r ∈ requests, r.column.WellFormed ∧ r.column.length = 1 := by
    simp [requests, Frame.WellFormed, columnsWellFormed, Column.WellFormed, Column.ofTexts,
      Column.ofValues, cellsWellFormed, Value.ofText, Value.WellFormed, Column.length]
  refine ⟨⟨hf, rfl, hrequests⟩, merge_ok_iff_compatible (n := 1) ?_ ?_ hrequests⟩
  · rintro g ⟨⟩
    exact hf
  · rintro g ⟨⟩ -
    rfl

end Frame

end Colonnade
