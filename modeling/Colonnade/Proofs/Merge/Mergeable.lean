import Colonnade.Proofs.Merge.Level

/-!
# When a merge succeeds

Requests get in each other's way, and in the way of columns that are there, in many ways, and the
checks for it are spread over a merge: a column at a path, a column on the way to it that is no
group, a second request for it, a request above it whose column is no group or has something
there. Rows are counted in one more place, when a level is put together.

`Mergeable` says all of it at once, about a column – the group around the frame – and requests
that lead into it. It says nothing about layouts, nodes or the order of requests.

* `mergeable_group_iff` – it holds of a frame if and only if it holds at every name;
* `mergeableAt_iff` – at a name, it holds of the seat;
* `Frame.exists_mergeBelow_iff` – **it is what a merge needs**, by induction on the depth.
-/

namespace Colonnade

/-! ### Room for a path -/

/-- **There is room for a column** at these names from a column on: every name is that of a group,
up to one that is not there. -/
def Column.Admits : Column → List String → Prop
  | _, [] => False
  | .group _ f, name :: rest => ∀ c, f.column? name = some c → c.Admits rest
  | _, _ :: _ => False

/-- A column takes in columns with `n` rows: it has `n` rows itself, or none that matter. -/
def Column.Fits (n : Nat) : Column → Prop
  | .group _ f => f.columns ≠ [] → f.rowCount = n
  | c => c.length = n

namespace Column

@[simp] theorem not_admits_nil (c : Column) : ¬c.Admits [] := by
  cases c <;> simp [Admits]

@[simp] theorem admits_group_cons {label name : String} {f : Frame} {rest : List String} :
    (Column.group label f).Admits (name :: rest) ↔ ∀ c, f.column? name = some c → c.Admits rest :=
  Iff.rfl

@[simp] theorem admits_rename {c : Column} {new : String} {names : List String} :
    (c.rename new).Admits names ↔ c.Admits names := by
  cases names with
  | nil => simp
  | cons name rest => cases c <;> rfl

/-- A column that is no group has room for nothing. -/
theorem Admits.group {c : Column} {names : List String} (h : c.Admits names) :
    ∃ f, c.group? = some f := by
  cases names with
  | nil => exact absurd h (not_admits_nil c)
  | cons name rest =>
    cases c with
    | group label f => exact ⟨f, rfl⟩
    | value _ _ _ _ => exact h.elim
    | frames _ _ => exact h.elim

/-- **Room for a path, by what is on it**: nothing is at its end, and what is before its end is a
group. -/
theorem admits_iff {c : Column} {names : List String} :
    c.Admits names ↔
      ∀ above below, names = above ++ below → ∀ d, c.descend? above = some d →
        below ≠ [] ∧ ∃ f, d.group? = some f := by
  induction names generalizing c with
  | nil =>
    refine iff_of_false (not_admits_nil c) fun h => ?_
    exact (h [] [] rfl c (descend?_nil c)).1 rfl
  | cons name rest ih =>
    constructor
    · intro h above below heq d hd
      cases above with
      | nil =>
        obtain rfl : c = d := Option.some.inj ((descend?_nil c).symm.trans hd)
        rw [List.nil_append] at heq
        exact ⟨heq ▸ List.cons_ne_nil name rest, h.group⟩
      | cons name' above =>
        -- the rest of the way is below the column of the first name
        obtain ⟨rfl, htail⟩ := List.cons.inj heq
        obtain ⟨f, hf⟩ := h.group
        rw [group?_eq_some_iff.mp hf] at h hd
        obtain ⟨e, he, hdown⟩ := Option.bind_eq_some_iff.mp hd
        exact ih.mp (h e he) above below htail d hdown
    · intro h
      obtain ⟨-, f, hf⟩ := h [] (name :: rest) rfl c (descend?_nil c)
      rw [group?_eq_some_iff.mp hf] at h ⊢
      intro e he
      refine ih.mpr fun above below heq d hd => h (name :: above) below (by rw [heq]; rfl) d ?_
      rw [descend?_group_cons, he]
      exact hd

@[simp] theorem fits_rename {c : Column} {new : String} {n : Nat} :
    (c.rename new).Fits n ↔ c.Fits n := by
  cases c <;> rfl

theorem fits_of_length {c : Column} {n : Nat} (h : c.length = n) : c.Fits n := by
  cases c with
  | group label f => exact fun _ => h
  | value _ _ _ _ => exact h
  | frames _ _ => exact h

end Column

/-! ### Room for requests -/

/-- The names that a request leads along from a level on. -/
def Pending.names (p : Pending) : List String :=
  p.name :: p.rest

/-- **Requests with `n` rows can be merged into a column.** -/
structure Mergeable (c : Column) (pending : List Pending) (n : Nat) : Prop where
  /-- There is room for each of them. -/
  admits : ∀ p ∈ pending, c.Admits p.names
  /-- They lead to different places. -/
  distinct : pending.Pairwise fun p q => p.names ≠ q.names
  /-- Where one leads into the column of another, there is room for it. -/
  absorbs : ∀ p ∈ pending, ∀ q ∈ pending, ∀ rest, rest ≠ [] → q.names = p.names ++ rest →
    p.column.Admits rest
  /-- The column takes in `n` rows. -/
  fits : c.Fits n
  /-- So does the column of each request; if no other request leads into it, it has `n` rows. -/
  rows : ∀ p ∈ pending, p.column.Fits n ∧
    ((∀ q ∈ pending, ∀ rest, rest ≠ [] → q.names ≠ p.names ++ rest) → p.column.length = n)

/-- The same of the requests for one name, of which there may be a column. -/
structure MergeableAt (existing : Option Column) (members : List Pending) (n : Nat) : Prop where
  admits : ∀ c ∈ existing, ∀ p ∈ members, c.Admits p.rest
  distinct : members.Pairwise fun p q => p.rest ≠ q.rest
  absorbs : ∀ p ∈ members, ∀ q ∈ members, ∀ rest, rest ≠ [] → q.rest = p.rest ++ rest →
    p.column.Admits rest
  rows : ∀ p ∈ members, p.column.Fits n ∧
    ((∀ q ∈ members, ∀ rest, rest ≠ [] → q.rest ≠ p.rest ++ rest) → p.column.length = n)

theorem Pending.names_eq_append_iff {p q : Pending} {rest : List String} :
    q.names = p.names ++ rest ↔ q.name = p.name ∧ q.rest = p.rest ++ rest := by
  simp [Pending.names]

/-- **Requests can be merged into a frame if and only if they can be at every name.** -/
theorem mergeable_group_iff {label : String} {f : Frame} {pending : List Pending} {n : Nat} :
    Mergeable (.group label f) pending n ↔ (Column.group label f).Fits n ∧
      ∀ name, MergeableAt (f.column? name) (Part.named pending name).members n := by
  constructor
  · intro h
    refine ⟨h.fits, fun name => ⟨?_, ?_, ?_, ?_⟩⟩
    · intro c hc p hp
      obtain ⟨hmem, rfl⟩ := Part.mem_named.mp hp
      exact h.admits p hmem c hc
    · refine (h.distinct.filter _).imp_of_mem fun {p q} hp hq hne heq => hne ?_
      rw [Pending.names, Pending.names, heq, (Part.mem_named.mp hp).2, (Part.mem_named.mp hq).2]
    · intro p hp q hq rest hrest heq
      obtain ⟨hp, hpn⟩ := Part.mem_named.mp hp
      obtain ⟨hq, hqn⟩ := Part.mem_named.mp hq
      exact h.absorbs p hp q hq rest hrest
        (Pending.names_eq_append_iff.mpr ⟨hqn.trans hpn.symm, heq⟩)
    · intro p hp
      obtain ⟨hmem, hpn⟩ := Part.mem_named.mp hp
      refine ⟨(h.rows p hmem).1, fun hno => (h.rows p hmem).2 fun q hq rest hrest heq => ?_⟩
      obtain ⟨hname, heq⟩ := Pending.names_eq_append_iff.mp heq
      exact hno q (Part.mem_named.mpr ⟨hq, hname.trans hpn⟩) rest hrest heq
  · rintro ⟨hfits, h⟩
    have hmem {p : Pending} (hp : p ∈ pending) : p ∈ (Part.named pending p.name).members :=
      Part.mem_named.mpr ⟨hp, rfl⟩
    refine ⟨?_, ?_, ?_, hfits, ?_⟩
    · exact fun p hp c hc => (h p.name).admits c hc p (hmem hp)
    · refine List.pairwise_iff_forall_sublist.mpr fun {p q} hpq heq => ?_
      obtain ⟨hname, hrest⟩ := List.cons.inj heq
      have hsub : [p, q].Sublist (Part.named pending p.name).members := by
        have h := hpq.filter fun r => r.name == p.name
        simpa [Part.named, hname] using h
      exact List.pairwise_iff_forall_sublist.mp (h p.name).distinct hsub hrest
    · intro p hp q hq rest hrest heq
      obtain ⟨hname, heq⟩ := Pending.names_eq_append_iff.mp heq
      exact (h p.name).absorbs p (hmem hp) q (Part.mem_named.mpr ⟨hq, hname⟩) rest hrest heq
    · intro p hp
      refine ⟨((h p.name).rows p (hmem hp)).1, fun hno =>
        ((h p.name).rows p (hmem hp)).2 fun q hq rest hrest heq => ?_⟩
      obtain ⟨hq, hname⟩ := Part.mem_named.mp hq
      exact hno q hq rest hrest (Pending.names_eq_append_iff.mpr ⟨hname, heq⟩)

/-! ### The seat of a name -/

/-- A request that goes on is the same request, less the name it has gone along. -/
theorem Pending.deeper?_eq_some {i : Option Nat} {p q : Pending} (h : p.deeper? i = some q) :
    q.names = p.rest ∧ q.column = p.column := by
  rw [Pending.deeper?] at h
  split at h
  · exact absurd h (by simp)
  next name rest hrest =>
    obtain rfl := Option.some.inj h
    exact ⟨hrest.symm, rfl⟩

theorem Pending.exists_deeper? {p : Pending} (h : p.rest ≠ []) (i : Option Nat) :
    ∃ q, p.deeper? i = some q := by
  obtain ⟨name, rest, hrest⟩ := List.exists_cons_of_ne_nil h
  simp [Pending.deeper?, hrest]

namespace Part

variable {part : Part} {i : Option Nat}

theorem exists_of_mem_deeper {q : Pending} (h : q ∈ part.deeper i) :
    ∃ p ∈ part.members, p.rest = q.names ∧ p.column = q.column := by
  obtain ⟨p, hp, hq⟩ := List.mem_filterMap.mp h
  obtain ⟨hnames, hcolumn⟩ := Pending.deeper?_eq_some hq
  exact ⟨p, hp, hnames.symm, hcolumn.symm⟩

theorem exists_mem_deeper {p : Pending} (hp : p ∈ part.members) (h : p.rest ≠ [])
    (i : Option Nat) : ∃ q ∈ part.deeper i, q.names = p.rest ∧ q.column = p.column := by
  obtain ⟨q, hq⟩ := Pending.exists_deeper? h i
  exact ⟨q, List.mem_filterMap.mpr ⟨p, hp, hq⟩, Pending.deeper?_eq_some hq⟩

theorem mem_terminal {p : Pending} : p ∈ part.terminal ↔ p ∈ part.members ∧ p.rest = [] := by
  simp [terminal]

end Part

/-- From a name to the requests that go on from it. -/
theorem MergeableAt.deeper {existing : Option Column} {part : Part} {n : Nat}
    (h : MergeableAt existing part.members n) {c : Column} (i : Option Nat)
    (hadmits : ∀ p ∈ part.members, p.rest ≠ [] → c.Admits p.rest) (hfits : c.Fits n) :
    Mergeable c (part.deeper i) n := by
  refine ⟨?_, ?_, ?_, hfits, ?_⟩
  · intro q hq
    obtain ⟨p, hp, hrest, -⟩ := Part.exists_of_mem_deeper hq
    exact hrest ▸ hadmits p hp (hrest ▸ List.cons_ne_nil _ _)
  · refine List.Pairwise.filterMap _ (fun p p' hne q hq q' hq' => ?_) h.distinct
    rw [(Pending.deeper?_eq_some hq).1, (Pending.deeper?_eq_some hq').1]
    exact hne
  · intro q hq q' hq' rest hrest heq
    obtain ⟨p, hp, hp1, hp2⟩ := Part.exists_of_mem_deeper hq
    obtain ⟨p', hp', hp1', -⟩ := Part.exists_of_mem_deeper hq'
    exact hp2 ▸ h.absorbs p hp p' hp' rest hrest (by rw [hp1, hp1', heq])
  · intro q hq
    obtain ⟨p, hp, hp1, hp2⟩ := Part.exists_of_mem_deeper hq
    refine ⟨hp2 ▸ (h.rows p hp).1, fun hno => hp2 ▸ (h.rows p hp).2 fun p' hp' rest hrest heq => ?_⟩
    have hne : p'.rest ≠ [] := by simp [heq, hrest]
    obtain ⟨q', hq', hnames, -⟩ := Part.exists_mem_deeper hp' hne i
    exact hno q' hq' rest hrest (by rw [hnames, heq, hp1])

/-- From the requests that go on from a name back to the name: at most one request ends there, and
then it is its column that the others lead into. -/
theorem MergeableAt.of_deeper {existing : Option Column} {part : Part} {n : Nat} {c : Column}
    {i : Option Nat} (hexisting : ∀ d ∈ existing, ∀ p ∈ part.members, d.Admits p.rest)
    (hone : part.terminal.length ≤ 1) (hdeeper : part.deeper i ≠ [] → Mergeable c (part.deeper i) n)
    (hseat : ∀ t ∈ part.terminal, c = t.column.rename part.name)
    (hlength : part.deeper i = [] → ∀ t ∈ part.terminal, t.column.length = n) :
    MergeableAt existing part.members n := by
  have hmerge {p : Pending} (hp : p ∈ part.members) (hne : p.rest ≠ []) :
      Mergeable c (part.deeper i) n :=
    hdeeper fun hnil => hne (Part.deeper_eq_nil_iff.mp hnil p hp)
  refine ⟨hexisting, ?_, ?_, ?_⟩
  · refine List.pairwise_iff_forall_sublist.mpr fun {p q} hpq heq => ?_
    have hp : p ∈ part.members := hpq.subset (by simp)
    -- two with the same names either both end here, or both go on
    by_cases hnil : p.rest = []
    · have hsub : [p, q].Sublist part.terminal := by
        have h := hpq.filter fun r => r.rest.isEmpty
        simpa [Part.terminal, ← heq, hnil] using h
      have hlen := hsub.length_le
      simp only [List.length_cons, List.length_nil] at hlen
      omega
    · obtain ⟨p', hp'⟩ := Pending.exists_deeper? hnil i
      obtain ⟨q', hq'⟩ := Pending.exists_deeper? (heq ▸ hnil) i
      have hsub : [p', q'].Sublist (part.deeper i) := by
        have h := hpq.filterMap (Pending.deeper? i)
        simpa [Part.deeper, hp', hq'] using h
      refine List.pairwise_iff_forall_sublist.mp (hmerge hp hnil).distinct hsub ?_
      rw [(Pending.deeper?_eq_some hp').1, (Pending.deeper?_eq_some hq').1, heq]
  · intro p hp q hq rest hrest heq
    have hne : q.rest ≠ [] := by simp [heq, hrest]
    obtain ⟨q', hq', hqn, -⟩ := Part.exists_mem_deeper hq hne i
    by_cases hnil : p.rest = []
    · -- the request that ends here is the seat, and there is room for the others in it
      have h := (hmerge hq hne).admits q' hq'
      rw [hseat p (Part.mem_terminal.mpr ⟨hp, hnil⟩), Column.admits_rename, hqn, heq, hnil] at h
      exact h
    · obtain ⟨p', hp', hpn, hpc⟩ := Part.exists_mem_deeper hp hnil i
      rw [← hpc]
      exact (hmerge hq hne).absorbs p' hp' q' hq' rest hrest (by rw [hqn, hpn, heq])
  · intro p hp
    by_cases hnil : p.rest = []
    · have ht : p ∈ part.terminal := Part.mem_terminal.mpr ⟨hp, hnil⟩
      by_cases hd : part.deeper i = []
      · exact ⟨Column.fits_of_length (hlength hd p ht), fun _ => hlength hd p ht⟩
      · have hfits := (hdeeper hd).fits
        rw [hseat p ht, Column.fits_rename] at hfits
        refine ⟨hfits, fun hno => ?_⟩
        -- the ones that go on lead into it
        obtain ⟨q, hq⟩ := List.exists_mem_of_ne_nil _ hd
        obtain ⟨p', hp', hpn, -⟩ := Part.exists_of_mem_deeper hq
        exact absurd (by rw [hnil]; rfl)
          (hno p' hp' p'.rest (by rw [hpn]; exact List.cons_ne_nil _ _))
    · obtain ⟨p', hp', hpn, hpc⟩ := Part.exists_mem_deeper hp hnil i
      obtain ⟨hfits, hrows⟩ := (hmerge hp hnil).rows p' hp'
      refine ⟨hpc ▸ hfits, fun hno => hpc ▸ hrows fun q hq rest hrest heq => ?_⟩
      obtain ⟨q', hq', hqn, -⟩ := Part.exists_of_mem_deeper hq
      exact hno q' hq' rest hrest (by rw [hqn, heq, hpn])

/-- The column that requests lead into: that of the seat, or an empty group. -/
def seatColumn (b : Option Column) : Column :=
  b.getD (.group "" .empty)

/-- **At a name, requests have to have a seat, and it is the seat that they are merged into.** -/
theorem mergeableAt_iff {existing : Option Column} {part : Part} {n : Nat} (above : List String)
    (i : Option Nat) (hexisting : ∀ c ∈ existing, c.length = n) :
    MergeableAt existing part.members n ↔
      ∃ b, part.seat above existing = .ok b ∧
        (part.deeper i = [] → ∀ c ∈ b, c.length = n) ∧
        (part.deeper i ≠ [] → Mergeable (seatColumn b) (part.deeper i) n) := by
  constructor
  · intro h
    rcases existing with _ | c
    · rcases ht : part.terminal with _ | ⟨t, _ | ⟨t', ts⟩⟩
      · -- no request ends here: the others get an empty group, which has room for all
        refine ⟨none, by simp [Part.seat, ht], by simp, fun _ => h.deeper i ?_ ?_⟩
        · intro p hp hne
          obtain ⟨name, rest, hrest⟩ := List.exists_cons_of_ne_nil hne
          simp [hrest, seatColumn, Frame.column?, Frame.empty]
        · simp [seatColumn, Column.Fits, Frame.empty]
      · -- one does: its column is the seat
        have htm := Part.mem_terminal.mp (ht ▸ List.mem_singleton_self t : t ∈ part.terminal)
        refine ⟨some (t.column.rename part.name), by simp [Part.seat, ht], fun hd => ?_, fun _ => ?_⟩
        · rintro c ⟨⟩
          rw [Column.length_rename]
          refine (h.rows t htm.1).2 fun q hq rest hrest heq => hrest ?_
          rw [Part.deeper_eq_nil_iff.mp hd q hq, htm.2] at heq
          simpa using heq.symm
        · refine h.deeper i (fun p hp hne => ?_) (Column.fits_rename.mpr (h.rows t htm.1).1)
          exact Column.admits_rename.mpr
            (h.absorbs t htm.1 p hp p.rest hne (by rw [htm.2]; rfl))
      · -- two do, and so have the same names
        have hsub : [t, t'].Sublist part.members :=
          ((List.nil_sublist ts).cons_cons t' |>.cons_cons t).trans
            (ht ▸ List.filter_sublist : (t :: t' :: ts).Sublist part.members)
        have hrest {u : Pending} (hu : u ∈ t :: t' :: ts) : u.rest = [] :=
          (Part.mem_terminal.mp (ht ▸ hu)).2
        refine absurd ?_ (List.pairwise_iff_forall_sublist.mp h.distinct hsub)
        rw [hrest (by simp), hrest (by simp)]
    · -- there is a column: none ends here, and it has room for the others
      have hadmits := h.admits c rfl
      have ht : part.terminal = [] := Part.terminal_eq_nil_iff.mpr fun p hp hnil =>
        Column.not_admits_nil c (hnil ▸ hadmits p hp)
      refine ⟨some c, by simp [Part.seat, ht], fun _ => hexisting, fun _ => ?_⟩
      exact h.deeper i (fun p hp _ => hadmits p hp) (Column.fits_of_length (hexisting c rfl))
  · rintro ⟨b, hseat, hlength, hdeeper⟩
    rcases Part.seat_eq_ok hseat with ⟨c, rfl, ht, rfl⟩ | ⟨rfl, ht, rfl⟩ | ⟨t, rfl, ht, rfl⟩
    · refine MergeableAt.of_deeper ?_ (by simp [ht]) hdeeper (by simp [ht]) (by simp [ht])
      rintro d ⟨⟩ p hp
      have hne := Part.terminal_eq_nil_iff.mp ht p hp
      obtain ⟨q, hq, hnames, -⟩ := Part.exists_mem_deeper hp hne i
      exact hnames ▸ (hdeeper (List.ne_nil_of_mem hq)).admits q hq
    · exact MergeableAt.of_deeper (by simp) (by simp [ht]) hdeeper (by simp [ht]) (by simp [ht])
    · refine MergeableAt.of_deeper (by simp) (by simp [ht]) hdeeper ?_ ?_
      · simp [ht, seatColumn]
      · simpa [ht] using hlength

/-! ### All depths -/

/-- The name of a group plays no role for what is merged into it. -/
theorem mergeable_group_label {label : String} {f : Frame} {pending : List Pending} {n : Nat} :
    Mergeable (.group label f) pending n ↔ Mergeable (.group "" f) pending n := by
  rw [mergeable_group_iff, mergeable_group_iff]
  rfl

/-- A seat is the column that is there or that of a request. -/
theorem Part.mem_of_seat {above : List String} {part : Part} {existing b : Option Column}
    (h : part.seat above existing = .ok b) {c : Column} (hc : c ∈ b) :
    c ∈ existing ∨ ∃ p ∈ part.members, p.column.rename part.name = c := by
  rcases Part.seat_eq_ok h with ⟨e, rfl, -, rfl⟩ | ⟨-, -, rfl⟩ | ⟨t, -, ht, rfl⟩
  · exact Or.inl hc
  · exact absurd hc (by simp)
  · have htm : t ∈ part.terminal := ht ▸ List.mem_singleton_self t
    exact Or.inr ⟨t, (Part.mem_terminal.mp htm).1, Option.some.inj hc⟩

/-- A seat is well-formed if the columns it comes from are. -/
theorem Part.wellFormed_of_seat {above : List String} {part : Part} {existing b : Option Column}
    (hexisting : ∀ c ∈ existing, c.WellFormed) (hmembers : ∀ p ∈ part.members, p.column.WellFormed)
    (h : part.seat above existing = .ok b) : ∀ c ∈ b, c.WellFormed := by
  intro c hc
  rcases Part.mem_of_seat h hc with hmem | ⟨p, hp, rfl⟩
  · exact hexisting c hmem
  · exact (Column.wellFormed_rename _ _).mpr (hmembers p hp)

/-- So is the frame that requests lead into. -/
theorem wellFormed_seatFrame {b : Option Column} (hb : ∀ c ∈ b, c.WellFormed) :
    ((b.bind Column.group?).getD .empty).WellFormed := by
  rcases b with _ | c
  · exact Frame.wellFormed_empty
  · rcases hc : c.group? with _ | f
    · rw [Option.bind_some, hc]
      exact Frame.wellFormed_empty
    · rw [Option.bind_some, hc]
      exact (hb c rfl).frame hc

/-- Requests can be merged into a seat if they can be merged into its group. -/
theorem mergeable_seatColumn_iff {b : Option Column} {pending : List Pending} {n : Nat}
    (hb : ∀ c ∈ b, ∃ f, c.group? = some f) :
    Mergeable (seatColumn b) pending n ↔
      Mergeable (.group "" ((b.bind Column.group?).getD .empty)) pending n := by
  rcases b with _ | c
  · rfl
  · obtain ⟨f, hf⟩ := hb c rfl
    rw [Option.bind_some, hf, seatColumn, Option.getD_some, Column.group?_eq_some_iff.mp hf]
    exact mergeable_group_label

/-- **Filling a seat**, if the level below is known to give frames where it should. -/
theorem Part.exists_fill_iff {below : MergeBelow} {above : List String} {layout : Option Layout}
    {part : Part} {b : Option Column} {n : Nat} (hb : ∀ c ∈ b, c.WellFormed)
    (hbelow : ∀ (above : List String) (layout : Option Layout) (frame : Option Frame)
      (i : Option Nat), (frame.getD .empty).WellFormed → part.deeper i ≠ [] →
        ((∃ r, below above layout frame (part.deeper i) = .ok r ∧ r.rowCount = n) ↔
          Mergeable (.group "" (frame.getD .empty)) (part.deeper i) n)) :
    (∃ d, part.fill below above layout b = .ok d ∧ ∀ c ∈ d, c.length = n) ↔
      (part.deeper (part.child layout).1 = [] → ∀ c ∈ b, c.length = n) ∧
      (part.deeper (part.child layout).1 ≠ [] →
        Mergeable (seatColumn b) (part.deeper (part.child layout).1) n) := by
  have hnil : part.deeper none = [] ↔ part.deeper (part.child layout).1 = [] := by
    rw [Part.deeper_eq_nil_iff, Part.deeper_eq_nil_iff]
  by_cases hd : part.deeper none = []
  · rw [Part.fill_of_deeper_eq_nil hd]
    simp [hnil.mp hd]
  · have hi : part.deeper (part.child layout).1 ≠ [] := fun h => hd (hnil.mpr h)
    simp only [hi, false_implies, true_and, ne_eq, not_false_eq_true, true_implies]
    rcases Part.seat_group_or_leaf b with hgroups | ⟨c, rfl, hc⟩
    · rw [Part.fill_of_group hd hgroups, mergeable_seatColumn_iff hgroups,
        ← hbelow (above ++ [part.name]) (part.child layout).2 _ _ (wellFormed_seatFrame hb) hi]
      simp only [Part.mergeDeeper, map_eq_ok_iff]
      constructor
      · rintro ⟨_, ⟨_, ⟨r, hr, rfl⟩, rfl⟩, hlength⟩
        exact ⟨r, hr, hlength _ rfl⟩
      · rintro ⟨r, hr, hn⟩
        refine ⟨_, ⟨_, ⟨r, hr, rfl⟩, rfl⟩, ?_⟩
        rintro c ⟨⟩
        exact hn
    · -- where requests have to go into a column that is no group, neither side holds
      rw [Part.fill_of_leaf hd hc]
      refine iff_of_false (by simp) fun h => ?_
      obtain ⟨q, hq⟩ := List.exists_mem_of_ne_nil _ hi
      obtain ⟨f, hf⟩ := (h.admits q hq).group
      exact absurd (hf.symm.trans hc) (by simp)

namespace Frame

variable {above : List String} {layout : Option Layout} {frame : Option Frame}
variable {pending : List Pending} {n : Nat}

theorem mergeBelow_nil (depth : Nat) (above : List String) (layout : Option Layout)
    (frame : Option Frame) : mergeBelow depth above layout frame [] = .ok (frame.getD empty) := by
  cases depth <;> simp [mergeBelow]

theorem mergeBelow_succ (depth : Nat) (above : List String) (layout : Option Layout)
    (frame : Option Frame) (hp : pending ≠ []) :
    mergeBelow (depth + 1) above layout frame pending =
      mergeLevel (mergeBelow depth) above layout frame pending := by
  simp [mergeBelow, hp]

/-- **What a merge has done**: nothing, or one level, with every name seated and filled. -/
theorem mergeBelow_eq_ok {depth : Nat} {r : Frame} (hf : (frame.getD empty).WellFormed)
    (hdepth : ∀ p ∈ pending, p.rest.length < depth)
    (h : mergeBelow depth above layout frame pending = .ok r) :
    (pending = [] ∧ r = frame.getD empty) ∨
      ∃ d, depth = d + 1 ∧ r.names = placedNames layout pending (frame.getD empty).names ∧
        ∀ name, ∃ b,
          (Part.named pending name).seat above ((frame.getD empty).column? name) = .ok b ∧
          (Part.named pending name).fill (mergeBelow d) above layout b = .ok (r.column? name) := by
  by_cases hp : pending = []
  · subst hp
    rw [mergeBelow_nil] at h
    exact Or.inl ⟨rfl, (Except.ok.inj h).symm⟩
  · obtain ⟨p, hmem⟩ := List.exists_mem_of_ne_nil _ hp
    obtain ⟨d, rfl⟩ : ∃ d, depth = d + 1 :=
      Nat.exists_eq_succ_of_ne_zero (Nat.ne_zero_of_lt (hdepth p hmem))
    rw [mergeBelow_succ d above layout frame hp, mergeLevel_eq_ok_iff hf.nodup_names] at h
    obtain ⟨hnames, hjoin, -, -⟩ := h
    exact Or.inr ⟨d, rfl, hnames, fun name => bind_eq_ok_iff.mp (hjoin name)⟩

/-- The requests that go on have fewer names to go. -/
theorem length_rest_of_mem_deeper {depth : Nat}
    (hdepth : ∀ p ∈ pending, p.rest.length < depth + 1) {name : String} {i : Option Nat}
    {q : Pending} (hq : q ∈ (Part.named pending name).deeper i) : q.rest.length < depth := by
  obtain ⟨p, hp, hrest, -⟩ := Part.exists_of_mem_deeper hq
  have h := hdepth p (Part.mem_named.mp hp).1
  rw [hrest, Pending.names, List.length_cons] at h
  omega

theorem column_wellFormed_of_mem_deeper (hwf : ∀ p ∈ pending, p.column.WellFormed) {name : String}
    {i : Option Nat} {q : Pending} (hq : q ∈ (Part.named pending name).deeper i) :
    q.column.WellFormed := by
  obtain ⟨p, hp, -, hcolumn⟩ := Part.exists_of_mem_deeper hq
  exact hcolumn ▸ hwf p (Part.mem_named.mp hp).1

/-- **When requests are merged into a frame with `n` rows.** The step is a level: it is known what
every name needs, and below the name the hypothesis of the induction answers. -/
theorem exists_mergeBelow_iff {depth : Nat} (hf : (frame.getD empty).WellFormed)
    (hp : pending ≠ []) (hwf : ∀ p ∈ pending, p.column.WellFormed)
    (hdepth : ∀ p ∈ pending, p.rest.length < depth) :
    (∃ r, mergeBelow depth above layout frame pending = .ok r ∧ r.rowCount = n) ↔
      Mergeable (.group "" (frame.getD empty)) pending n := by
  induction depth generalizing above layout frame pending with
  | zero =>
    obtain ⟨p, hmem⟩ := List.exists_mem_of_ne_nil _ hp
    exact absurd (hdepth p hmem) (Nat.not_lt_zero _)
  | succ depth ih =>
    rw [mergeBelow_succ depth above layout frame hp, exists_mergeLevel_iff hf hp,
      mergeable_group_iff]
    refine and_congr_right fun hframe => forall_congr' fun name => ?_
    have hexisting : ∀ c ∈ (frame.getD empty).column? name, c.length = n := fun c hc =>
      (hf.length_column hc).trans (hframe (List.ne_nil_of_mem (mem_of_column?_eq_some hc)))
    rw [mergeableAt_iff above ((Part.named pending name).child layout).1 hexisting]
    have hjoin : (∃ d, join (mergeBelow depth) above layout frame pending name = .ok d ∧
          ∀ c ∈ d, c.length = n) ↔
        ∃ b, (Part.named pending name).seat above ((frame.getD empty).column? name) = .ok b ∧
          ∃ d, (Part.named pending name).fill (mergeBelow depth) above layout b = .ok d ∧
            ∀ c ∈ d, c.length = n := by
      simp only [join, bind_eq_ok_iff]
      tauto
    rw [hjoin]
    refine exists_congr fun b => and_congr_right fun hseat => ?_
    refine Part.exists_fill_iff ?_ fun above layout frame i hframe hd => ?_
    · exact Part.wellFormed_of_seat (fun c hc => hf.column hc)
        (fun p hp => hwf p (Part.mem_named.mp hp).1) hseat
    · exact ih hframe hd (fun q hq => column_wellFormed_of_mem_deeper hwf hq)
        fun q hq => length_rest_of_mem_deeper hdepth hq

end Frame

end Colonnade
