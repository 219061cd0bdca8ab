import Mathlib
import Colonnade.Proofs.Frame.Shaped
import Colonnade.Proofs.Merge.StableMerge
import Colonnade.Proofs.Merge.Success

/-!
# One request after the other

Requests that come from no layout may be merged at once or inserted one after the other. A merge is
asked for less: it counts the rows of a level when all requests are in it, and a column that others
lead into may come after them. So whatever can be inserted one after the other can be merged, to the
same frame, and the other way round if all columns have one length and none comes after a request that
leads into it: `Frame.merge_eq_foldlM_insert`.

Both directions are about one request more, at the end of others, and both follow its names: where it
ends, no other request is for the name; where it goes on, the others have left a seat for it, or a group
(`Frame.mergeBelow_append`, `Frame.exists_mergeBelow_of_append`). How deep a merge may go does not
matter, as long as it is deep enough, `Frame.mergeBelow_of_depth`.
-/

namespace Colonnade

variable {below : MergeBelow} {above : List String} {pending : List Pending} {q : Pending}
variable {name : String} {frame : Option Frame}

/-! ### One request more for a name -/

namespace Part

/-- A request is for its own name only. -/
theorem named_append_of_ne (h : q.name ≠ name) : named (pending ++ [q]) name = named pending name := by
  simp [named, h]

theorem named_append_of_not_mem (h : name ∉ pending.map Pending.name) :
    named (pending ++ [q]) name = named [q] name := by
  have hnil : (pending.filter fun p => p.name == name) = [] := named_members_eq_nil.mpr h
  simp [named, List.filter_append, hnil]

theorem terminal_append_of_rest_eq_nil (pending : List Pending) (h : q.rest = []) :
    (named (pending ++ [q]) q.name).terminal = (named pending q.name).terminal ++ [q] := by
  simp [named, terminal, h]

theorem terminal_append_of_rest_ne_nil (pending : List Pending) (h : q.rest ≠ []) :
    (named (pending ++ [q]) q.name).terminal = (named pending q.name).terminal := by
  simp [named, terminal, h]

theorem deeper_append (pending : List Pending) {i : Option Nat} {next : Pending}
    (h : q.deeper? i = some next) :
    (named (pending ++ [q]) q.name).deeper i = (named pending q.name).deeper i ++ [next] := by
  simp [named, deeper, h]

/-- The seat is a matter of the requests that end at the name. -/
theorem seat_append_of_rest_ne_nil (h : q.rest ≠ []) (existing : Option Column) :
    (named (pending ++ [q]) q.name).seat above existing =
      (named pending q.name).seat above existing := by
  unfold seat
  rw [terminal_append_of_rest_ne_nil pending h]
  rfl

/-- **Filling a seat**, once the level below has a frame. -/
theorem fill_eq_ok_of_below {layout : Option Layout} {part : Part} {b : Option Column} {r : Frame}
    (hd : part.deeper none ≠ []) (hb : ∀ c ∈ b, ∃ f, c.group? = some f)
    (h : below (above ++ [part.name]) (part.child layout).2 (b.bind Column.group?)
      (part.deeper (part.child layout).1) = .ok r) :
    part.fill below above layout b = .ok (some (.group part.name r)) := by
  rw [fill_of_group hd hb]
  exact map_eq_ok_iff.mpr ⟨_, map_eq_ok_iff.mpr ⟨r, h, rfl⟩, rfl⟩

end Part

namespace Frame

variable {names : List String} {g h : Frame}

theorem newNames_singleton (names : List String) (q : Pending) :
    newNames names [q] = if q.name ∈ names then [] else [q.name] := by
  have hone : [q.name].eraseDups = [q.name] := rfl
  by_cases h : q.name ∈ names <;> simp [newNames, hone, h]

/-- The new names are those of the others, and then that of the request if it is another. -/
theorem newNames_append (names : List String) (pending : List Pending) (q : Pending) :
    newNames names (pending ++ [q]) =
      newNames names pending ++ newNames (names ++ newNames names pending) [q] := by
  have hmem : q.name ∈ names ++ newNames names pending ↔
      q.name ∈ names ∨ q.name ∈ pending.map Pending.name := by
    rw [List.mem_append, mem_newNames]
    tauto
  have hlast : ([q.name].removeAll (pending.map Pending.name)).eraseDups.filter (· ∉ names) =
      newNames (names ++ newNames names pending) [q] := by
    have hone : [q.name].eraseDups = [q.name] := rfl
    simp only [newNames_singleton, hmem]
    by_cases hnew : q.name ∈ pending.map Pending.name
    · have hnil : [q.name].removeAll (pending.map Pending.name) = [] := by
        simpa [List.removeAll] using hnew
      rw [if_pos (Or.inr hnew), hnil]
      rfl
    · have hkept : [q.name].removeAll (pending.map Pending.name) = [q.name] := by
        simpa [List.removeAll] using hnew
      rw [hkept, hone]
      by_cases hold : q.name ∈ names
      · simp [hold]
      · simp [hold, hnew]
  rw [← hlast, newNames, List.map_append, List.eraseDups_append, List.filter_append]
  rfl

/-- What becomes of a name depends on the column that is there. -/
theorem join_congr {layout : Option Layout} {frame' : Option Frame}
    (h : (frame.getD empty).column? name = (frame'.getD empty).column? name) :
    join below above layout frame pending name = join below above layout frame' pending name := by
  rw [join, join, h]

/-- A request is of no matter for other names. -/
theorem join_append_of_ne {layout : Option Layout} (hne : q.name ≠ name) :
    join below above layout frame (pending ++ [q]) name =
      join below above layout frame pending name := by
  rw [join, join, Part.named_append_of_ne hne]

/-- **A request after others, for its name**, if the level below lets one follow others. -/
theorem join_append_name
    (hbelow : ∀ above frame pending next g h, below above none frame pending = .ok g →
      below above none (some g) [next] = .ok h →
        below above none frame (pending ++ [next]) = .ok h)
    (hg : join below above none frame pending q.name = .ok (g.column? q.name)) {d : Option Column}
    (hd : join below above none (some g) [q] q.name = .ok d) :
    join below above none frame (pending ++ [q]) q.name = .ok d := by
  obtain ⟨e, hseat, hfill⟩ := bind_eq_ok_iff.mp hd
  by_cases hrest : q.rest = []
  · -- it ends here, so the others are not for the name and no column has it
    have hterminal : (Part.named [q] q.name).terminal = [q] :=
      Part.terminal_append_of_rest_eq_nil [] hrest
    rcases Part.seat_eq_ok hseat with ⟨c, -, ht, -⟩ | ⟨-, ht, -⟩ | ⟨t, hnone, -, -⟩
    · exact absurd (hterminal.symm.trans ht) (by simp)
    · exact absurd (hterminal.symm.trans ht) (by simp)
    · have hnone' : g.column? q.name = none := hnone
      have hsome := isSome_of_join hg
      rw [hnone', Option.isSome_none, Bool.false_eq_true, false_iff, not_or] at hsome
      have hcolumn : (frame.getD empty).column? q.name = ((some g).getD empty).column? q.name :=
        (column?_eq_none_iff.mpr hsome.1).trans hnone'.symm
      rw [← hd, ← join_congr hcolumn, join, join, Part.named_append_of_not_mem hsome.2]
  · obtain ⟨next, hnext⟩ := Pending.exists_deeper? hrest none
    have hterminal : (Part.named [q] q.name).terminal = [] :=
      Part.terminal_append_of_rest_ne_nil [] hrest
    have hdeeper : (Part.named [q] q.name).deeper none = [next] :=
      Part.deeper_append [] hnext
    have hne : (Part.named (pending ++ [q]) q.name).deeper none ≠ [] := by
      rw [Part.deeper_append pending hnext]
      simp
    rw [Part.seat_of_terminal_eq_nil hterminal] at hseat
    obtain rfl := Except.ok.inj hseat
    rcases Part.fill_eq_ok hfill with ⟨hnil, -⟩ | ⟨-, hgroups, r, hr, rfl⟩
    · exact absurd (hdeeper.symm.trans hnil) (by simp)
    obtain ⟨b, hseatg, hfillg⟩ := bind_eq_ok_iff.mp hg
    refine bind_eq_ok_iff.mpr ⟨b, (Part.seat_append_of_rest_ne_nil hrest _).trans hseatg, ?_⟩
    rcases Part.fill_eq_ok hfillg with ⟨hnil, heq⟩ | ⟨-, hgroups', r', hr', heq⟩
    · -- the others end here or are not for the name, and have left a seat
      have hnext' : (Part.named (pending ++ [q]) q.name).deeper none = [next] := by
        rw [Part.deeper_append pending hnext, hnil, List.nil_append]
      have hb : b = g.column? q.name := heq.symm
      refine Part.fill_eq_ok_of_below hne (hb ▸ hgroups) ?_
      change below (above ++ [q.name]) none _ ((Part.named (pending ++ [q]) q.name).deeper none) = _
      rw [hnext', ← hdeeper, hb]
      exact hr
    · -- they have left a group
      refine Part.fill_eq_ok_of_below hne hgroups' ?_
      change below (above ++ [q.name]) none _ ((Part.named (pending ++ [q]) q.name).deeper none) = _
      rw [Part.deeper_append pending hnext]
      refine hbelow _ _ _ _ r' r hr' ?_
      have hgroup : (((some g).getD empty).column? q.name).bind Column.group? = some r' := by
        change (g.column? q.name).bind Column.group? = some r'
        rw [heq]
        rfl
      rw [← hgroup, ← hdeeper]
      exact hr

/-! ### One request more, at all depths -/

/-- No frame is as good as an empty one. -/
theorem mergeBelow_some_getD (depth : Nat) (above : List String) (layout : Option Layout)
    (frame : Option Frame) (pending : List Pending) :
    mergeBelow depth above layout (some (frame.getD empty)) pending =
      mergeBelow depth above layout frame pending := by
  cases frame with
  | some f => rfl
  | none => cases depth <;> rfl

/-- A level with columns keeps its number of rows. -/
theorem levelRows_of_columns_ne_nil {columns : List Column}
    (h : (frame.getD empty).columns ≠ []) :
    levelRows frame columns = (frame.getD empty).rowCount := by
  cases frame with
  | none => exact absurd rfl h
  | some f =>
    have hf : f.columns.isEmpty = false := by simpa using h
    simp [levelRows, hf]

/-- **A request that follows others may be merged with them**, by induction on the depth. -/
theorem mergeBelow_append {depth : Nat} (hg : mergeBelow depth above none frame pending = .ok g)
    (hh : mergeBelow depth above none (some g) [q] = .ok h) :
    mergeBelow depth above none frame (pending ++ [q]) = .ok h := by
  induction depth generalizing above frame pending q g h with
  | zero =>
    obtain rfl := Except.ok.inj hg
    exact hh
  | succ depth ih =>
    by_cases hp : pending = []
    · subst hp
      rw [mergeBelow_nil] at hg
      obtain rfl := Except.ok.inj hg
      rwa [mergeBelow_some_getD] at hh
    rw [mergeBelow_succ depth above none _ hp] at hg
    rw [mergeBelow_succ depth above none _ (List.cons_ne_nil q [])] at hh
    rw [mergeBelow_succ depth above none _ (by simp)]
    have hnodup := nodup_names_of_mergeLevel hg
    obtain ⟨hnames, hjoin, -, hrows⟩ := (mergeLevel_eq_ok_iff hnodup).mp hg
    obtain ⟨hnames', hjoin', hlength', hrows'⟩ :=
      (mergeLevel_eq_ok_iff (nodup_names_of_mergeLevel hh)).mp hh
    have hcolumns : ((some g).getD empty).columns ≠ [] := columns_ne_nil_of_placedNames hp hnames
    have hcolumns' : h.columns ≠ [] := columns_ne_nil_of_placedNames (by simp) hnames'
    rw [placedNames_none] at hnames
    rw [Option.getD_some, placedNames_none] at hnames'
    refine (mergeLevel_eq_ok_iff hnodup).mpr ⟨?_, fun name => ?_, hlength', ?_⟩
    · rw [placedNames_none, newNames_append, ← List.append_assoc, ← hnames, ← hnames']
    · by_cases hname : q.name = name
      · subst hname
        exact join_append_name (fun _ _ _ _ _ _ => ih) (hjoin q.name) (hjoin' q.name)
      · have hother : name ∉ ([q] : List Pending).map Pending.name := by simpa using Ne.symm hname
        rw [join_append_of_ne hname, hjoin name, ← hjoin' name, join_of_not_mem hother]
        rfl
    · refine (levelRows_eq hcolumns' (fun hframe => ?_) hlength').symm
      rw [hrows', levelRows_of_columns_ne_nil hcolumns, Option.getD_some, hrows,
        levelRows_of_columns_ne_nil hframe]

/-! ### One request less -/

/-- The frame that requests lead into is shaped if the seat is. -/
theorem shaped_seatFrame {b : Option Column} (hb : ∀ c ∈ b, c.Shaped) :
    ((b.bind Column.group?).getD empty).Shaped := by
  rcases b with _ | c
  · exact shaped_empty
  · rcases hc : c.group? with _ | f
    · rw [Option.bind_some, hc]
      exact shaped_empty
    · rw [Option.bind_some, hc]
      exact (hb c rfl).frame hc

/-- **The requests before another, for its name**, if the level below can leave one out. None of them
goes on from where the other ends. -/
theorem exists_join_of_append {n : Nat}
    (hbelow : ∀ above frame pending next h, pending ≠ [] → (frame.getD empty).Shaped →
      (∀ p ∈ pending, p.column.Shaped ∧ p.column.length = n) →
      (∀ p ∈ pending, ∀ rest, rest ≠ [] → p.names ≠ next.names ++ rest) →
      below above none frame (pending ++ [next]) = .ok h → h.rowCount = n →
        ∃ g, below above none frame pending = .ok g ∧ g.rowCount = n ∧
          below above none (some g) [next] = .ok h)
    (hexisting : ∀ c ∈ (frame.getD empty).column? q.name, c.Shaped ∧ c.length = n)
    (hpending : ∀ p ∈ pending, p.column.Shaped ∧ p.column.length = n)
    (hafter : ∀ p ∈ pending, ∀ rest, rest ≠ [] → p.names ≠ q.names ++ rest) {d : Option Column}
    (hd : join below above none frame (pending ++ [q]) q.name = .ok d)
    (hlength : ∀ c ∈ d, c.length = n) :
    ∃ b, join below above none frame pending q.name = .ok b ∧ (∀ c ∈ b, c.length = n) ∧
      ∀ g : Frame, g.column? q.name = b → join below above none (some g) [q] q.name = .ok d := by
  obtain ⟨e, hseat, hfill⟩ := bind_eq_ok_iff.mp hd
  by_cases hrest : q.rest = []
  · -- it ends here, so no other does, and none goes on
    have hseated : (frame.getD empty).column? q.name = none ∧
        (Part.named (pending ++ [q]) q.name).terminal.length ≤ 1 := by
      rcases Part.seat_eq_ok hseat with ⟨c, -, ht, -⟩ | ⟨hnone, ht, -⟩ | ⟨t, hnone, ht, -⟩
      · rw [Part.terminal_append_of_rest_eq_nil pending hrest] at ht
        exact absurd ht (by simp)
      · exact ⟨hnone, by simp [ht]⟩
      · exact ⟨hnone, by simp [ht]⟩
    rw [Part.terminal_append_of_rest_eq_nil pending hrest] at hseated
    have hnot : q.name ∉ pending.map Pending.name := by
      intro hmem
      obtain ⟨p, hp, hname⟩ := List.mem_map.mp hmem
      by_cases hnil : p.rest = []
      · have hp' : p ∈ (Part.named pending q.name).terminal :=
          Part.mem_terminal.mpr ⟨Part.mem_named.mpr ⟨hp, hname⟩, hnil⟩
        have hpos := List.length_pos_of_mem hp'
        have hle := hseated.2
        rw [List.length_append, List.length_singleton] at hle
        omega
      · exact hafter p hp p.rest hnil (by rw [Pending.names, Pending.names, hname, hrest]; rfl)
    refine ⟨none, (join_of_not_mem hnot).trans (by rw [hseated.1]), by simp, fun g hg => ?_⟩
    have hcolumn : (frame.getD empty).column? q.name = ((some g).getD empty).column? q.name :=
      hseated.1.trans hg.symm
    rw [← hd, ← join_congr hcolumn, join, join, Part.named_append_of_not_mem hnot]
  · obtain ⟨next, hnext⟩ := Pending.exists_deeper? hrest none
    have hterminal : (Part.named [q] q.name).terminal = [] :=
      Part.terminal_append_of_rest_ne_nil [] hrest
    have hdeeper : (Part.named [q] q.name).deeper none = [next] :=
      Part.deeper_append [] hnext
    rw [Part.seat_append_of_rest_ne_nil hrest] at hseat
    have hseated : ∀ c ∈ e, c.Shaped ∧ c.length = n := by
      intro c hc
      rcases Part.mem_of_seat hseat hc with hmem | ⟨p, hp, rfl⟩
      · exact hexisting c hmem
      · rw [Column.shaped_rename_iff, Column.length_rename]
        exact hpending p (Part.mem_named.mp hp).1
    -- the request alone, in what is there by then
    have hlast {b : Option Column} {r : Frame} (hb : ∀ c ∈ b, ∃ f, c.group? = some f)
        (hr : below (above ++ [q.name]) none (b.bind Column.group?) [next] = .ok r) (g : Frame)
        (hg : g.column? q.name = b) :
        join below above none (some g) [q] q.name = .ok (some (.group q.name r)) := by
      refine bind_eq_ok_iff.mpr ⟨b, ?_, Part.fill_eq_ok_of_below (by simp [hdeeper]) hb ?_⟩
      · rw [Option.getD_some, hg, Part.seat_of_terminal_eq_nil hterminal]
      · change below (above ++ [q.name]) none _ ((Part.named [q] q.name).deeper none) = _
        rw [hdeeper]
        exact hr
    rcases Part.fill_eq_ok hfill with ⟨hnil, -⟩ | ⟨-, hgroups, r, hr, rfl⟩
    · rw [Part.deeper_append pending hnext] at hnil
      exact absurd hnil (by simp)
    change below (above ++ [q.name]) none _ ((Part.named (pending ++ [q]) q.name).deeper none) = _ at hr
    rw [Part.deeper_append pending hnext] at hr
    by_cases hnone : (Part.named pending q.name).deeper none = []
    · -- the others leave the seat as it is
      refine ⟨e, bind_eq_ok_iff.mpr ⟨e, hseat, Part.fill_of_deeper_eq_nil hnone e⟩,
        fun c hc => (hseated c hc).2, hlast hgroups ?_⟩
      rwa [hnone, List.nil_append] at hr
    · -- the others are merged into its group
      have hcolumns : ∀ p ∈ (Part.named pending q.name).deeper none,
          p.column.Shaped ∧ p.column.length = n := by
        intro p' hp'
        obtain ⟨p, hp, -, hcolumn⟩ := Part.exists_of_mem_deeper hp'
        exact hcolumn ▸ hpending p (Part.mem_named.mp hp).1
      have hnext' : ∀ p ∈ (Part.named pending q.name).deeper none, ∀ rest, rest ≠ [] →
          p.names ≠ next.names ++ rest := by
        intro p' hp' rest hne heq
        obtain ⟨p, hp, hrest', -⟩ := Part.exists_of_mem_deeper hp'
        obtain ⟨hmem, hname⟩ := Part.mem_named.mp hp
        refine hafter p hmem rest hne (Pending.names_eq_append_iff.mpr ⟨hname, ?_⟩)
        rw [hrest', heq, (Pending.deeper?_eq_some hnext).1]
      obtain ⟨g', hg', hn', hr'⟩ := hbelow _ _ _ next r hnone
        (shaped_seatFrame fun c hc => (hseated c hc).1) hcolumns hnext' hr (hlength _ rfl)
      refine ⟨some (.group q.name g'), ?_, by rintro c ⟨⟩; exact hn', hlast ?_ hr'⟩
      · exact bind_eq_ok_iff.mpr ⟨e, hseat, Part.fill_eq_ok_of_below hnone hgroups hg'⟩
      · rintro c ⟨⟩
        exact ⟨g', rfl⟩

/-- **A request that is merged with others may follow them**, by induction on the depth. -/
theorem exists_mergeBelow_of_append {depth n : Nat} (hp : pending ≠ [])
    (hf : (frame.getD empty).Shaped)
    (hpending : ∀ p ∈ pending, p.column.Shaped ∧ p.column.length = n)
    (hafter : ∀ p ∈ pending, ∀ rest, rest ≠ [] → p.names ≠ q.names ++ rest)
    (hh : mergeBelow depth above none frame (pending ++ [q]) = .ok h) (hn : h.rowCount = n) :
    ∃ g, mergeBelow depth above none frame pending = .ok g ∧ g.rowCount = n ∧
      mergeBelow depth above none (some g) [q] = .ok h := by
  induction depth generalizing above frame pending q h with
  | zero =>
    obtain rfl := Except.ok.inj hh
    exact ⟨_, rfl, hn, rfl⟩
  | succ depth ih =>
    rw [mergeBelow_succ depth above none _ (by simp)] at hh
    rw [mergeBelow_succ depth above none _ hp]
    obtain ⟨hnames, hjoin, hlength, hrows⟩ := (mergeLevel_eq_ok_iff hf.nodup_names).mp hh
    have hframe : (frame.getD empty).columns ≠ [] → (frame.getD empty).rowCount = n := by
      intro hne
      rw [← hn, hrows, levelRows_of_columns_ne_nil hne]
    have hname (name : String) : ∃ b, join (mergeBelow depth) above none frame pending name = .ok b ∧
        (∀ c ∈ b, c.length = n) ∧ ∀ g : Frame, g.column? name = b →
          join (mergeBelow depth) above none (some g) [q] name = .ok (h.column? name) := by
      have hlength' : ∀ c ∈ h.column? name, c.length = n := fun c hc =>
        (hlength c (mem_of_column?_eq_some hc)).trans hn
      by_cases hname : q.name = name
      · subst hname
        refine exists_join_of_append (fun _ _ _ _ _ => ih) (fun c hc => ⟨hf.column hc, ?_⟩) hpending
          hafter (hjoin q.name) hlength'
        exact (hf.length_column hc).trans (hframe (List.ne_nil_of_mem (mem_of_column?_eq_some hc)))
      · have hother : name ∉ ([q] : List Pending).map Pending.name := by simpa using Ne.symm hname
        refine ⟨h.column? name, ?_, hlength', fun g hg => ?_⟩
        · rw [← hjoin name, join_append_of_ne hname]
        · rw [join_of_not_mem hother, Option.getD_some, hg]
    have hlength' : ∀ name c, join (mergeBelow depth) above none frame pending name = .ok (some c) →
        c.length = n := by
      intro name c hc
      obtain ⟨b, hb, hlength, -⟩ := hname name
      obtain rfl := Except.ok.inj (hb.symm.trans hc)
      exact hlength c rfl
    rcases mergeLevel_of_length hf.nodup_names hp hframe hlength' with ⟨g, hg, hgn⟩ | ⟨name, e, he, -⟩
    · obtain ⟨hnames', hjoin', -, -⟩ := (mergeLevel_eq_ok_iff hf.nodup_names).mp hg
      have hnodup : ((some g).getD empty).names.Nodup := hnames' ▸ nodup_placedNames hf.nodup_names
      have hcolumns : ((some g).getD empty).columns ≠ [] :=
        columns_ne_nil_of_placedNames hp hnames'
      rw [placedNames_none] at hnames hnames'
      refine ⟨g, hg, hgn, ?_⟩
      rw [mergeBelow_succ depth above none _ (List.cons_ne_nil q [])]
      refine (mergeLevel_eq_ok_iff hnodup).mpr ⟨?_, fun name => ?_, hlength, ?_⟩
      · rw [placedNames_none, Option.getD_some, hnames', hnames, newNames_append,
          List.append_assoc]
      · obtain ⟨b, hb, -, hgb⟩ := hname name
        exact hgb g (Except.ok.inj ((hjoin' name).symm.trans hb))
      · rw [levelRows_of_columns_ne_nil hcolumns, hn]
        exact hgn.symm
    · obtain ⟨b, hb, -⟩ := hname name
      exact absurd (he.symm.trans hb) (by simp)

/-! ### Deep enough -/

/-- **A merge that may go deep enough** gives the same frame as one that may go deeper, or less deep. -/
theorem mergeBelow_of_depth {depth more : Nat} {layout : Option Layout}
    (hdepth : ∀ p ∈ pending, p.rest.length < depth) (hmore : ∀ p ∈ pending, p.rest.length < more)
    (h : mergeBelow depth above layout frame pending = .ok g) :
    mergeBelow more above layout frame pending = .ok g := by
  induction depth generalizing more above layout frame pending g with
  | zero =>
    have hnil : pending = [] := List.eq_nil_iff_forall_not_mem.mpr fun p hp =>
      Nat.not_lt_zero _ (hdepth p hp)
    rw [hnil, mergeBelow_nil] at h ⊢
    exact h
  | succ depth ih =>
    by_cases hp : pending = []
    · rw [hp, mergeBelow_nil] at h ⊢
      exact h
    obtain ⟨p, hmem⟩ := List.exists_mem_of_ne_nil _ hp
    obtain ⟨more, rfl⟩ := Nat.exists_eq_succ_of_ne_zero (Nat.ne_zero_of_lt (hmore p hmem))
    rw [mergeBelow_succ depth above layout frame hp] at h
    rw [mergeBelow_succ more above layout frame hp]
    have hnodup := nodup_names_of_mergeLevel h
    obtain ⟨hnames, hjoin, hlength, hrows⟩ := (mergeLevel_eq_ok_iff hnodup).mp h
    refine (mergeLevel_eq_ok_iff hnodup).mpr ⟨hnames, fun name => ?_, hlength, hrows⟩
    obtain ⟨b, hseat, hfill⟩ := bind_eq_ok_iff.mp (hjoin name)
    refine bind_eq_ok_iff.mpr ⟨b, hseat, ?_⟩
    rcases Part.fill_eq_ok hfill with ⟨hnil, heq⟩ | ⟨hne, hgroups, r, hr, heq⟩
    · rw [Part.fill_of_deeper_eq_nil hnil, heq]
    · rw [heq]
      refine Part.fill_eq_ok_of_below hne hgroups (ih ?_ ?_ hr)
      · exact fun q hq => length_rest_of_mem_deeper hdepth hq
      · exact fun q hq => length_rest_of_mem_deeper hmore hq

/-- **The rows of a merge are those of its requests**, if these have one length. -/
theorem rowCount_of_mergeBelow {depth n : Nat} {layout : Option Layout} (hp : pending ≠ [])
    (hdepth : ∀ p ∈ pending, p.rest.length < depth) (hn : ∀ p ∈ pending, p.column.length = n)
    (h : mergeBelow depth above layout frame pending = .ok g) : g.rowCount = n := by
  induction depth generalizing above layout frame pending g with
  | zero =>
    obtain ⟨p, hmem⟩ := List.exists_mem_of_ne_nil _ hp
    exact absurd (hdepth p hmem) (Nat.not_lt_zero _)
  | succ depth ih =>
    rw [mergeBelow_succ depth above layout frame hp] at h
    obtain ⟨-, hjoin, hlength, -⟩ := (mergeLevel_eq_ok_iff (nodup_names_of_mergeLevel h)).mp h
    obtain ⟨p, hmem⟩ := List.exists_mem_of_ne_nil _ hp
    have hnamed : p ∈ (Part.named pending p.name).members := Part.mem_named.mpr ⟨hmem, rfl⟩
    have hcolumn {c : Column} (hc : g.column? p.name = some c) : c.length = g.rowCount :=
      hlength c (mem_of_column?_eq_some hc)
    obtain ⟨b, hseat, hfill⟩ := bind_eq_ok_iff.mp (hjoin p.name)
    rcases Part.fill_eq_ok hfill with ⟨hnil, heq⟩ | ⟨hne, -, r, hr, heq⟩
    · -- all end at the name, so there is one, and it is its column that is there
      have hterminal : p ∈ (Part.named pending p.name).terminal :=
        Part.mem_terminal.mpr ⟨hnamed, Part.deeper_eq_nil_iff.mp hnil p hnamed⟩
      rcases Part.seat_eq_ok hseat with ⟨c, -, ht, -⟩ | ⟨-, ht, -⟩ | ⟨t, -, ht, rfl⟩
      · exact absurd (ht ▸ hterminal) List.not_mem_nil
      · exact absurd (ht ▸ hterminal) List.not_mem_nil
      · obtain rfl : p = t := List.mem_singleton.mp (ht ▸ hterminal)
        rw [← hcolumn heq, Column.length_rename]
        exact hn p hmem
    · -- some go on, and the rows are those of the group that they are merged into
      have hi : (Part.named pending p.name).deeper
          ((Part.named pending p.name).child layout).1 ≠ [] := fun hnil =>
        hne (Part.deeper_eq_nil_iff.mpr (Part.deeper_eq_nil_iff.mp hnil))
      rw [← hcolumn heq]
      refine ih hi (fun q hq => length_rest_of_mem_deeper hdepth hq) (fun q hq => ?_) hr
      obtain ⟨p', hp', -, hcolumn'⟩ := Part.exists_of_mem_deeper hq
      exact hcolumn' ▸ hn p' (Part.mem_named.mp hp').1

/-! ### All requests -/

variable {f : Frame} {requests : List Request}

/-- A request has fewer names left at a level than it has to go. -/
theorem length_rest_lt_of_le {layout : Option Layout} {r : Request} {depth : Nat}
    (h : r.path.segments.length ≤ depth) : (Pending.ofRequest layout r).rest.length < depth := by
  have hlength := congrArg List.length (Pending.names_ofRequest layout r)
  rw [Pending.names, List.length_cons] at hlength
  omega

/-- A merge may go as deep as one of more requests does. -/
theorem merge_eq_ok_iff_mergeBelow {depth : Nat}
    (hdepth : ∀ r ∈ requests, r.path.segments.length ≤ depth) :
    merge frame requests none = .ok g ↔
      mergeBelow depth [] none frame (requests.map (Pending.ofRequest none)) = .ok g := by
  have hrest : ∀ p ∈ requests.map (Pending.ofRequest none), p.rest.length < depth :=
    List.forall_mem_map.mpr fun r hr => length_rest_lt_of_le (hdepth r hr)
  exact ⟨mergeBelow_of_depth (fun _ hp => length_rest_lt_deepest hp) hrest,
    mergeBelow_of_depth hrest fun _ hp => length_rest_lt_deepest hp⟩

theorem insert_eq_ok_iff_mergeBelow {depth : Nat} {r : Request}
    (hdepth : r.path.segments.length ≤ depth) :
    f.insert r.path r.column = .ok g ↔
      mergeBelow depth [] none (some f) [Pending.ofRequest none r] = .ok g := by
  have hone : ∀ q ∈ [({ path := r.path, column := r.column } : Request)],
      q.path.segments.length ≤ depth := List.forall_mem_singleton.mpr hdepth
  exact merge_eq_ok_iff_mergeBelow hone

/-- One insertion more, at the end. -/
theorem foldlM_insert_append {r : Request} :
    (requests ++ [r]).foldlM (fun g r => g.insert r.path r.column) f = .ok g ↔
      ∃ g', requests.foldlM (fun g r => g.insert r.path r.column) f = .ok g' ∧
        g'.insert r.path r.column = .ok g := by
  rw [List.foldlM_append, bind_eq_ok_iff]
  refine exists_congr fun g' => and_congr_right fun _ => ?_
  rw [List.foldlM_cons, bind_eq_ok_iff]
  exact ⟨fun ⟨_, h, heq⟩ => Except.ok.inj heq ▸ h, fun h => ⟨g, h, rfl⟩⟩

/-- **What can be inserted one after the other can be merged.** -/
theorem merge_of_foldlM_insert
    (h : requests.foldlM (fun g r => g.insert r.path r.column) f = .ok g) :
    merge (some f) requests none = .ok g := by
  induction requests using List.reverseRecOn generalizing g with
  | nil => exact h
  | append_singleton requests q ih =>
    have hdepth : ∀ r ∈ requests ++ [q],
        r.path.segments.length ≤ deepest (requests ++ [q]) := fun r hr => length_le_deepest hr
    obtain ⟨hbefore, hlast⟩ := List.forall_mem_append.mp hdepth
    obtain ⟨g', hg', hinsert⟩ := foldlM_insert_append.mp h
    rw [merge_eq_ok_iff_mergeBelow hdepth, List.map_append]
    exact mergeBelow_append ((merge_eq_ok_iff_mergeBelow hbefore).mp (ih hg'))
      ((insert_eq_ok_iff_mergeBelow (hlast q (List.mem_singleton_self q))).mp hinsert)

/-- The names of a request go on from those of another only if its path does. -/
theorem names_ofRequest_ne_append {q r : Request}
    (h : ¬(r.path.startsWith q.path ∧ r.path ≠ q.path)) {rest : List String} (hrest : rest ≠ []) :
    (Pending.ofRequest none r).names ≠ (Pending.ofRequest none q).names ++ rest := by
  intro heq
  rw [Pending.names_ofRequest, Pending.names_ofRequest] at heq
  refine h ⟨Path.startsWith_iff.mpr ⟨rest, heq⟩, fun hpath => hrest ?_⟩
  rw [hpath] at heq
  simpa using heq

/-- **What can be merged can be inserted one after the other**, if the columns have one length and none
comes after one that leads into it. -/
theorem foldlM_insert_of_merge {n : Nat} (hf : f.Shaped)
    (hcolumns : ∀ r ∈ requests, r.column.Shaped ∧ r.column.length = n)
    (horder : requests.Pairwise fun q r => ¬(q.path.startsWith r.path ∧ q.path ≠ r.path))
    (h : merge (some f) requests none = .ok g) :
    requests.foldlM (fun g r => g.insert r.path r.column) f = .ok g := by
  induction requests using List.reverseRecOn generalizing g with
  | nil => exact h
  | append_singleton requests q ih =>
    have hdepth : ∀ r ∈ requests ++ [q],
        r.path.segments.length ≤ deepest (requests ++ [q]) := fun r hr => length_le_deepest hr
    obtain ⟨hbefore, hlast⟩ := List.forall_mem_append.mp hdepth
    obtain ⟨hcolumns', -⟩ := List.forall_mem_append.mp hcolumns
    obtain ⟨horder', -, hafter⟩ := List.pairwise_append.mp horder
    rw [merge_eq_ok_iff_mergeBelow hdepth] at h
    have hn : g.rowCount = n := rowCount_of_mergeBelow (by simp)
      (List.forall_mem_map.mpr fun r hr => length_rest_lt_of_le (hdepth r hr))
      (List.forall_mem_map.mpr fun r hr => (hcolumns r hr).2) h
    rw [List.map_append] at h
    obtain ⟨g', hg', hinsert⟩ : ∃ g',
        mergeBelow (deepest (requests ++ [q])) [] none (some f)
          (requests.map (Pending.ofRequest none)) = .ok g' ∧
        mergeBelow (deepest (requests ++ [q])) [] none (some g') [Pending.ofRequest none q] =
          .ok g := by
      by_cases hnil : requests = []
      · subst hnil
        exact ⟨f, mergeBelow_nil _ _ _ _, h⟩
      · have hf' : ((some f).getD empty).Shaped := hf
        obtain ⟨g', hg', -, hinsert⟩ := exists_mergeBelow_of_append (by simpa using hnil) hf'
          (List.forall_mem_map.mpr hcolumns')
          (List.forall_mem_map.mpr fun r hr _ =>
            names_ofRequest_ne_append (hafter r hr q (List.mem_singleton_self q))) h hn
        exact ⟨g', hg', hinsert⟩
    refine foldlM_insert_append.mpr ⟨g', ih hcolumns' horder' ?_, ?_⟩
    · exact (merge_eq_ok_iff_mergeBelow hbefore).mpr hg'
    · exact (insert_eq_ok_iff_mergeBelow (hlast q (List.mem_singleton_self q))).mpr hinsert

/-- **Merging requests is inserting their columns one after the other.** Whatever can be inserted so can
be merged, and whatever can be merged can be inserted so if the columns have one length and none comes
after one that leads into it. The frame is the same, the order of its columns included. -/
theorem merge_eq_foldlM_insert (f : Frame) (requests : List Request) :
    (∀ g, requests.foldlM (fun g r => g.insert r.path r.column) f = .ok g →
        merge (some f) requests none = .ok g) ∧
      ∀ n, f.Shaped → (∀ r ∈ requests, r.column.Shaped ∧ r.column.length = n) →
        (requests.Pairwise fun q r => ¬(q.path.startsWith r.path ∧ q.path ≠ r.path)) →
          ∀ g, merge (some f) requests none = .ok g →
            requests.foldlM (fun g r => g.insert r.path r.column) f = .ok g := by
  constructor
  · intro g hg
    exact merge_of_foldlM_insert hg
  · intro n hf hcolumns horder g hg
    exact foldlM_insert_of_merge hf hcolumns horder hg

/-- Columns for a group that is there and for one that a request brings along, in turn. -/
theorem merge_eq_foldlM_insert_nested :
    let f : Frame := ⟨[.ofTexts "a" [some "1"], .group "g" ⟨[.ofTexts "x" [some "2"]], 1⟩], 1⟩
    let requests : List Request :=
      [{ path := .single "h", column := .group "t" ⟨[.ofTexts "z" [some "3"]], 1⟩ },
        { path := .below ["g", "k"] "y", column := .ofTexts "t" [none] },
        { path := .single "b", column := .ofTexts "t" [some "4"] },
        { path := .below ["h"] "w", column := .ofTexts "t" [some "5"] }]
    let g : Frame :=
      ⟨[.ofTexts "a" [some "1"],
          .group "g" ⟨[.ofTexts "x" [some "2"], .group "k" ⟨[.ofTexts "y" [none]], 1⟩], 1⟩,
          .group "h" ⟨[.ofTexts "z" [some "3"], .ofTexts "w" [some "5"]], 1⟩,
          .ofTexts "b" [some "4"]], 1⟩
    (f.Shaped ∧ (∀ r ∈ requests, r.column.Shaped ∧ r.column.length = 1) ∧
        requests.Pairwise fun q r => ¬(q.path.startsWith r.path ∧ q.path ≠ r.path)) ∧
      merge (some f) requests none = .ok g ∧
        requests.foldlM (fun g r => g.insert r.path r.column) f = .ok g := by
  intro f requests g
  have hf : f.Shaped := by
    simp [f, Frame.shaped_iff, Frame.names, Column.ofTexts, Column.ofValues, Column.name,
      Column.length]
  have hcolumns : ∀ r ∈ requests, r.column.Shaped ∧ r.column.length = 1 := by
    simp [requests, Frame.shaped_iff, Frame.names, Column.ofTexts, Column.ofValues, Column.name,
      Column.length]
  have horder : requests.Pairwise fun q r => ¬(q.path.startsWith r.path ∧ q.path ≠ r.path) := by
    simp [requests, Path.startsWith, Path.single, Path.below]
  have hmerge : merge (some f) requests none = .ok g := by cbv
  obtain ⟨hforth, hback⟩ := merge_eq_foldlM_insert f requests
  have hfold := hback 1 hf hcolumns horder g hmerge
  exact ⟨⟨hf, hcolumns, horder⟩, hforth g hfold, hfold⟩

end Frame

end Colonnade
