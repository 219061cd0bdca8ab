import Colonnade.Proofs.Merge.Mergeable
import Colonnade.Proofs.Removal.Taken
import Colonnade.Proofs.Soundness.Basic

/-!
# Sound frames that are edited

Putting columns in, taking them out and moving them keeps frames sound, whatever the layout is and
wherever the columns go.

| operation | where the columns of the new frame come from |
| --- | --- |
| `Frame.merge` | the frame, the requests, and groups of what is merged into groups |
| `Frame.remove` | the frame, or groups of what is left of groups |
| `Frame.move` | a removal and a merge of what has been removed |

Nothing here depends on how rows and types are counted in: a `Rule` is kept as it is.
-/

namespace Colonnade

variable {rule : Rule}

/-! ### Putting in -/

section Merge

variable {above : List String} {layout : Option Layout} {pending : List Pending} {part : Part}
  {existing b d : Option Column} {below : MergeBelow}

/-- **A level that makes sound frames** of sound frames and columns. -/
def MergeBelow.Preserves (rule : Rule) (below : MergeBelow) : Prop :=
  ∀ above layout (frame : Option Frame) (pending : List Pending) r,
    (∀ f ∈ frame, f.Sound rule) → (∀ p ∈ pending, p.column.Sound rule) →
      below above layout frame pending = .ok r → r.Sound rule

/-- A seat is sound if the columns it comes from are. -/
theorem Part.sound_of_seat (hexisting : ∀ c ∈ existing, c.Sound rule)
    (hmembers : ∀ p ∈ part.members, p.column.Sound rule) (h : part.seat above existing = .ok b) :
    ∀ c ∈ b, c.Sound rule := by
  intro c hc
  rcases Part.mem_of_seat h hc with hmem | ⟨p, hp, rfl⟩
  · exact hexisting c hmem
  · exact (Column.sound_rename_iff _ _).mpr (hmembers p hp)

/-- So is a seat with the requests that lead into it, for those are merged into its group. -/
theorem Part.sound_of_fill (hbelow : MergeBelow.Preserves rule below)
    (hb : ∀ c ∈ b, c.Sound rule) (hmembers : ∀ p ∈ part.members, p.column.Sound rule)
    (h : part.fill below above layout b = .ok d) : ∀ c ∈ d, c.Sound rule := by
  rcases Part.fill_eq_ok h with ⟨-, rfl⟩ | ⟨-, -, r, hr, rfl⟩
  · exact hb
  · have hseat : ∀ f ∈ b.bind Column.group?, f.Sound rule := by
      intro f hf
      obtain ⟨c, hc, hgroup⟩ := Option.bind_eq_some_iff.mp hf
      exact (hb c hc).frame hgroup
    have hdeeper : ∀ q ∈ part.deeper (part.child layout).1, q.column.Sound rule := by
      intro q hq
      obtain ⟨p, hp, -, hcolumn⟩ := Part.exists_of_mem_deeper hq
      exact hcolumn ▸ hmembers p hp
    rintro c ⟨⟩
    exact (Column.sound_group_iff _ _).mpr (hbelow _ _ _ _ r hseat hdeeper hr)

namespace Frame

/-- No frame counts as the empty one. -/
theorem sound_getD {frame : Option Frame} (h : ∀ f ∈ frame, f.Sound rule) :
    (frame.getD empty).Sound rule := by
  cases frame with
  | none => exact sound_empty
  | some f => exact h f rfl

/-- **One level** keeps soundness if the level below does: its columns are what becomes of their
names. -/
theorem preserves_mergeLevel (hbelow : MergeBelow.Preserves rule below) :
    MergeBelow.Preserves rule (mergeLevel below) := by
  intro above layout frame pending r hframe hpending h
  have hf : (frame.getD empty).Sound rule := sound_getD hframe
  obtain ⟨hnames, hjoin, hlength, -⟩ := (mergeLevel_eq_ok_iff hf.nodup_names).mp h
  have hnodup : r.names.Nodup := hnames ▸ nodup_placedNames hf.nodup_names
  refine sound_iff.mpr ⟨hnodup, hlength, fun c hc => ?_⟩
  -- a column is the seat of its name, with what is merged into that
  obtain ⟨b, hseat, hfill⟩ := bind_eq_ok_iff.mp (hjoin c.name)
  have hmembers : ∀ p ∈ (Part.named pending c.name).members, p.column.Sound rule :=
    fun p hp => hpending p (Part.mem_named.mp hp).1
  have hb := Part.sound_of_seat (fun e he => hf.column he) hmembers hseat
  exact Part.sound_of_fill hbelow hb hmembers hfill c (column?_name hnodup hc)

/-- All levels do, by induction on the depth. -/
theorem preserves_mergeBelow (depth : Nat) : MergeBelow.Preserves rule (mergeBelow depth) := by
  induction depth with
  | zero =>
    intro above layout frame pending r hframe _ h
    exact Except.ok.inj h ▸ sound_getD hframe
  | succ depth ih =>
    intro above layout frame pending r hframe hpending h
    by_cases hp : pending = []
    · subst hp
      rw [mergeBelow_nil] at h
      exact Except.ok.inj h ▸ sound_getD hframe
    · rw [mergeBelow_succ depth above layout frame hp] at h
      exact preserves_mergeLevel ih above layout frame pending r hframe hpending h

/-- **Sound columns are merged into a sound frame.** -/
theorem sound_merge {frame : Option Frame} {requests : List Request} {r : Frame}
    (hframe : ∀ f ∈ frame, f.Sound rule) (hrequests : ∀ q ∈ requests, q.column.Sound rule)
    (h : merge frame requests layout = .ok r) : r.Sound rule :=
  preserves_mergeBelow _ [] layout frame _ r hframe
    (List.forall_mem_map.mpr fun q hq => hrequests q hq) h

end Frame

end Merge

/-! ### Taking out -/

namespace Column

variable {paths : List (List String)} {c d : Column}

/-- **What is left of a sound column is sound.** -/
theorem Sound.prune? (hc : c.Sound rule) (h : c.prune? paths = some d) : d.Sound rule := by
  induction c using groupInduction generalizing d paths with
  | leaf c hleaf =>
    obtain ⟨-, ⟨-, rfl⟩ | ⟨f, hf, -⟩⟩ := prune?_eq_some h
    · exact hc
    · exact absurd (hleaf.symm.trans hf) (by simp)
  | group label f ih =>
    obtain ⟨-, ⟨hleaf, -⟩ | ⟨g, hg, rfl⟩⟩ := prune?_eq_some h
    · exact absurd hleaf (by simp [group?])
    · -- names and lengths are those of the columns of which something is left
      obtain rfl : f = g := Option.some.inj hg
      have hf : f.Sound rule := (sound_group_iff _ _).mp hc
      have hsub : (f.pruned (pathsThrough label paths)).names.Sublist f.names :=
        Frame.names_pruned_sublist f _
      refine (sound_group_iff _ _).mpr (Frame.sound_iff.mpr
        ⟨hf.nodup_names.sublist hsub, fun e he => ?_, fun e he => ?_⟩)
      · obtain ⟨c, hmem, hprune⟩ := List.mem_filterMap.mp he
        exact (length_of_prune? hprune).trans (hf.length_of_mem hmem)
      · obtain ⟨c, hmem, hprune⟩ := List.mem_filterMap.mp he
        exact ih c hmem (hf.of_mem hmem) hprune

/-- **What is taken out of a sound column is sound.** -/
theorem Sound.taken (hc : c.Sound rule) {e : Taken} (he : e ∈ c.taken paths) :
    e.2.2.Sound rule := by
  induction c using groupInduction generalizing e paths with
  | leaf c hleaf =>
    by_cases hmem : [] ∈ pathsThrough c.name paths
    · rw [taken_of_mem hmem, List.mem_singleton] at he
      exact he ▸ hc
    · rw [taken_leaf hleaf hmem] at he
      exact absurd he List.not_mem_nil
  | group label f ih =>
    by_cases hmem : [] ∈ pathsThrough label paths
    · rw [taken_of_mem (c := .group label f) hmem, List.mem_singleton] at he
      exact he ▸ hc
    · rw [taken_group hmem] at he
      obtain ⟨e', he', rfl⟩ := List.mem_map.mp he
      obtain ⟨i, c, hi, e'', he'', rfl⟩ := mem_takenAll.mp he'
      have hcolumn : c ∈ f.columns := List.mem_of_getElem? hi
      have hsound : e''.2.2.Sound rule :=
        ih c hcolumn (((sound_group_iff _ _).mp hc).of_mem hcolumn) he''
      exact hsound

end Column

namespace Frame

variable {f g : Frame}

/-- **A removal from a sound frame** leaves a sound frame and sound columns. -/
theorem sound_remove (hf : f.Sound rule) {paths : List Path} {removal : Removal}
    (h : f.remove paths = .ok removal) :
    removal.frame.Sound rule ∧ ∀ r ∈ removal.removed, r.column.Sound rule := by
  obtain ⟨⟨⟩, -, h⟩ := bind_eq_ok_iff.mp h
  simp only [Column.stripAll_eq] at h
  obtain ⟨frame, hframe, h⟩ := bind_eq_ok_iff.mp h
  obtain rfl := Except.ok.inj h
  refine ⟨sound_of_withRowCount (fun d hd => ?_) hframe, fun r hr => ?_⟩
  · obtain ⟨c, hc, hprune⟩ := List.mem_filterMap.mp hd
    exact (hf.of_mem hc).prune? hprune
  · obtain ⟨e, he, rfl⟩ := List.mem_map.mp hr
    obtain ⟨⟨c, i⟩, hc, hmem⟩ := List.mem_flatMap.mp he
    obtain ⟨e', he', rfl⟩ := List.mem_map.mp hmem
    exact (hf.of_mem (List.fst_mem_of_mem_zipIdx hc)).taken he'

/-! ### Moving -/

/-- **Columns that have been moved** leave a sound frame. -/
theorem sound_move (hf : f.Sound rule) {paths : List Path} {target : Path → Path}
    (h : f.move paths target = .ok g) : g.Sound rule := by
  obtain ⟨removal, hremoval, h⟩ := bind_eq_ok_iff.mp h
  obtain ⟨hframe, hremoved⟩ := sound_remove hf hremoval
  refine sound_merge ?_ (List.forall_mem_map.mpr fun r hr => hremoved r hr) h
  rintro _ ⟨⟩
  exact hframe

theorem sound_rename (hf : f.Sound rule) {path : Path} {name : String}
    (h : f.rename path name = .ok g) : g.Sound rule := by
  unfold rename at h
  split at h
  · obtain ⟨c, -, rfl⟩ := map_eq_ok_iff.mp h
    exact hf
  · exact sound_move hf h

theorem sound_group (hf : f.Sound rule) {paths : List Path} {name : String}
    (h : f.group paths name = .ok g) : g.Sound rule :=
  sound_move hf h

theorem sound_ungroup (hf : f.Sound rule) {path : Path} (h : f.ungroup path = .ok g) :
    g.Sound rule := by
  obtain ⟨c, -, h⟩ := bind_eq_ok_iff.mp h
  split at h
  · exact sound_move hf h
  · exact absurd h (by simp)

end Frame

end Colonnade
