import Colonnade.Csv.Sheet
import Colonnade.Proofs.Frame.Leaves
import Colonnade.Proofs.Merge.Order
import Colonnade.Proofs.Merge.Rearranged
import Colonnade.Proofs.Soundness.Basic

/-!
# Flat and nested frames of delimited text

The same text may be read into columns side by side, under their headers, or with each header split
into a path. The nested frame takes a long way: the columns are merged into no frame at all, level by
level. What this file says is that nothing happens to them on it.

* `Csv.shows_column` – the cells of a column are what the fields of the records show, one for each
  record, whatever becomes of the header;
* `Frame.leafPaths_merge_perm`, `Frame.names_merge` – leaves that are merged into nothing are the
  leaves of the result, and names come first in each group in the order of the requests;
* `Frame.ofCsv_nested_eq_flat` – so if the nested frame can be read then the flat one can, and they
  have the same columns.
-/

namespace Colonnade

/-! ### Cells -/

namespace Csv

/-- **What a field shows as a cell**: a null if it is empty, and otherwise its text. -/
def Shows (encoding : Encoding) (field : Field) (cell : Option Value) : Prop :=
  if field = [] then cell = none
  else ∃ text, encoding.decode? field = some text ∧ cell = some (.ofText text)

variable {encoding : Encoding} {width : Nat} {rows : List (List (Option String))}
variable {rest : List Record}

theorem shows_of_decodeCell {field : Field} {cell : Option String}
    (h : decodeCell encoding field = .ok cell) : Shows encoding field (cell.map Value.ofText) := by
  rw [decodeCell] at h
  rw [Shows]
  cases field with
  | nil =>
    obtain rfl := Except.ok.inj h
    rfl
  | cons b bytes =>
    rw [if_neg (List.cons_ne_nil _ _)]
    obtain ⟨text, htext, rfl⟩ := map_eq_ok_iff.mp h
    refine ⟨text, ?_, rfl⟩
    rw [decodeField] at htext
    cases hdecode : encoding.decode? (b :: bytes) with
    | none => exact absurd htext (by simp [hdecode])
    | some s => simpa [hdecode] using htext

/-- **Rows that are read** have the width of the header, and each of their fields has been decoded. -/
theorem forall₂_of_decodeRows {number : Nat} (h : decodeRows encoding width number rest = .ok rows) :
    List.Forall₂ (fun record row => record.fields.length = width ∧
      List.Forall₂ (fun field cell => decodeCell encoding field = .ok cell) record.fields row)
      rest rows := by
  induction rest generalizing number rows with
  | nil =>
    obtain rfl := Except.ok.inj h
    exact .nil
  | cons record rest ih =>
    obtain ⟨row, hrow, h⟩ := bind_eq_ok_iff.mp h
    obtain ⟨others, hothers, h⟩ := bind_eq_ok_iff.mp h
    obtain rfl := Except.ok.inj h
    refine .cons ?_ (ih hothers)
    by_cases hwidth : record.fields.length = width
    · rw [decodeRow, if_pos hwidth] at hrow
      exact ⟨hwidth, mapM_eq_ok_iff.mp (mapError_eq_ok_iff.mp hrow)⟩
    · rw [decodeRow, if_neg hwidth] at hrow
      exact absurd hrow (by simp)

/-- **A column shows the fields in its place**, one for each record. -/
theorem shows_column {number j : Nat} (h : decodeRows encoding width number rest = .ok rows)
    (hj : j < width) :
    List.Forall₂ (fun record cell => ∃ field, record.fields[j]? = some field ∧
      Shows encoding field cell) rest
      ((rows.map fun row => row[j]?.join).map (Option.map Value.ofText)) := by
  rw [List.map_map, List.forall₂_map_right_iff]
  refine (forall₂_of_decodeRows h).imp fun record row ⟨hwidth, hfields⟩ => ?_
  obtain ⟨hlength, hget⟩ := List.forall₂_iff_get.mp hfields
  have hfield : j < record.fields.length := hwidth ▸ hj
  have hcell : j < row.length := hlength ▸ hfield
  refine ⟨record.fields[j], List.getElem?_eq_getElem hfield, ?_⟩
  rw [Function.comp_apply, List.getElem?_eq_getElem hcell]
  exact shows_of_decodeCell (hget j hfield hcell)

/-- The sheet of records, the first of which is the header. -/
theorem ofBytes_eq_ok {delimiter : UInt8} {bytes : List UInt8} {header : Record} {s : Sheet}
    (hrecords : records delimiter bytes = header :: rest)
    (h : Sheet.ofBytes encoding delimiter bytes = .ok s) :
    header.fields.mapM (decodeField encoding) = .ok s.headers ∧
      decodeRows encoding s.headers.length 1 rest = .ok s.rows := by
  simp only [Sheet.ofBytes, hrecords] at h
  obtain ⟨headers, hheaders, h⟩ := bind_eq_ok_iff.mp h
  obtain ⟨rows, hrows, h⟩ := bind_eq_ok_iff.mp h
  obtain rfl := Except.ok.inj h
  exact ⟨hheaders, hrows⟩

end Csv

/-! ### The columns of a sheet -/

namespace Column

theorem length_ofTexts (name : String) (texts : List (Option String)) :
    (ofTexts name texts).length = texts.length :=
  List.length_map _

theorem wellFormed_ofTexts (name : String) (texts : List (Option String)) :
    (ofTexts name texts).WellFormed := by
  have hsound : (ofTexts name texts).Sound ⟨True, True⟩ := sound_ofTexts name texts
  exact hsound.wellFormed trivial

end Column

namespace Csv

namespace Sheet

variable {s : Sheet} {separator : Char}

theorem map_fst_columns (s : Sheet) : s.columns.map Prod.fst = s.headers := by
  rw [columns, List.map_map]
  exact List.zipIdx_map_fst 0 s.headers

theorem getElem?_columns (s : Sheet) (j : Nat) : s.columns[j]? = s.headers[j]?.map fun header =>
    (header, .ofTexts header (s.rows.map fun row => row[j]?.join)) := by
  rw [columns, List.getElem?_map, List.getElem?_zipIdx, Option.map_map, Nat.zero_add]
  rfl

/-- Every column is a column of texts under its header, as long as there are rows. -/
theorem exists_texts {e : String × Column} (he : e ∈ s.columns) :
    ∃ texts, e.2 = .ofTexts e.1 texts ∧ texts.length = s.rows.length := by
  obtain ⟨⟨header, j⟩, -, rfl⟩ := List.mem_map.mp he
  exact ⟨_, rfl, by simp⟩

theorem request_eq_ok_iff {header : String} {column : Column} {r : Request} :
    request separator header column = .ok r ↔
      ∃ path, Path.ofText? separator header = some path ∧ r = { path, column } := by
  rw [request, Path.read]
  cases Path.ofText? separator header with
  | none => simp
  | some path => simp [eq_comm]

/-- The columns have the headers as their names. -/
theorem names_columns (s : Sheet) : (s.columns.map Prod.snd).map Column.name = s.headers := by
  rw [← map_fst_columns, List.map_map]
  refine List.map_congr_left fun e he => ?_
  obtain ⟨texts, htexts, -⟩ := exists_texts he
  rw [Function.comp_apply, htexts]
  rfl

/-- **The flat frame** is there if and only if all headers differ. -/
theorem toFrame_none_eq_ok_iff {f : Frame} :
    s.toFrame none = .ok f ↔ s.headers.Nodup ∧ f = ⟨s.columns.map Prod.snd, s.rows.length⟩ := by
  have hlength : ∀ c ∈ s.columns.map Prod.snd, c.length = s.rows.length := by
    refine List.forall_mem_map.mpr fun e he => ?_
    obtain ⟨texts, htexts, hlength⟩ := exists_texts he
    rw [htexts, Column.length_ofTexts, hlength]
  rw [toFrame, mapError_eq_ok_iff, Frame.withRowCount_eq_ok_iff, names_columns]
  exact ⟨fun ⟨hf, hnodup, _⟩ => ⟨hnodup, hf⟩, fun ⟨hnodup, hf⟩ => ⟨hf, hnodup, hlength⟩⟩

/-- **The requests for the columns of a sheet**: one for each column, at the path that its header is
split into. -/
def Asks (s : Sheet) (separator : Char) (requests : List Request) : Prop :=
  List.Forall₂ (fun e r => ∃ path, Path.ofText? separator e.1 = some path ∧
    r = { path, column := e.2 }) s.columns requests

/-- **The nested frame** is a merge of the columns into nothing. -/
theorem toFrame_some_eq_ok {f : Frame} (h : s.toFrame (some separator) = .ok f) :
    ∃ requests, s.Asks separator requests ∧ Frame.merge none requests none = .ok f := by
  obtain ⟨requests, hrequests, h⟩ := bind_eq_ok_iff.mp h
  refine ⟨requests, ?_, mapError_eq_ok_iff.mp h⟩
  exact (mapM_eq_ok_iff.mp hrequests).imp fun _ _ => request_eq_ok_iff.mp

namespace Asks

variable {requests : List Request} (h : s.Asks separator requests)

include h

/-- The columns asked for are leaves, as long as there are rows. -/
theorem column_of_mem {q : Request} (hq : q ∈ requests) :
    q.column.WellFormed ∧ q.column.length = s.rows.length ∧ q.column.group? = none := by
  obtain ⟨e, he, path, -, rfl⟩ := exists_mem_of_forall₂ h hq
  obtain ⟨texts, htexts, hlength⟩ := exists_texts he
  exact htexts ▸ ⟨Column.wellFormed_ofTexts _ _, (Column.length_ofTexts _ _).trans hlength, rfl⟩

/-- The paths are those that the headers are split into, -/
theorem mapM_headers : s.headers.mapM (Path.ofText? separator) = some (requests.map Request.path) := by
  rw [mapM_eq_some_iff, ← s.map_fst_columns, List.forall₂_map_left_iff, List.forall₂_map_right_iff]
  refine h.imp fun e q hq => ?_
  obtain ⟨path, hpath, rfl⟩ := hq
  exact hpath

/-- so headers differ if the paths do. -/
theorem nodup_headers (hpaths : (requests.map Request.path).Nodup) : s.headers.Nodup := by
  have hmap : List.Forall₂ Eq (s.headers.map (Path.ofText? separator))
      ((requests.map Request.path).map some) := by
    rw [List.forall₂_map_left_iff, List.forall₂_map_right_iff]
    exact mapM_eq_some_iff.mp h.mapM_headers
  rw [List.forall₂_eq_eq_eq] at hmap
  exact List.Nodup.of_map _ (hmap ▸ hpaths.map (Option.some_injective _))

/-- The request of a header is for the column in its place. -/
theorem column_of_getElem? {j : Nat} {header : String} {q : Request}
    (hj : s.headers[j]? = some header) (hq : requests[j]? = some q) :
    q.column = .ofTexts header (s.rows.map fun row => row[j]?.join) ∧
      q.column ∈ s.columns.map Prod.snd := by
  have hget := s.getElem?_columns j
  rw [hj, Option.map_some] at hget
  obtain ⟨hjc, hcolumn⟩ := List.getElem?_eq_some_iff.mp hget
  obtain ⟨hjq, rfl⟩ := List.getElem?_eq_some_iff.mp hq
  obtain ⟨path, -, hrequest⟩ := (List.forall₂_iff_get.mp h).2 j hjc hjq
  have hsnd := congrArg Request.column hrequest
  rw [List.get_eq_getElem, List.get_eq_getElem] at hsnd
  refine ⟨by rw [hsnd, hcolumn], ?_⟩
  exact hsnd ▸ List.mem_map_of_mem (List.getElem_mem hjc)

end Asks

end Sheet

end Csv

/-! ### Leaves merged into nothing -/

/-- The name that a path leads to in a group, if it leads into it. -/
def Path.nextIn? (names : List String) (p : Path) : Option String :=
  if names.isPrefixOf p.segments then p.segments[names.length]? else none

namespace Frame

section Merge

variable {requests : List Request} {n : Nat} {r : Frame}

/-- Where nothing is, there is a frame without columns. -/
theorem wellFormed_nothing : ((none : Option Frame).getD empty).WellFormed :=
  wellFormed_empty

/-- The leaves of the result are those of the requests. -/
theorem hasLeaf_merge_leaves (hwf : ∀ q ∈ requests, q.column.WellFormed)
    (hleaf : ∀ q ∈ requests, q.column.group? = none) (h : merge none requests none = .ok r)
    (path : Path) (c : Column) :
    r.HasLeaf path c ↔ ∃ q ∈ requests, path = q.path ∧ c = q.column.rename path.last := by
  have hempty : ¬empty.HasLeaf path c := fun hc => find?_empty_ne hc.2 (get_eq_ok_iff.mp hc.1)
  rw [hasLeaf_merge_iff wellFormed_nothing hwf h]
  simp only [Option.getD_none, hempty, false_or]
  refine exists_congr fun q => and_congr_right fun hq => ⟨?_, ?_⟩
  · rintro (⟨rfl, rfl, -⟩ | ⟨rest, -, g, hg, -⟩)
    · exact ⟨rfl, rfl⟩
    · exact absurd ((hleaf q hq).symm.trans hg) (by simp)
  · rintro ⟨rfl, rfl⟩
    exact Or.inl ⟨rfl, rfl, by rw [Column.group?_rename, hleaf q hq]⟩

/-- No two requests are for one path. -/
theorem nodup_paths_of_merge (hwf : ∀ q ∈ requests, q.column.WellFormed) {frame : Option Frame}
    (hf : (frame.getD empty).WellFormed) (h : merge frame requests none = .ok r) :
    (requests.map Request.path).Nodup := by
  rcases eq_or_ne requests [] with rfl | hne
  · exact List.nodup_nil
  · have hmergeable := (exists_merge_iff hf hne hwf).mp ⟨r, h, rfl⟩
    refine List.pairwise_map.mpr
      ((List.pairwise_map.mp hmergeable.distinct).imp fun {q q'} hqq heq => ?_)
    rw [Pending.names_ofRequest, Pending.names_ofRequest] at hqq
    exact hqq (congrArg Path.segments heq)

theorem wellFormed_merge_none (hwf : ∀ q ∈ requests, q.column.WellFormed)
    (h : merge none requests none = .ok r) : r.WellFormed :=
  wellFormed_of_mergeBelow wellFormed_nothing (List.forall_mem_map.mpr hwf)
    (fun _ hp => length_rest_lt_deepest hp) h

/-- **Each request has one leaf** in the result. -/
theorem leafPaths_merge_perm (hwf : ∀ q ∈ requests, q.column.WellFormed)
    (hleaf : ∀ q ∈ requests, q.column.group? = none) (h : merge none requests none = .ok r) :
    r.leafPaths.Perm (requests.map Request.path) := by
  have hr : r.WellFormed := wellFormed_merge_none hwf h
  refine (List.perm_ext_iff_of_nodup (nodup_leafPaths hr)
    (nodup_paths_of_merge hwf wellFormed_nothing h)).mpr fun path => ?_
  rw [mem_leafPaths hr, List.mem_map]
  simp only [hasLeaf_merge_leaves hwf hleaf h]
  constructor
  · rintro ⟨c, q, hq, rfl, -⟩
    exact ⟨q, hq, rfl⟩
  · rintro ⟨q, hq, rfl⟩
    exact ⟨_, q, hq, rfl, rfl⟩

/-- The result is as long as the columns. -/
theorem rowCount_merge (hne : requests ≠ [])
    (hrows : ∀ q ∈ requests, q.column.WellFormed ∧ q.column.length = n)
    (h : merge none requests none = .ok r) : r.rowCount = n := by
  have hgood : OkOrConflict (fun r => r.rowCount = n) (merge none requests none) :=
    mergeBelow_okOrConflict wellFormed_nothing (by simpa using hne)
      (fun h => absurd rfl h) (List.forall_mem_map.mpr hrows) fun _ hp => length_rest_lt_deepest hp
  rcases hgood with ⟨r', hr', hn⟩ | ⟨e, he, -⟩
  · exact Except.ok.inj (h.symm.trans hr') ▸ hn
  · exact absurd (h.symm.trans he) (by simp)

/-- **Names come first in every group in the order of the requests**, for nothing was there. -/
theorem names_merge (hwf : ∀ q ∈ requests, q.column.WellFormed)
    (hleaf : ∀ q ∈ requests, q.column.group? = none) (h : merge none requests none = .ok r)
    {names : List String} {g : Frame} (hg : r.groupAt? names = some g) :
    g.names = ((requests.map Request.path).filterMap (Path.nextIn? names)).eraseDups := by
  have hbase : empty.HadAt ((requests.map (Pending.ofRequest none)).map Pending.entry) names
      empty := by
    cases names with
    | nil => exact Or.inl rfl
    | cons name rest =>
      refine Or.inr (Or.inr ⟨rfl, rfl, fun e he below _ => ?_⟩)
      rw [entries_ofRequest] at he
      obtain ⟨q, hq, rfl⟩ := List.mem_map.mp he
      cases below with
      | nil => exact (congrArg (Option.bind · Column.group?) (Column.descend?_nil _)).trans (hleaf q hq)
      | cons label below => simp [Column.descend?_cons_of_group?_eq_none (hleaf q hq)]
  have hnames := names_of_mergeBelow wellFormed_nothing (List.forall_mem_map.mpr hwf)
    (fun _ hp => length_rest_lt_deepest hp) h hg hbase
  rw [Option.bind_none, placedNames_none] at hnames
  have hnew := newNames_pendingAt none requests names empty.names
  have hnothing : empty.names = [] := rfl
  rw [hnames, ← pendingAt, hnew, newcomers, hnothing, List.filterMap_map, List.nil_append]
  exact List.filter_eq_self.mpr fun x _ => by simp

end Merge

/-- **The flat and the nested frame of the same text agree.** If the text can be read with its headers
split into paths, then it can be read without. Both frames have a row for each record. The nested one
has a leaf for each header, which is the flat column of the header under the last of its names, with a
cell for every record: a null where the field is empty, the decoded text elsewhere. In every group,
names come in the order in which headers first lead to them. -/
theorem ofCsv_nested_eq_flat {encoding : Encoding} {delimiter : UInt8} {separator : Char}
    {bytes : List UInt8} {header : Csv.Record} {rest : List Csv.Record} {nested : Frame}
    (hrecords : Csv.records delimiter bytes = header :: rest) (hheader : header.fields ≠ [])
    (hnested : ofCsv encoding delimiter (some separator) bytes = .ok nested) :
    ∃ (headers : List String) (paths : List Path) (flat : Frame),
      header.fields.mapM (Csv.decodeField encoding) = .ok headers ∧
      headers.mapM (Path.ofText? separator) = some paths ∧
      ofCsv encoding delimiter none bytes = .ok flat ∧ flat.names = headers ∧
      flat.rowCount = rest.length ∧ nested.rowCount = rest.length ∧
      nested.leafPaths.Perm paths ∧
      (∀ (j : Nat) header path, headers[j]? = some header → paths[j]? = some path →
        ∃ c d, flat.column? header = some c ∧ nested.HasLeaf path d ∧ d = c.rename path.last ∧
          d.cells = c.cells ∧
          List.Forall₂ (fun record cell => ∃ field, record.fields[j]? = some field ∧
            Csv.Shows encoding field cell) rest d.cells) ∧
      ∀ names g, nested.groupAt? names = some g →
        g.names = (paths.filterMap (Path.nextIn? names)).eraseDups := by
  obtain ⟨s, hs, hframe⟩ := bind_eq_ok_iff.mp hnested
  obtain ⟨hheaders, hrows⟩ := Csv.ofBytes_eq_ok hrecords hs
  obtain ⟨requests, hasks, hmerge⟩ := Csv.Sheet.toFrame_some_eq_ok hframe
  have hwf : ∀ q ∈ requests, q.column.WellFormed := fun q hq => (hasks.column_of_mem hq).1
  have hleaf : ∀ q ∈ requests, q.column.group? = none := fun q hq => (hasks.column_of_mem hq).2.2
  have hnodup : s.headers.Nodup :=
    hasks.nodup_headers (nodup_paths_of_merge hwf wellFormed_nothing hmerge)
  have hflat : ofCsv encoding delimiter none bytes =
      .ok ⟨s.columns.map Prod.snd, s.rows.length⟩ :=
    bind_eq_ok_iff.mpr ⟨s, hs, Csv.Sheet.toFrame_none_eq_ok_iff.mpr ⟨hnodup, rfl⟩⟩
  have hlength : rest.length = s.rows.length := (Csv.forall₂_of_decodeRows hrows).length_eq
  have hne : requests ≠ [] := by
    rintro rfl
    have hcolumns : s.columns = [] := List.forall₂_nil_right_iff.mp hasks
    have hwidth := (mapM_eq_ok_iff.mp hheaders).length_eq
    rw [← s.map_fst_columns, hcolumns] at hwidth
    exact hheader (List.length_eq_zero_iff.mp hwidth)
  have hrowCount : nested.rowCount = rest.length :=
    hlength ▸ rowCount_merge hne (fun q hq => ⟨hwf q hq, (hasks.column_of_mem hq).2.1⟩) hmerge
  refine ⟨s.headers, requests.map Request.path, _, hheaders, hasks.mapM_headers, hflat,
    s.names_columns, hlength.symm, hrowCount, leafPaths_merge_perm hwf hleaf hmerge,
    fun j h path hj hpath => ?_, fun names g hg => names_merge hwf hleaf hmerge hg⟩
  -- the leaf of a header comes from the column in its place
  obtain ⟨q, hq, rfl⟩ := Option.map_eq_some_iff.mp (List.getElem?_map ▸ hpath)
  obtain ⟨hcolumn, hmem⟩ := hasks.column_of_getElem? hj hq
  have hnames : (⟨s.columns.map Prod.snd, s.rows.length⟩ : Frame).names.Nodup := by
    rwa [names, s.names_columns]
  have hfind := column?_name hnames hmem
  rw [show q.column.name = h from hcolumn ▸ rfl] at hfind
  refine ⟨q.column, q.column.rename q.path.last, hfind,
    (hasLeaf_merge_leaves hwf hleaf hmerge _ _).mpr ⟨q, List.mem_of_getElem? hq, rfl, rfl⟩, rfl, ?_, ?_⟩
  · rw [hcolumn]
    rfl
  · rw [hcolumn]
    exact Csv.shows_column hrows (List.getElem?_eq_some_iff.mp hj).1

/-- Two headers for one group, apart from each other and with blanks around a name; an empty field. -/
theorem ofCsv_nested_eq_flat_interleaved :
    -- the lines `a.x,b,a. y`, `1,,2` and `3,4,`
    let bytes : List UInt8 := [0x61, 0x2E, 0x78, 0x2C, 0x62, 0x2C, 0x61, 0x2E, 0x20, 0x79, 0x0A,
      0x31, 0x2C, 0x2C, 0x32, 0x0A, 0x33, 0x2C, 0x34, 0x2C, 0x0A]
    let header : Csv.Record := ⟨⟨0, 1⟩, [[0x61, 0x2E, 0x78], [0x62], [0x61, 0x2E, 0x20, 0x79]]⟩
    let rest : List Csv.Record :=
      [⟨⟨11, 2⟩, [[0x31], [], [0x32]]⟩, ⟨⟨16, 3⟩, [[0x33], [0x34], []]⟩]
    ∃ nested, (Csv.records 0x2C bytes = header :: rest ∧ header.fields ≠ [] ∧
        ofCsv .utf8 0x2C (some '.') bytes = .ok nested) ∧
      ∃ (headers : List String) (paths : List Path) (flat : Frame),
        header.fields.mapM (Csv.decodeField .utf8) = .ok headers ∧
        headers.mapM (Path.ofText? '.') = some paths ∧
        ofCsv .utf8 0x2C none bytes = .ok flat ∧ flat.names = headers ∧
        flat.rowCount = rest.length ∧ nested.rowCount = rest.length ∧
        nested.leafPaths.Perm paths ∧
        (∀ (j : Nat) header path, headers[j]? = some header → paths[j]? = some path →
          ∃ c d, flat.column? header = some c ∧ nested.HasLeaf path d ∧ d = c.rename path.last ∧
            d.cells = c.cells ∧
            List.Forall₂ (fun record cell => ∃ field, record.fields[j]? = some field ∧
              Csv.Shows .utf8 field cell) rest d.cells) ∧
        ∀ names g, nested.groupAt? names = some g →
          g.names = (paths.filterMap (Path.nextIn? names)).eraseDups := by
  intro bytes header rest
  have hrecords : Csv.records 0x2C bytes = header :: rest := by decide
  have hheader : header.fields ≠ [] := by decide
  obtain ⟨nested, hnested⟩ : ∃ nested, ofCsv .utf8 0x2C (some '.') bytes = .ok nested := by
    have hread : (ofCsv .utf8 0x2C (some '.') bytes).toOption.isSome = true := by cbv
    rcases hcsv : ofCsv .utf8 0x2C (some '.') bytes with e | nested
    · rw [hcsv] at hread
      exact absurd hread (by simp [Except.toOption])
    · exact ⟨nested, rfl⟩
  exact ⟨nested, ⟨hrecords, hheader, hnested⟩,
    ofCsv_nested_eq_flat hrecords hheader hnested⟩

end Frame

end Colonnade
