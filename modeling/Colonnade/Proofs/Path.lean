import Colonnade.Error
import Colonnade.Proofs.Trimming
import Mathlib.Data.String.Basic

/-!
# Paths that are written and read again

A path is written with points between its segments, and a text is read as a path by what stands between
the points. Three things may be lost on the way: a segment with a point in it is taken apart, white space
at its edges is trimmed off, and an empty segment is left out. A segment is `Plain` if none of this can
happen to it.

* `Path.plain_of_mem_pieces` – whatever is read from a text is plain;
* `Path.pieces_intercalate` – plain segments come back from the text that they are joined to;
* `Path.pieces_eq_nil_iff` – a text from which nothing is read has separators and white space, and nothing
  else.

So reading is the inverse of writing on the paths of plain segments, which are those that can be read at
all: `Path.text_reads_back`.
-/

namespace Colonnade

/-- **What stands between separators** is all of a list but the separators. -/
theorem forall_mem_splitOnP {α : Type} {separates : α → Bool} {P : α → Prop} {as : List α} :
    (∀ piece ∈ as.splitOnP separates, ∀ a ∈ piece, P a) ↔ ∀ a ∈ as, separates a = false → P a := by
  induction as with
  | nil => simp
  | cons a as ih =>
    rw [List.splitOnP_cons_eq_if_modifyHead, List.forall_mem_cons, ← ih]
    split
    next ha => simp [ha]
    next ha =>
      -- `a` joins the piece in front, and there is always one
      obtain ⟨piece, pieces, hpieces⟩ := List.exists_cons_of_ne_nil (List.splitOnP_ne_nil separates as)
      simp [hpieces, ha, and_assoc]

namespace Path

variable {separator : Char} {s segment : String} {p : Path}

/-- **A segment that reading does not touch**: there is something in it, it neither begins nor ends with
white space, and the separator is not in it. -/
structure Plain (separator : Char) (segment : String) : Prop where
  ne_empty : segment ≠ ""
  head : ∀ c ∈ segment.toList.head?, Text.isBlank c = false
  last : ∀ c ∈ segment.toList.getLast?, Text.isBlank c = false
  undivided : separator ∉ segment.toList

/-- What is read from a text: the pieces between separators, trimmed, without those that are empty. -/
def pieces (separator : Char) (s : String) : List String :=
  ((s.toList.splitOn separator).map fun cs => String.ofList (Text.trimChars cs)).filter
    fun segment => !segment.isEmpty

theorem ofText?_eq (separator : Char) (s : String) :
    ofText? separator s = ofSegments? (pieces separator s) := by
  rw [ofText?, pieces, List.splitOn_eq_splitOnP]

/-- A path is read from a text if its segments are the pieces of it, -/
theorem read_eq_ok_iff : read separator s = .ok p ↔ pieces separator s = p.segments := by
  rw [read, ofText?_eq, ofSegments?]
  by_cases h : pieces separator s = []
  · simp [h, p.nonempty.symm]
  · simp [h, Path.ext_iff]

/-- and there is none if the text has no pieces. -/
theorem read_eq_error_iff {e : FrameError} :
    read separator s = .error e ↔ e = .emptyPath ∧ pieces separator s = [] := by
  rw [read, ofText?_eq, ofSegments?]
  by_cases h : pieces separator s = []
  · simp [h, eq_comm]
  · simp [h]

theorem mem_pieces : segment ∈ pieces separator s ↔
    segment ≠ "" ∧ ∃ cs ∈ s.toList.splitOn separator, Text.trimChars cs = segment.toList := by
  simp [pieces, and_comm, String.ofList_eq]

/-- **Whatever is read is plain.** -/
theorem plain_of_mem_pieces (h : segment ∈ pieces separator s) : Plain separator segment := by
  obtain ⟨hne, cs, hcs, hsegment⟩ := mem_pieces.mp h
  have htrimmed : Text.trimChars segment.toList = segment.toList := by
    rw [← hsegment]
    exact Text.trimChars_trimChars cs
  obtain ⟨hhead, hlast⟩ := Text.trimChars_eq_self_iff.mp htrimmed
  refine ⟨hne, hhead, hlast, fun hmem => ?_⟩
  rw [← hsegment] at hmem
  rw [List.splitOn_eq_splitOnP] at hcs
  have hpiece := forall_mem_splitOnP (P := fun c => (c == separator) = false).mpr (fun _ _ hc => hc) cs hcs
  simpa using hpiece separator (Text.trimChars_subset cs hmem)

/-- A text that is all white space between separators has no pieces. -/
theorem pieces_eq_nil_iff :
    pieces separator s = [] ↔ ∀ c ∈ s.toList, c = separator ∨ Text.isBlank c = true := by
  have hnone : pieces separator s = [] ↔
      ∀ cs ∈ s.toList.splitOn separator, ∀ c ∈ cs, Text.isBlank c = true := by
    simp [pieces, List.filter_eq_nil_iff, Text.trimChars_eq_nil_iff]
  rw [hnone, List.splitOn_eq_splitOnP, forall_mem_splitOnP]
  refine forall₂_congr fun c _ => ?_
  rw [or_iff_not_imp_left, beq_eq_false_iff_ne]

/-- **Plain segments come back** from the text that they are joined to. -/
theorem pieces_intercalate {segments : List String} (hne : segments ≠ [])
    (h : ∀ segment ∈ segments, Plain separator segment) :
    pieces separator ((String.ofList [separator]).intercalate segments) = segments := by
  have hsplit : ((String.ofList [separator]).intercalate segments).toList.splitOn separator =
      segments.map String.toList := by
    rw [String.toList_intercalate, String.toList_ofList]
    refine List.splitOn_intercalate separator (List.forall_mem_map.mpr fun segment hsegment => ?_)
      (by simpa using hne)
    exact (h segment hsegment).undivided
  have htrim : (segments.map String.toList).map (fun cs => String.ofList (Text.trimChars cs)) =
      segments := by
    rw [List.map_map]
    refine (List.map_congr_left fun segment hsegment => ?_).trans (List.map_id segments)
    have hplain := h segment hsegment
    rw [Function.comp_apply, Text.trimChars_eq_self_iff.mpr ⟨hplain.head, hplain.last⟩,
      String.ofList_toList, id]
  rw [pieces, hsplit, htrim]
  refine List.filter_eq_self.mpr fun segment hsegment => ?_
  simpa using (h segment hsegment).ne_empty

/-- **A path can be read from its text** if and only if its segments are plain. -/
theorem read_text_iff : read '.' p.text = .ok p ↔ ∀ segment ∈ p.segments, Plain '.' segment := by
  rw [read_eq_ok_iff]
  constructor
  · intro h segment hsegment
    rw [← h] at hsegment
    exact plain_of_mem_pieces hsegment
  · exact pieces_intercalate p.nonempty

/-- **Paths are written and read again.** A path comes back from its text if and only if each of its
segments has something in it, no white space at its edges and no point. So every path that was read from
some text comes back from its own. A text cannot be read as a path if and only if it consists of points
and white space, and the error says that the path is empty. -/
theorem text_reads_back :
    (∀ p : Path, read '.' p.text = .ok p ↔ ∀ segment ∈ p.segments, Plain '.' segment) ∧
    (∀ (s : String) (p : Path), read '.' s = .ok p → read '.' p.text = .ok p) ∧
    ∀ (s : String) (e : FrameError), read '.' s = .error e ↔
      e = .emptyPath ∧ ∀ c ∈ s.toList, c = '.' ∨ Text.isBlank c = true := by
  refine ⟨fun p => read_text_iff, fun s p h => ?_, fun s e => ?_⟩
  · rw [read_text_iff, ← read_eq_ok_iff.mp h]
    exact fun segment hsegment => plain_of_mem_pieces hsegment
  · rw [read_eq_error_iff, pieces_eq_nil_iff]

/-- White space at the edges of a segment, inside one, and alone between two points. -/
theorem text_reads_back_trimmed :
    let s := " user . .first\u2003name\t"
    let p : Path := below ["user"] "first\u2003name"
    read '.' s = .ok p ∧ read '.' p.text = .ok p := by
  intro s p
  have h : read '.' s = .ok p := by decide
  exact ⟨h, text_reads_back.2.1 s p h⟩

end Path

end Colonnade
