import Colonnade.Parser
import Colonnade.Proofs.Double.Grammar
import Colonnade.Proofs.Duration.Forms

/-!
# What gives a text away

A number is none of the other texts that a column may hold, because every one of these has something in it
that no number of the neutral locale has:

| | |
| --- | --- |
| instants, date-times, times of day, URLs | a colon |
| durations | `P`, or one of `d`, `h`, `m` and `s` |
| dates | a minus right behind a digit |

For the first row it does not matter how a pattern is matched: each item takes the start of a text off
(`Item.suffix_of_take?`), so every literal of a pattern stands in a text that it matches
(`Item.mem_of_fields?`). Numbers are gone through part by part (`NumberForm.mem`, `NumberForm.isChain`).
-/

namespace Colonnade

open Number

/-! ### Literals of patterns -/

namespace Item

variable {s s' : Fields} {cs rest : List Char} {v : Int}

/-- **Digits are taken off the start of a text.** -/
theorem exists_of_takeDigits? {width : Option Nat} (h : takeDigits? width cs = some (v, rest)) :
    ∃ ds, IsDigits ds ∧ cs = ds ++ rest := by
  have htaken (ds : List Char) (hlead : ds <+: cs.takeWhile Char.isDigit)
      (h : (if ds.isEmpty || int64Range.2 < (valueOf ds : Int) then none
        else some ((valueOf ds : Int), cs.drop ds.length)) = some (v, rest)) :
      ∃ ds, IsDigits ds ∧ cs = ds ++ rest := by
    split at h
    next => cases h
    next hsome =>
      obtain ⟨-, rfl⟩ := Prod.mk.inj (Option.some.inj h)
      rw [Bool.or_eq_true, not_or] at hsome
      obtain ⟨tail, htail⟩ := hlead.trans (List.takeWhile_prefix Char.isDigit)
      refine ⟨ds, ⟨by simpa using hsome.1, fun c hc => ?_⟩, by rw [← htail, List.drop_left]⟩
      exact List.all_eq_true.mp List.all_takeWhile c (hlead.mem hc)
  cases width with
  | none => exact htaken _ List.prefix_rfl h
  | some w => exact htaken _ (List.take_prefix w _) h

theorem trimStart_suffix (cs : List Char) : Text.trimStart cs <:+ cs :=
  List.dropWhile_suffix Text.isBlank

/-- A number is digits, with blanks and a sign in front of them. -/
theorem exists_takeDigits? {n : Numeral} (h : takeNumber? n cs = some (v, rest)) :
    ∃ front tail width v, cs = front ++ tail ∧ takeDigits? width tail = some (v, rest) := by
  obtain ⟨blanks, hblanks⟩ := trimStart_suffix cs
  unfold takeNumber? at h
  dsimp only at h
  split at h
  next tail _ htail =>
    obtain ⟨⟨v, rest⟩, hread, hpair⟩ := Option.map_eq_some_iff.mp h
    obtain ⟨-, rfl⟩ := Prod.mk.inj hpair
    exact ⟨blanks ++ ['-'], tail, none, v, by rw [← hblanks, htail]; simp, hread⟩
  next tail _ htail => exact ⟨blanks ++ ['+'], tail, none, v, by rw [← hblanks, htail]; simp, h⟩
  next => exact ⟨blanks, _, _, v, hblanks.symm, h⟩

/-- **A number ends in a digit.** -/
theorem exists_of_takeNumber? {n : Numeral} (h : takeNumber? n cs = some (v, rest)) :
    ∃ a c, cs = a ++ c :: rest ∧ c.isDigit = true := by
  obtain ⟨front, tail, width, v, rfl, hread⟩ := exists_takeDigits? h
  obtain ⟨ds, hds, rfl⟩ := exists_of_takeDigits? hread
  obtain ⟨a, c, rfl⟩ := (List.eq_nil_or_concat ds).resolve_left hds.ne_nil
  exact ⟨front ++ a, c, by simp, hds.digits c (by simp)⟩

theorem suffix_of_takeName? {name : List Char} (h : takeName? name cs = some rest) : rest <:+ cs := by
  unfold takeName? at h
  split at h
  · exact Option.some.inj h ▸ List.drop_suffix _ _
  · cases h

theorem suffix_of_takeOneOf? {full : Bool} {names : List (String × String)} {i j : Nat}
    (h : takeOneOf? full cs i names = some (j, rest)) : rest <:+ cs := by
  induction names generalizing i with
  | nil => cases h
  | cons name names ih =>
    unfold takeOneOf? at h
    split at h
    next tail htail =>
      obtain ⟨-, rfl⟩ := Prod.mk.inj (Option.some.inj h)
      refine List.IsSuffix.trans ?_ (suffix_of_takeName? htail)
      split
      · rcases hothers : takeName? name.2.toList tail with _ | others
        · exact List.suffix_rfl
        · exact suffix_of_takeName? hothers
      · exact List.suffix_rfl
    next => exact ih h

theorem suffix_of_takeFractionDigits? {count : Nat} (h : takeFractionDigits? count cs s = some (s', rest)) :
    rest <:+ cs := by
  unfold takeFractionDigits? at h
  dsimp only at h
  split at h
  · obtain ⟨_, -, hpair⟩ := Option.map_eq_some_iff.mp h
    obtain ⟨-, rfl⟩ := Prod.mk.inj hpair
    exact List.drop_suffix _ _
  · cases h

theorem suffix_of_takeTwoDigits? {n : Nat} (h : takeTwoDigits? cs = some (n, rest)) : rest <:+ cs := by
  unfold takeTwoDigits? at h
  split at h
  · split at h
    · obtain ⟨-, rfl⟩ := Prod.mk.inj (Option.some.inj h)
      exact (List.suffix_cons _ _).trans (List.suffix_cons _ _)
    · cases h
  · cases h

theorem suffix_of_takeOffsetSign? {negative : Bool} (h : takeOffsetSign? cs = some (negative, rest)) :
    rest <:+ cs := by
  unfold takeOffsetSign? at h
  split at h <;> cases h <;> exact List.suffix_cons _ _

theorem suffix_of_takeOffset? {zulu bare : Bool} (h : takeOffset? zulu bare cs = some (v, rest)) :
    rest <:+ cs := by
  unfold takeOffset? at h
  split at h
  next => exact (Prod.mk.inj (Option.some.inj h)).2 ▸ List.suffix_cons _ _
  next => exact (Prod.mk.inj (Option.some.inj h)).2 ▸ List.suffix_cons _ _
  next =>
    obtain ⟨⟨negative, afterSign⟩, hsign, h⟩ := Option.bind_eq_some_iff.mp h
    obtain ⟨⟨hours, afterHours⟩, hhours, h⟩ := Option.bind_eq_some_iff.mp h
    have hstart : afterHours.dropWhile (fun c => c == ':' || Text.isBlank c) <:+ cs :=
      (List.dropWhile_suffix _).trans
        ((suffix_of_takeTwoDigits? hhours).trans (suffix_of_takeOffsetSign? hsign))
    dsimp only at h
    split at h
    next =>
      simp only [Option.bind_eq_bind, Option.bind_some] at h
      split at h
      · exact (Prod.mk.inj (Option.some.inj h)).2 ▸ List.nil_suffix
      · cases h
    next =>
      obtain ⟨⟨minutes, afterMinutes⟩, hminutes, h⟩ := Option.bind_eq_some_iff.mp h
      dsimp only at h
      split at h
      · exact (Prod.mk.inj (Option.some.inj h)).2 ▸ (suffix_of_takeTwoDigits? hminutes).trans hstart
      · cases h

theorem suffix_of_takeZone? (h : takeZone? cs = some (v, rest)) : rest <:+ cs := by
  unfold takeZone? at h
  dsimp only at h
  split at h
  next hname =>
    obtain ⟨-, rfl⟩ := Prod.mk.inj (Option.some.inj h)
    exact (suffix_of_takeName? hname).trans (trimStart_suffix cs)
  next => exact (suffix_of_takeOffset? h).trans (trimStart_suffix cs)

/-- **An item takes the start of a text off.** -/
theorem suffix_of_take? {item : Item} (h : item.take? s cs = some (s', rest)) : rest <:+ cs := by
  -- most items read something with a rest of its own, and then put it into the fields
  have hput {α : Type} (read : Option (α × List Char)) (put : α → Option Fields)
      (h : (read.bind fun p => (put p.1).bind fun s => some (s, p.2)) = some (s', rest)) :
      ∃ a, read = some (a, rest) := by
    obtain ⟨⟨a, tail⟩, ha, h⟩ := Option.bind_eq_some_iff.mp h
    obtain ⟨s, -, hs⟩ := Option.bind_eq_some_iff.mp h
    obtain ⟨-, rfl⟩ := Prod.mk.inj (Option.some.inj hs)
    exact ⟨a, ha⟩
  cases item with
  | literal c =>
    obtain ⟨tail, htail, hpair⟩ := Option.map_eq_some_iff.mp h
    obtain ⟨-, rfl⟩ := Prod.mk.inj hpair
    rw [Text.dropLead?_eq_some_iff.mp htail]
    exact List.suffix_append _ _
  | blanks => exact (Prod.mk.inj (Option.some.inj h)).2 ▸ trimStart_suffix cs
  | number n =>
    obtain ⟨v, hv⟩ := hput (takeNumber? n cs) (n.put? · s) h
    obtain ⟨a, c, rfl, -⟩ := exists_of_takeNumber? hv
    exact (List.suffix_cons c rest).trans (List.suffix_append a _)
  | monthName full =>
    obtain ⟨i, hi⟩ := hput (takeOneOf? full cs 0 months) (s.put? .month <| · + 1) h
    exact suffix_of_takeOneOf? hi
  | weekdayName full =>
    obtain ⟨i, hi⟩ := hput (takeOneOf? full cs 0 weekdays) (s.put? .weekday ·) h
    exact suffix_of_takeOneOf? hi
  | halfDay =>
    obtain ⟨i, hi⟩ := hput (takeOneOf? false cs 0 [("am", ""), ("pm", "")]) (s.put? .halfDay ·) h
    exact suffix_of_takeOneOf? hi
  | fraction =>
    simp only [take?] at h
    split at h
    next tail =>
      split at h
      · cases h
      · obtain ⟨_, -, hpair⟩ := Option.map_eq_some_iff.mp h
        obtain ⟨-, rfl⟩ := Prod.mk.inj hpair
        exact (List.dropWhile_suffix _).trans (List.suffix_cons _ _)
    next => exact (Prod.mk.inj (Option.some.inj h)).2 ▸ List.suffix_rfl
  | pointDigits count =>
    simp only [take?] at h
    split at h
    next tail => exact (suffix_of_takeFractionDigits? h).trans (List.suffix_cons _ _)
    next => exact (Prod.mk.inj (Option.some.inj h)).2 ▸ List.suffix_rfl
  | fractionDigits count => exact suffix_of_takeFractionDigits? h
  | zoneName => exact (Prod.mk.inj (Option.some.inj h)).2 ▸ List.dropWhile_suffix _
  | offset lenient =>
    obtain ⟨v, hv⟩ := hput (takeOffset? lenient lenient cs) (s.put? .offset) h
    exact suffix_of_takeOffset? hv
  | dateTimeMark =>
    simp only [take?] at h
    split at h
    next c tail =>
      split at h
      · exact (Prod.mk.inj (Option.some.inj h)).2 ▸ List.suffix_cons _ _
      · cases h
    next => cases h
  | zone =>
    obtain ⟨v, hv⟩ := hput (takeZone? cs) (s.put? .offset) h
    exact suffix_of_takeZone? hv
  | invalid => cases h

/-- **Every literal of some items stands in a text that they match.** -/
theorem mem_of_takeAll? {items : List Item} {c : Char} (hc : literal c ∈ items)
    (h : takeAll? items s cs = some (s', rest)) : c ∈ cs := by
  induction items generalizing s cs with
  | nil => cases hc
  | cons item items ih =>
    obtain ⟨⟨next, tail⟩, hitem, h⟩ := Option.bind_eq_some_iff.mp h
    rcases List.mem_cons.mp hc with rfl | hc
    · obtain ⟨tail, htail, -⟩ := Option.map_eq_some_iff.mp hitem
      rw [Text.dropLead?_eq_some_iff.mp htail]
      exact List.mem_cons_self
    · exact (suffix_of_take? hitem).mem (ih hc h)

theorem mem_of_fields? {items : List Item} {c : Char} (hc : literal c ∈ items)
    (h : fields? items cs = some s) : c ∈ cs := by
  unfold fields? at h
  split at h
  next s' hs => exact mem_of_takeAll? hc hs
  next => cases h

end Item

/-! ### Instants, date-times, times, dates and URLs -/

theorem mem_of_instant {cs : List Char} {t : Instant} (h : Instant.ofText? cs = some t) : ':' ∈ cs := by
  obtain ⟨s, hs, -⟩ := Option.bind_eq_some_iff.mp h
  exact Item.mem_of_fields? (by decide) hs

theorem mem_of_dateTime {cs : List Char} {t : DateTime}
    (h : DateTime.ofText? DateTime.defaultPatterns cs = some t) : ':' ∈ cs := by
  obtain ⟨pattern, hpattern, hread⟩ := List.exists_of_findSome?_eq_some h
  obtain ⟨s, hs, -⟩ := Option.bind_eq_some_iff.mp hread
  refine Item.mem_of_fields? ?_ hs
  rcases List.mem_pair.mp hpattern with rfl | rfl <;> decide

theorem mem_of_time {cs : List Char} {t : TimeOfDay}
    (h : TimeOfDay.ofText? TimeOfDay.defaultPatterns cs = some t) : ':' ∈ cs := by
  obtain ⟨pattern, hpattern, hread⟩ := List.exists_of_findSome?_eq_some h
  obtain ⟨s, hs, -⟩ := Option.bind_eq_some_iff.mp hread
  refine Item.mem_of_fields? ?_ hs
  rcases List.mem_pair.mp hpattern with rfl | rfl <;> decide

/-- **A date has a minus right behind a digit**, the one after the year. -/
theorem exists_of_date {cs : List Char} {d : Date} (h : Date.ofText? Date.defaultPatterns cs = some d) :
    ∃ a c b, cs = a ++ c :: '-' :: b ∧ c.isDigit = true := by
  obtain ⟨pattern, hpattern, hread⟩ := List.exists_of_findSome?_eq_some h
  obtain ⟨s, hs, -⟩ := Option.bind_eq_some_iff.mp hread
  obtain rfl := List.mem_singleton.mp hpattern
  have hitems : Pattern.items "%Y-%m-%d" =
      .num .year :: .literal '-' :: [.num .month, .literal '-', .num .day] := by decide
  unfold Pattern.fields? Item.fields? at hs
  rw [hitems] at hs
  split at hs
  next hall =>
    obtain ⟨⟨s, afterYear⟩, hyear, hall⟩ := Option.bind_eq_some_iff.mp hall
    obtain ⟨⟨s, rest⟩, hminus, -⟩ := Option.bind_eq_some_iff.mp hall
    obtain ⟨⟨v, tail⟩, hv, hput⟩ := Option.bind_eq_some_iff.mp hyear
    obtain ⟨_, -, hpair⟩ := Option.bind_eq_some_iff.mp hput
    obtain ⟨-, rfl⟩ := Prod.mk.inj (Option.some.inj hpair)
    obtain ⟨after, hafter, -⟩ := Option.map_eq_some_iff.mp hminus
    obtain ⟨a, c, rfl, hc⟩ := Item.exists_of_takeNumber? hv
    exact ⟨a, c, after, by rw [Text.dropLead?_eq_some_iff.mp hafter]; rfl, hc⟩
  next => cases hs

theorem mem_of_url {t : String} {u : Url} (h : Parser.readUrl? t = some u) : ':' ∈ t.toList := by
  obtain ⟨hread, -⟩ := Option.filter_eq_some_iff.mp h
  obtain ⟨⟨scheme, rest⟩, hscheme, -⟩ := Option.bind_eq_some_iff.mp hread
  have hcolon : ':' ∈ Url.clean t.toList := by
    unfold Url.splitScheme? at hscheme
    split at hscheme
    next c cs hclean =>
      rw [hclean]
      split at hscheme
      next after hafter =>
        refine List.mem_cons_of_mem c ((List.dropWhile_suffix Url.isSchemeChar).mem ?_)
        rw [hafter]
        exact List.mem_cons_self
      next => cases hscheme
    next => cases hscheme
  unfold Url.clean at hcolon
  have htrimmed := (List.mem_filter.mp hcolon).1
  have hreverse := (List.dropWhile_suffix _).mem (List.mem_reverse.mp htrimmed)
  exact (List.dropWhile_suffix _).mem (List.mem_reverse.mp hreverse)

/-! ### Durations -/

namespace Duration

/-- The letters that give a duration away. -/
def telltales : List Char := ['P', 'd', 'h', 'm', 's']

theorem Timescale.exists_telltale (u : Timescale) : ∃ c ∈ u.symbol, c ∈ telltales := by
  cases u
  · exact ⟨'d', by simp [symbol], by decide⟩
  · exact ⟨'h', by simp [symbol], by decide⟩
  · exact ⟨'m', by simp [symbol], by decide⟩
  all_goals exact ⟨'s', by simp [symbol], by decide⟩

theorem UnitWords.exists_telltale {cs : List Char} {found : List Component} (h : UnitWords cs found) :
    ∃ c ∈ cs, c ∈ telltales := by
  obtain ⟨ws, hspaced, hwords⟩ := h.words
  cases hspaced with
  | nil _ => exact absurd (List.forall₂_nil_left_iff.mp hwords) h.ne_nil
  | cons _ _ _ =>
    obtain ⟨component, found, hword, -, rfl⟩ := List.forall₂_cons_left_iff.mp hwords
    obtain ⟨c, hc, htell⟩ := component.unit.exists_telltale
    refine ⟨c, ?_, htell⟩
    cases hword with
    | whole _ => simp [hc]
    | fraction _ _ => simp [hc]

/-- **A duration has a letter of its own**, the `P` of the ISO form or one of a unit. -/
theorem exists_telltale {cs : List Char} {d : Duration} (h : ofText? cs = some d) :
    ∃ c ∈ cs, c ∈ telltales := by
  obtain ⟨⟨negative, found⟩, hfound, -⟩ := Option.bind_eq_some_iff.mp h
  rcases components?_eq_some_iff.mp hfound with hiso | hunit
  · refine ⟨'P', ?_, by decide⟩
    cases hiso <;> simp
  · cases hunit with
    | unsigned h => exact h.exists_telltale
    | minus h =>
      obtain ⟨c, hc, htell⟩ := h.exists_telltale
      exact ⟨c, by simp [hc], htell⟩
    | parenthesized h =>
      obtain ⟨c, hc, htell⟩ := h.exists_telltale
      exact ⟨c, by simp [hc], htell⟩

end Duration

/-! ### Numbers -/

namespace Number

variable {cs s i f x ds : List Char} {negative : Bool} {e : ℤ}

/-- What gives a text away that is no number. -/
def foreign : List Char := ':' :: Duration.telltales

/-- **Nothing foreign stands in a sentinel.** -/
theorem SentinelForm.not_mem {d : Double} (h : SentinelForm cs d) : ∀ c ∈ foreign, c ∉ cs := by
  intro c hc hmem
  rcases h.mem hmem with hsign | hletter
  · rcases List.mem_pair.mp hsign with rfl | rfl <;> simp [foreign, Duration.telltales] at hc
  · have hupper : c.toUpper ∈ [':', 'P', 'D', 'H', 'M', 'S'] := List.mem_map_of_mem hc
    revert hletter hupper
    generalize c.toUpper = d
    simp only [List.mem_cons, List.not_mem_nil, or_false]
    rintro (rfl | rfl | rfl | rfl | rfl | rfl) <;> decide

/-- A character of the whole part or the fraction of a number in the neutral locale. -/
def isPositional (c : Char) : Bool :=
  c.isDigit || c == '.' || c == ','

/-- A character of a number in the neutral locale. -/
def isNumeric (c : Char) : Bool :=
  isPositional c || ['+', '-', 'e', 'E'].contains c

theorem isPositional_of_isDigit {c : Char} (h : c.isDigit = true) : isPositional c = true := by
  simp [isPositional, h]

theorem isNumeric_of_isPositional {c : Char} (h : isPositional c = true) : isNumeric c = true := by
  simp [isNumeric, h]

theorem Sign.isNumeric (h : Sign s negative) : ∀ c ∈ s, isNumeric c = true := by
  cases h <;> simp [Number.isNumeric]

theorem Grouped.isPositional (h : Grouped .root i ds) : ∀ c ∈ i, isPositional c = true := by
  induction h with
  | digit hc => simpa using isPositional_of_isDigit hc
  | next hc _ ih => exact List.forall_mem_cons.mpr ⟨isPositional_of_isDigit hc, ih⟩
  | group hc hg _ ih =>
    refine List.forall_mem_cons.mpr ⟨isPositional_of_isDigit hc, List.forall_mem_cons.mpr ⟨?_, ih⟩⟩
    obtain rfl : _ = ',' := by simpa [Locale.isGrouping, Locale.root, Locale.noBreakSpace] using hg
    rfl

theorem WholeForm.isPositional (h : WholeForm .root i ds) : ∀ c ∈ i, isPositional c = true := by
  cases h with
  | absent => simp
  | grouped h => exact h.isPositional

theorem FractionForm.isPositional (h : FractionForm '.' f ds) : ∀ c ∈ f, isPositional c = true := by
  cases h with
  | absent => simp
  | digits hds =>
    exact List.forall_mem_cons.mpr ⟨rfl, fun c hc => isPositional_of_isDigit (hds c hc)⟩

theorem ExponentForm.isNumeric (h : ExponentForm x e) : ∀ c ∈ x, isNumeric c = true := by
  cases h with
  | absent => simp
  | marked hc h =>
    obtain ⟨hsign, hds⟩ := h
    refine List.forall_mem_cons.mpr ⟨?_, List.forall_mem_append.mpr ⟨hsign.isNumeric, fun c hc =>
      isNumeric_of_isPositional (isPositional_of_isDigit (hds.digits c hc))⟩⟩
    rcases Bool.or_eq_true_iff.mp hc with hc | hc <;> rw [eq_of_beq hc] <;> rfl

/-- **Nothing foreign stands in a number.** -/
theorem NumberForm.not_mem {n : Parts} (h : NumberForm .root cs n) : ∀ c ∈ foreign, c ∉ cs := by
  have hnumeric : ∀ c ∈ cs, isNumeric c = true := by
    obtain ⟨hsign, hwhole, hfraction, hexponent, -⟩ := h
    exact List.forall_mem_append.mpr ⟨hsign.isNumeric, List.forall_mem_append.mpr
      ⟨fun c hc => isNumeric_of_isPositional (hwhole.isPositional c hc), List.forall_mem_append.mpr
        ⟨fun c hc => isNumeric_of_isPositional (hfraction.isPositional c hc), hexponent.isNumeric⟩⟩⟩
  intro c hc hmem
  have hnone : (foreign.all fun c => !isNumeric c) = true := rfl
  have hfalse := List.all_eq_true.mp hnone c hc
  rw [hnumeric c hmem] at hfalse
  cases hfalse

/-- No minus right behind a digit. -/
abbrev Apart (c d : Char) : Prop :=
  c.isDigit = true → d ≠ '-'

theorem isChain_of_not_mem (h : '-' ∉ cs) : cs.IsChain Apart :=
  (List.pairwise_of_forall_mem_list fun _ _ _ hd _ => by rintro rfl; exact h hd).isChain

/-- What is not a digit may stand in front of anything. -/
theorem isChain_cons_of_not_digit {c : Char} (hc : c.isDigit = false) (h : cs.IsChain Apart) :
    (c :: cs).IsChain Apart :=
  List.isChain_cons.mpr ⟨fun _ _ hdigit => absurd (hc.symm.trans hdigit) (by decide), h⟩

theorem Sign.isChain (hsign : Sign s negative) (h : cs.IsChain Apart) : (s ++ cs).IsChain Apart := by
  cases hsign with
  | absent => exact h
  | plus => exact isChain_cons_of_not_digit rfl h
  | minus => exact isChain_cons_of_not_digit rfl h

/-- **In a number no minus stands right behind a digit**: one stands at the start, and one behind the mark of
the exponent. -/
theorem NumberForm.isChain {n : Parts} (h : NumberForm .root cs n) : cs.IsChain Apart := by
  obtain ⟨hsign, hwhole, hfraction, hexponent, -⟩ := h
  next s i whole f fraction x negative e =>
  have hpositional : '-' ∉ i ++ f := by
    intro hmem
    rcases List.mem_append.mp hmem with hmem | hmem
    · exact absurd (hwhole.isPositional _ hmem) (by decide)
    · exact absurd (hfraction.isPositional _ hmem) (by decide)
  have hx : x.IsChain Apart := by
    cases hexponent with
    | absent => exact .nil
    | marked hc h =>
      obtain ⟨hsign, hds⟩ := h
      refine isChain_cons_of_not_digit (not_isDigit_of_isExponentMark hc) (hsign.isChain ?_)
      exact isChain_of_not_mem fun hmem => absurd (hds.digits _ hmem) (by decide)
  refine hsign.isChain ?_
  rw [← List.append_assoc]
  refine List.isChain_append.mpr ⟨isChain_of_not_mem hpositional, hx, fun c _ d hd _ => ?_⟩
  rintro rfl
  exact absurd (hexponent.head _ hd) (by decide)

theorem SentinelForm.isChain {d : Double} (h : SentinelForm cs d) : cs.IsChain Apart :=
  (List.pairwise_of_forall_mem_list fun c hc _ _ hdigit =>
    absurd ((h.not_digit c hc).symm.trans hdigit) (by decide)).isChain

/-! ### Numbers are none of the others -/

/-- **The neutral locale can tell its numbers apart.** -/
theorem separable_root : Separable .root where
  decimal := ⟨by decide, by decide, by decide, by decide⟩
  grouping := ⟨by decide, by decide, by decide, by decide⟩
  distinct := by decide

theorem not_foreign_of_readDouble? {t : String} {d : Double} (h : readDouble? .root t = some d) :
    ∀ c ∈ foreign, c ∉ t.toList := by
  rcases form_of_readDouble? separable_root h with h | ⟨n, h, -⟩
  · exact h.not_mem
  · exact h.not_mem

theorem isChain_of_readDouble? {t : String} {d : Double} (h : readDouble? .root t = some d) :
    t.toList.IsChain Apart := by
  rcases form_of_readDouble? separable_root h with h | ⟨n, h, -⟩
  · exact h.isChain
  · exact h.isChain

end Number

end Colonnade
