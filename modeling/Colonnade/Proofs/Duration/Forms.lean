import Colonnade.Proofs.Conversion.Durations
import Colonnade.Proofs.Duration.UnitForm

/-!
# The two forms of a duration

A duration is written in one of two forms, each of them a grammar that is stated without a word about how a
text is read:

| | |
| --- | --- |
| `IsoForm` | `[+-]? P (n D)? (T (n H)? (n M)? (n(.f)? S)?)?`, something in it and something after a `T` |
| `UnitForm` | `-? word … word` or `-( word … word )`, the words with white space between and around them |

A grammar derives a text together with its sign and its components, and the reader of each form finds
exactly what the grammar derives (`iso?_eq_some_iff`, `units?_eq_some_iff`). The reader of the ISO form takes
one optional component after the other off the start of a text. It never takes the wrong one, because the
digits at the start of what is left are followed by another letter (`Skips`).

No text has both forms: one in the ISO form has a `P` in it behind a sign or at the start, and one in the unit
form has none. So the first look at a text, `looksIso`, sends it to the right reader, and `ofText?_iff_form`
says of every text whether it is a duration, and which.
-/

namespace Colonnade.Duration

open Number

/-! ### The ISO form -/

/-- **A component with a letter**: digits and the letter, or nothing at all. -/
inductive Lettered (letter : Char) (u : Timescale) : List Char → Option Component → Prop
  | absent : Lettered letter u [] none
  | digits {ds : List Char} (hds : IsDigits ds) :
      Lettered letter u (ds ++ [letter]) (some ⟨ds, [], u⟩)

/-- **The seconds**: digits, up to nine digits of a fraction behind a point, and `S`; or nothing at all. -/
inductive Seconds : List Char → Option Component → Prop
  | absent : Seconds [] none
  | whole {ds : List Char} (hds : IsDigits ds) : Seconds (ds ++ ['S']) (some ⟨ds, [], .second⟩)
  | fraction {ds es : List Char} (hds : IsDigits ds) (hes : IsDigits es) (hlength : es.length ≤ 9) :
      Seconds (ds ++ '.' :: (es ++ ['S'])) (some ⟨ds, es, .second⟩)

/-- **What stands behind a `T`**: hours, minutes and seconds, and at least one of them. -/
inductive ClockForm : List Char → List Component → Prop
  | mk {h m s : List Char} {hours minutes seconds : Option Component}
      (hhours : Lettered 'H' .hour h hours) (hminutes : Lettered 'M' .minute m minutes)
      (hseconds : Seconds s seconds)
      (hne : hours.toList ++ minutes.toList ++ seconds.toList ≠ []) :
      ClockForm (h ++ (m ++ s)) (hours.toList ++ minutes.toList ++ seconds.toList)

/-- **What stands behind the `P`**: days, or a clock behind a `T` with or without days in front of it. -/
inductive IsoBody : List Char → List Component → Prop
  | days {cs : List Char} {c : Component} (h : Lettered 'D' .day cs (some c)) : IsoBody cs [c]
  | clock {d t : List Char} {days : Option Component} {found : List Component}
      (hdays : Lettered 'D' .day d days) (hclock : ClockForm t found) :
      IsoBody (d ++ 'T' :: t) (days.toList ++ found)

/-- **The ISO form**, its `P` at the start or behind a sign. -/
inductive IsoForm : List Char → Bool → List Component → Prop
  | unsigned {cs : List Char} {found : List Component} (h : IsoBody cs found) :
      IsoForm ('P' :: cs) false found
  | plus {cs : List Char} {found : List Component} (h : IsoBody cs found) :
      IsoForm ('+' :: 'P' :: cs) false found
  | minus {cs : List Char} {found : List Component} (h : IsoBody cs found) :
      IsoForm ('-' :: 'P' :: cs) true found

/-- **A text without a component of this letter at its start**: the first character of it that is no digit,
if there is one, is another one. -/
inductive Skips (letter : Char) : List Char → Prop
  | nil : Skips letter []
  | cons {ds rest : List Char} {c : Char} (hds : ∀ d ∈ ds, d.isDigit = true)
      (hc : c.isDigit = false) (hne : c ≠ letter) : Skips letter (ds ++ c :: rest)

variable {letter : Char} {u : Timescale} {w cs rest : List Char} {c? : Option Component}

theorem lettered_of_skips (h : Skips letter cs) : lettered letter u cs = (none, cs) := by
  cases h with
  | nil => rfl
  | cons hds hc hne => exact lettered_of_ne hds hc hne

theorem Lettered.skips {other : Char} (h : Lettered other u w c?) (hother : other.isDigit = false)
    (hne : other ≠ letter) (hrest : Skips letter rest) : Skips letter (w ++ rest) := by
  cases h with
  | absent => exact hrest
  | digits hds =>
    rw [List.append_assoc]
    exact .cons hds.digits hother hne

theorem Seconds.skips (h : Seconds w c?) (hs : 'S' ≠ letter) (hpoint : '.' ≠ letter) :
    Skips letter w := by
  cases h with
  | absent => exact .nil
  | whole hds => exact .cons hds.digits (by decide) hs
  | fraction hds _ _ => exact .cons hds.digits (by decide) hpoint

/-- **A component is taken off the start of a text** if what follows does not begin with another of its
letter. -/
theorem Lettered.read (h : Lettered letter u w c?) (hletter : letter.isDigit = false)
    (hrest : Skips letter rest) : lettered letter u (w ++ rest) = (c?, rest) := by
  cases h with
  | absent => exact lettered_of_skips hrest
  | @digits ds hds =>
    have hhalts : Halts (letter :: rest) := halts_cons.mpr hletter
    have htext : ds ++ [letter] ++ rest = ds ++ letter :: rest := List.append_assoc _ _ _
    simp [htext, lettered, takeWhile_digits hds.digits hhalts, dropWhile_digits hds.digits hhalts,
      hds.ne_nil]

/-- Whatever is taken off the start of a text is a component with its letter. -/
theorem exists_of_lettered (h : lettered letter u cs = (c?, rest)) :
    ∃ w, cs = w ++ rest ∧ Lettered letter u w c? := by
  unfold lettered at h
  dsimp only at h
  split at h
  next c tail htail =>
    split at h
    next hc =>
      obtain ⟨rfl, hne⟩ := hc
      obtain ⟨rfl, rfl⟩ := Prod.mk.inj h
      refine ⟨_, ?_, .digits (isDigits_takeWhile hne)⟩
      rw [List.append_assoc, List.singleton_append, ← htail, List.takeWhile_append_dropWhile]
    next =>
      obtain ⟨rfl, rfl⟩ := Prod.mk.inj h
      exact ⟨[], rfl, .absent⟩
  next =>
    obtain ⟨rfl, rfl⟩ := Prod.mk.inj h
    exact ⟨[], rfl, .absent⟩

/-- **Reading the seconds.** -/
theorem seconds?_eq_some_iff {c : Component} : seconds? cs = some c ↔ Seconds cs (some c) := by
  constructor
  · intro h
    have hsplit : cs.takeWhile Char.isDigit ++ cs.dropWhile Char.isDigit = cs :=
      List.takeWhile_append_dropWhile
    unfold seconds? at h
    dsimp only at h
    split at h
    next => cases h
    next hwhole =>
      have hds : IsDigits (cs.takeWhile Char.isDigit) := isDigits_takeWhile (by simpa using hwhole)
      generalize cs.takeWhile Char.isDigit = ds at h hds hsplit
      split at h
      next hrest =>
        rw [hrest] at hsplit
        rw [← hsplit, ← Option.some.inj h]
        exact .whole hds
      next rest hrest =>
        split at h
        next hfraction =>
          obtain ⟨hend, hpos, hlength⟩ := hfraction
          have hes := isDigits_takeWhile (List.length_pos_iff.mp hpos)
          have htail : rest = rest.takeWhile Char.isDigit ++ ['S'] := by
            rw [← hend, List.takeWhile_append_dropWhile]
          generalize rest.takeWhile Char.isDigit = es at h hlength hes htail
          rw [hrest, htail] at hsplit
          rw [← hsplit, ← Option.some.inj h]
          exact .fraction hds hes hlength
        next => cases h
      next => cases h
  · have hend : Halts ['S'] := by simp
    rintro (_ | hds | ⟨hds, hes, hlength⟩)
    · simp [seconds?, takeWhile_digits hds.digits hend, dropWhile_digits hds.digits hend, hds.ne_nil]
    · next ds es =>
      have hpoint : Halts ('.' :: (es ++ ['S'])) := by simp
      have hpos : 1 ≤ es.length := List.length_pos_iff.mpr hes.ne_nil
      simp [seconds?, takeWhile_digits hds.digits hpoint, dropWhile_digits hds.digits hpoint,
        hds.ne_nil, takeWhile_digits hes.digits hend, dropWhile_digits hes.digits hend, hpos, hlength]

/-- **Reading what stands behind a `T`.** -/
theorem clockComponents?_eq_some_iff {found : List Component} :
    clockComponents? cs = some found ↔ ClockForm cs found := by
  constructor
  · intro h
    unfold clockComponents? at h
    rcases hreadHours : lettered 'H' .hour cs with ⟨hours, afterHours⟩
    rcases hreadMinutes : lettered 'M' .minute afterHours with ⟨minutes, rest⟩
    simp only [hreadHours, hreadMinutes] at h
    obtain ⟨hs, rfl, hhours⟩ := exists_of_lettered hreadHours
    obtain ⟨ms, rfl, hminutes⟩ := exists_of_lettered hreadMinutes
    split at h
    next hempty =>
      obtain rfl := List.isEmpty_iff.mp hempty
      split at h
      next => cases h
      next hne =>
        have hfound := Option.some.inj h
        rw [← List.append_nil (hours.toList ++ minutes.toList)] at hfound hne
        rw [← hfound]
        exact .mk hhours hminutes .absent (by simpa using hne)
    next =>
      obtain ⟨s, hs, rfl⟩ := Option.map_eq_some_iff.mp h
      exact .mk hhours hminutes (seconds?_eq_some_iff.mp hs) (by simp)
  · rintro ⟨hhours, hminutes, hseconds, hne⟩
    next h m s hours minutes seconds =>
    have hskip := hseconds.skips (by decide : 'S' ≠ 'M') (by decide)
    have hskip' := hminutes.skips (by decide) (by decide : 'M' ≠ 'H')
      (hseconds.skips (by decide) (by decide))
    unfold clockComponents?
    rw [hhours.read (by decide) hskip']
    dsimp only
    rw [hminutes.read (by decide) hskip]
    dsimp only
    cases seconds with
    | none =>
      obtain rfl : s = [] := by cases hseconds; rfl
      simp only [Option.toList_none, List.append_nil] at hne ⊢
      simp [hne]
    | some c =>
      have hs : s ≠ [] := by cases hseconds <;> simp
      simp [hs, seconds?_eq_some_iff.mpr hseconds]

/-- **Reading what stands behind the `P`.** -/
theorem isoComponents?_eq_some_iff {found : List Component} :
    isoComponents? cs = some found ↔ IsoBody cs found := by
  constructor
  · intro h
    unfold isoComponents? at h
    rcases hread : lettered 'D' .day cs with ⟨days, rest⟩
    simp only [hread] at h
    obtain ⟨d, rfl, hdays⟩ := exists_of_lettered hread
    split at h
    next =>
      cases days with
      | none => cases h
      | some c =>
        rw [List.append_nil, ← Option.some.inj h]
        exact .days hdays
    next =>
      obtain ⟨found, hclock, rfl⟩ := Option.map_eq_some_iff.mp h
      exact .clock hdays (clockComponents?_eq_some_iff.mp hclock)
    next => cases h
  · rintro (hdays | ⟨hdays, hclock⟩)
    · next c =>
      have hread := hdays.read (by decide) .nil
      rw [List.append_nil] at hread
      simp [isoComponents?, hread]
    · next d t days found =>
      have hskip : Skips 'D' ([] ++ 'T' :: t) := .cons (by simp) (by decide) (by decide)
      have hread := hdays.read (by decide) hskip
      rw [List.nil_append] at hread
      simp [isoComponents?, hread, clockComponents?_eq_some_iff.mpr hclock]

/-- **The reader of the ISO form** finds what the form derives. -/
theorem iso?_eq_some_iff {negative : Bool} {found : List Component} :
    iso? cs = some (negative, found) ↔ IsoForm cs negative found := by
  constructor
  · intro h
    unfold iso? at h
    split at h
    next =>
      obtain ⟨_, hread, hpair⟩ := Option.map_eq_some_iff.mp h
      obtain ⟨rfl, rfl⟩ := Prod.mk.inj hpair
      exact .minus (isoComponents?_eq_some_iff.mp hread)
    next =>
      obtain ⟨_, hread, hpair⟩ := Option.map_eq_some_iff.mp h
      obtain ⟨rfl, rfl⟩ := Prod.mk.inj hpair
      exact .plus (isoComponents?_eq_some_iff.mp hread)
    next =>
      obtain ⟨_, hread, hpair⟩ := Option.map_eq_some_iff.mp h
      obtain ⟨rfl, rfl⟩ := Prod.mk.inj hpair
      exact .unsigned (isoComponents?_eq_some_iff.mp hread)
    next => cases h
  · rintro (h | h | h) <;> simp [iso?, isoComponents?_eq_some_iff.mpr h]

/-! ### The choice between the forms -/

theorem UnitForm.looksIso_eq {negative : Bool} {found : List Component}
    (h : UnitForm cs negative found) : looksIso cs = false := by
  have hnone : 'P' ∉ cs := by
    cases h with
    | unsigned h => exact h.not_mem
    | minus h => simp [h.not_mem]
    | parenthesized h => simp [h.not_mem]
  simp [looksIso, hnone]

theorem IsoForm.looksIso_eq {negative : Bool} {found : List Component}
    (h : IsoForm cs negative found) : looksIso cs = true := by
  cases h <;> simp [looksIso]

/-- **A text of either form is read as it is written**: the choice between the readers loses none. -/
theorem components?_eq_some_iff {negative : Bool} {found : List Component} :
    components? cs = some (negative, found) ↔
      IsoForm cs negative found ∨ UnitForm cs negative found := by
  unfold components?
  constructor
  · intro h
    split at h
    next => exact .inl (iso?_eq_some_iff.mp h)
    next => exact .inr (units?_eq_some_iff.mp h)
  · rintro (h | h)
    · rw [if_pos h.looksIso_eq]
      exact iso?_eq_some_iff.mpr h
    · rw [h.looksIso_eq, if_neg (by decide)]
      exact units?_eq_some_iff.mpr h

/-- **Which texts are durations, and which durations they are**: those of the two forms whose exact total
fits into 64 bits, each its total. Adding up in 128 bits never gives another number, and never fails for a
total that fits; and each form is sent to its own reader. -/
theorem ofText?_iff_form (cs : List Char) :
    (∀ d, ofText? cs = some d ↔ ∃ negative found,
      (IsoForm cs negative found ∨ UnitForm cs negative found) ∧
        -2 ^ 63 ≤ total negative found ∧ total negative found < 2 ^ 63 ∧
        d.nanoseconds.toInt = total negative found) ∧
    (∀ negative found, components? cs = some (negative, found) →
      (∀ n, magnitude? found = some n → n = magnitude found) ∧
        (-2 ^ 63 ≤ total negative found ∧ total negative found < 2 ^ 63 →
          magnitude? found = some (magnitude found))) ∧
    (∀ negative found, (IsoForm cs negative found → looksIso cs = true) ∧
      (UnitForm cs negative found → looksIso cs = false)) := by
  have hfits (i : Int) : within int64Range i = true ↔ -2 ^ 63 ≤ i ∧ i < 2 ^ 63 := by
    rw [within_iff]
    simp only [int64Range]
    omega
  refine ⟨fun d => ?_, fun negative found _ => ⟨fun n => magnitude_of_magnitude?, fun hfit => ?_⟩,
    fun negative found => ⟨IsoForm.looksIso_eq, UnitForm.looksIso_eq⟩⟩
  · constructor
    · intro h
      obtain ⟨⟨negative, found⟩, hfound, -⟩ := Option.bind_eq_some_iff.mp h
      rw [ofText?_eq_of_components hfound] at h
      split at h
      next hfit =>
        obtain rfl := Option.some.inj h
        obtain ⟨hlow, hhigh⟩ := (hfits _).mp hfit
        exact ⟨negative, found, components?_eq_some_iff.mp hfound, hlow, hhigh,
          Int64.toInt_ofInt_of_le (by omega) (by omega)⟩
      next => cases h
    · rintro ⟨negative, found, hform, hlow, hhigh, hd⟩
      rw [ofText?_eq_of_components (components?_eq_some_iff.mpr hform),
        if_pos ((hfits _).mpr ⟨hlow, hhigh⟩), ← hd, Int64.ofInt_toInt]
  · have hle := natAbs_le_of_within ((hfits _).mpr hfit)
    rw [total_natAbs] at hle
    exact magnitude?_of_le hle

end Colonnade.Duration
