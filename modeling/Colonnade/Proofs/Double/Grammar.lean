import Colonnade.Number.Localized
import Colonnade.Proofs.Conversion.Digits
import Colonnade.Proofs.Double.Nearest

/-!
# The numbers of a locale

The grammar of the numbers of a locale, stated without a word about how a text is scanned:

> `sign? grouped? (separator digit*)? ([eE] sign? digit+)?`

with a digit in the whole part or in the fraction. A derivation says what the number is made of (`Parts`), and
with that which rational number it denotes (`Parts.value`). The grammar of float literals is the same but for
the separators, so the rewriting of a text as a literal keeps the parts (`literal?_of_form`), and a literal
is always read (`ofLiteral?_of_form`), as the nearest double to its value (`nearest_parts`).

The scanner stops at the first character that it cannot use. What it has taken is a whole part
(`exists_of_readWhole?`), and it takes all of one, if what follows begins with the decimal separator or cannot
group digits (`Grouped.read`). So nothing but the numbers of the locale and the sentinels is read:
`readDouble?_iff_form`.
-/

namespace Colonnade.Number

/-! ### Signs, fractions and exponents -/

/-- **An optional sign.** -/
inductive Sign : List Char → Bool → Prop
  | absent : Sign [] false
  | plus : Sign ['+'] false
  | minus : Sign ['-'] true

/-- **An integer**: digits behind an optional sign. -/
inductive IntegerForm : List Char → ℤ → Prop
  | mk {s ds : List Char} {negative : Bool} (hsign : Sign s negative) (hds : IsDigits ds) :
      IntegerForm (s ++ ds) (if negative then -valueOf ds else valueOf ds)

/-- **An optional fraction**: digits behind a separator, or the separator alone. -/
inductive FractionForm (separator : Char) : List Char → List Char → Prop
  | absent : FractionForm separator [] []
  | digits {ds : List Char} (hds : ∀ c ∈ ds, c.isDigit = true) :
      FractionForm separator (separator :: ds) ds

/-- **An optional exponent**: an integer behind a mark. -/
inductive ExponentForm : List Char → ℤ → Prop
  | absent : ExponentForm [] 0
  | marked {c : Char} {cs : List Char} {e : ℤ} (hc : Double.isExponentMark c = true)
      (h : IntegerForm cs e) : ExponentForm (c :: cs) e

/-- The text does not begin with a sign. -/
def Unsigned (rest : List Char) : Prop :=
  ∀ c ∈ rest.head?, c ≠ '+' ∧ c ≠ '-'

theorem unsigned_of_digit {c : Char} (hc : c.isDigit = true) (rest : List Char) :
    Unsigned (c :: rest) := by
  rintro _ ⟨⟩
  constructor <;> rintro rfl <;> revert hc <;> decide

variable {s ds cs f x rest text : List Char} {negative : Bool} {e : ℤ}

/-- **A sign is taken off the start of a text.** -/
theorem Sign.split (h : Sign s negative) (hrest : Unsigned rest) :
    Double.splitSign (s ++ rest) = (s, rest) := by
  cases h with
  | absent =>
    rw [List.nil_append]
    unfold Double.splitSign
    split
    next => exact absurd rfl (hrest '-' rfl).2
    next => exact absurd rfl (hrest '+' rfl).1
    next => rfl
  | plus => rfl
  | minus => rfl

theorem Sign.eq_minus_iff (h : Sign s negative) : (s == ['-']) = negative := by
  cases h <;> rfl

theorem exists_of_splitSign (cs : List Char) :
    ∃ negative, Sign (Double.splitSign cs).1 negative ∧
      (Double.splitSign cs).1 ++ (Double.splitSign cs).2 = cs := by
  unfold Double.splitSign
  split
  · exact ⟨true, .minus, rfl⟩
  · exact ⟨false, .plus, rfl⟩
  · exact ⟨false, .absent, rfl⟩

theorem readNat?_eq_some_iff {n : Nat} : readNat? cs = some n ↔ IsDigits cs ∧ n = valueOf cs := by
  unfold readNat?
  constructor
  · intro h
    split at h
    next hc =>
      obtain ⟨hne, hall⟩ := Bool.and_eq_true_iff.mp hc
      exact ⟨⟨by simpa using hne, List.all_eq_true.mp hall⟩, (Option.some.inj h).symm⟩
    next => cases h
  · rintro ⟨hds, rfl⟩
    rw [if_pos]
    exact Bool.and_eq_true_iff.mpr ⟨by simpa using hds.ne_nil, List.all_eq_true.mpr hds.digits⟩

/-- **Reading an integer.** -/
theorem readInt?_eq_some_iff {i : ℤ} : readInt? cs = some i ↔ IntegerForm cs i := by
  constructor
  · intro h
    unfold readInt? at h
    split at h <;> obtain ⟨n, hn, rfl⟩ := Option.map_eq_some_iff.mp h <;>
      obtain ⟨hds, rfl⟩ := readNat?_eq_some_iff.mp hn
    · exact .mk .plus hds
    · exact .mk .minus hds
    · exact .mk .absent hds
  · rintro ⟨hsign, hds⟩
    next s ds negative =>
    have hread := readNat?_eq_some_iff.mpr ⟨hds, rfl⟩
    cases hsign with
    | plus => simp [readInt?, hread]
    | minus => simp [readInt?, hread]
    | absent =>
      obtain ⟨c, tail, rfl⟩ := List.exists_cons_of_ne_nil hds.ne_nil
      obtain ⟨hplus, hminus⟩ := unsigned_of_digit (hds.digits c List.mem_cons_self) tail c rfl
      simp [readInt?, hplus, hminus, hread]

/-- **Reading an exponent.** -/
theorem exponent?_eq_some_iff : Double.exponent? x = some e ↔ ExponentForm x e := by
  unfold Double.exponent?
  constructor
  · intro h
    split at h
    next =>
      obtain rfl := Option.some.inj h
      exact .absent
    next =>
      split at h
      next hc => exact .marked hc (readInt?_eq_some_iff.mp h)
      next => cases h
  · rintro (_ | ⟨hc, h⟩)
    · rfl
    · simp [hc, readInt?_eq_some_iff.mpr h]

/-- An exponent begins with its mark. -/
theorem ExponentForm.head (h : ExponentForm x e) : ∀ c ∈ x.head?, Double.isExponentMark c = true := by
  cases h with
  | absent => simp
  | marked hc _ => rintro _ ⟨⟩; exact hc

theorem not_isDigit_of_isExponentMark {c : Char} (h : Double.isExponentMark c = true) :
    c.isDigit = false := by
  rcases Bool.or_eq_true_iff.mp h with h | h <;> obtain rfl := eq_of_beq h <;> decide

theorem ExponentForm.halts (h : ExponentForm x e) : Halts x := fun c hc =>
  not_isDigit_of_isExponentMark (h.head c hc)

/-! ### What a number is made of -/

/-- **What a number is made of**, its separators left out. -/
structure Parts where
  negative : Bool
  whole : List Char
  fraction : List Char
  exponent : ℤ

/-- **The number that is denoted**: the whole part and the fraction behind the point, times the power of
ten. -/
def Parts.value (n : Parts) : ℚ :=
  Double.signed n.negative
    ((valueOf n.whole + valueOf n.fraction / 10 ^ n.fraction.length) * 10 ^ n.exponent)

/-- The double that a literal of these parts stands for. -/
def Parts.double (n : Parts) : Double :=
  .ofDecimal n.negative (valueOf (n.whole ++ n.fraction)) (n.exponent - n.fraction.length)

/-- **A float literal and its parts.** -/
inductive LiteralForm : List Char → Parts → Prop
  | mk {s whole f fraction x : List Char} {negative : Bool} {e : ℤ} (hsign : Sign s negative)
      (hwhole : ∀ c ∈ whole, c.isDigit = true) (hfraction : FractionForm '.' f fraction)
      (hexponent : ExponentForm x e) (hne : whole ≠ [] ∨ fraction ≠ []) :
      LiteralForm (s ++ (whole ++ (f ++ x))) ⟨negative, whole, fraction, e⟩

/-- **The double of some parts is the nearest one to their value.** -/
theorem nearest_parts (n : Parts) : Double.Nearest n.value n.double := by
  have hvalue : n.value = Double.signed n.negative
      ((valueOf (n.whole ++ n.fraction) : ℕ) * 10 ^ (n.exponent - n.fraction.length)) := by
    rw [Parts.value, valueOf_append, zpow_sub₀ (by norm_num), zpow_natCast]
    congr 1
    push_cast
    field_simp
  rw [hvalue]
  exact Double.nearest_ofDecimal _ _ _

theorem not_isAlpha_of_isDigit {c : Char} (h : c.isDigit = true) : c.isAlpha = false := by
  simp only [Char.isDigit, Char.isAlpha, Char.isUpper, Char.isLower, Bool.and_eq_true,
    Bool.or_eq_false_iff, Bool.and_eq_false_iff, decide_eq_true_eq, decide_eq_false_iff_not] at h ⊢
  simp only [ge_iff_le, UInt32.le_iff_toNat_le] at h ⊢
  have h57 : ('9'.val).toNat = 57 := rfl
  have h65 : ('A'.val).toNat = 65 := rfl
  have h97 : ('a'.val).toNat = 97 := rfl
  omega

/-- A text that begins with a digit or a point is no word in letters. -/
theorem not_sameLetters {c d : Char} {ds : List Char} (hc : c.isAlpha = false) (hd : d.isAlpha = true) :
    Text.sameLetters (c :: cs) (d :: ds) = false := by
  have hne : c.toLower ≠ d.toLower := by
    intro h
    rw [← Char.isAlpha_toLower_eq_isAlpha, h, Char.isAlpha_toLower_eq_isAlpha, hd] at hc
    cases hc
  simp [Text.sameLetters, hne]

/-- A fraction with a separator that is no digit ends the digits in front of it. -/
theorem FractionForm.halts {separator : Char} {fraction : List Char} (h : FractionForm separator f fraction)
    (hseparator : separator.isDigit = false) (hx : Halts x) : Halts (f ++ x) := by
  cases h with
  | absent => exact hx
  | digits _ => exact halts_cons.mpr hseparator

theorem FractionForm.split {fraction : List Char} (h : FractionForm '.' f fraction)
    (hx : ExponentForm x e) : Double.splitFraction (f ++ x) = (fraction, x) := by
  cases h with
  | absent =>
    rw [List.nil_append]
    unfold Double.splitFraction
    split
    next => exact absurd (hx.head '.' rfl) (by decide)
    next => rfl
  | digits hds =>
    simp [Double.splitFraction, takeWhile_digits hds hx.halts, dropWhile_digits hds hx.halts]

/-- **A literal is read.** -/
theorem ofLiteral?_of_form {n : Parts} (h : LiteralForm text n) :
    Double.ofLiteral? text = some n.double := by
  obtain ⟨hsign, hwhole, hfraction, hexponent, hne⟩ := h
  next s whole f fraction x negative e =>
  have hhalts : Halts (f ++ x) := hfraction.halts (by decide) hexponent.halts
  -- the number begins with a digit or a point
  obtain ⟨c, body, hbody, hc⟩ : ∃ c body, whole ++ (f ++ x) = c :: body ∧
      c.isAlpha = false ∧ c ≠ '+' ∧ c ≠ '-' := by
    cases whole with
    | cons c whole =>
      have hc := hwhole c List.mem_cons_self
      exact ⟨c, _, rfl, not_isAlpha_of_isDigit hc, unsigned_of_digit hc whole c rfl⟩
    | nil =>
      cases hfraction with
      | absent => simp at hne
      | digits _ => exact ⟨'.', _, rfl, by decide, by decide, by decide⟩
  have hunsigned : Unsigned (whole ++ (f ++ x)) := by
    rw [hbody]
    rintro _ ⟨⟩
    exact hc.2
  have hempty : (whole.isEmpty && fraction.isEmpty) = false := by
    rcases hne with hne | hne <;> simp [hne]
  have hletters (d : Char) (ds : List Char) (hd : d.isAlpha = true) :
      Text.sameLetters (whole ++ (f ++ x)) (d :: ds) = false := by
    rw [hbody]
    exact not_sameLetters hc.1 hd
  simp [Double.ofLiteral?, hsign.split hunsigned, hsign.eq_minus_iff, hletters, Double.ofUnsigned?,
    takeWhile_digits hwhole hhalts, dropWhile_digits hwhole hhalts, hfraction.split hexponent,
    hempty, exponent?_eq_some_iff.mpr hexponent, Parts.double]

/-! ### The whole part -/

/-- **Digits in groups**: single grouping characters, each of them between two digits. -/
inductive Grouped (l : Locale) : List Char → List Char → Prop
  | digit {c : Char} (hc : c.isDigit = true) : Grouped l [c] [c]
  | next {c : Char} {text ds : List Char} (hc : c.isDigit = true) (h : Grouped l text ds) :
      Grouped l (c :: text) (c :: ds)
  | group {c g : Char} {text ds : List Char} (hc : c.isDigit = true) (hg : l.isGrouping g = true)
      (h : Grouped l text ds) : Grouped l (c :: g :: text) (c :: ds)

/-- **An optional whole part.** -/
inductive WholeForm (l : Locale) : List Char → List Char → Prop
  | absent : WholeForm l [] []
  | grouped {text ds : List Char} (h : Grouped l text ds) : WholeForm l text ds

/-- **A number in the writing of a locale**, and its parts. -/
inductive NumberForm (l : Locale) : List Char → Parts → Prop
  | mk {s i whole f fraction x : List Char} {negative : Bool} {e : ℤ} (hsign : Sign s negative)
      (hwhole : WholeForm l i whole) (hfraction : FractionForm l.decimalSeparator f fraction)
      (hexponent : ExponentForm x e) (hne : whole ≠ [] ∨ fraction ≠ []) :
      NumberForm l (s ++ (i ++ (f ++ x))) ⟨negative, whole, fraction, e⟩

/-- **A separator that does not occur in numbers otherwise.** -/
structure IsSeparator (c : Char) : Prop where
  not_digit : c.isDigit = false
  not_plus : c ≠ '+'
  not_minus : c ≠ '-'
  not_mark : Double.isExponentMark c = false

/-- **A locale whose numbers can be told apart**: both separators are none of the other characters of a
number, and the one in front of the fraction does not group digits. -/
structure Separable (l : Locale) : Prop where
  decimal : IsSeparator l.decimalSeparator
  grouping : IsSeparator l.groupingSeparator
  distinct : l.isGrouping l.decimalSeparator = false

variable {l : Locale}

/-- The other characters that group digits are separators too. -/
theorem Separable.isSeparator (hl : Separable l) {g : Char} (hg : l.isGrouping g = true) :
    IsSeparator g := by
  rcases Bool.or_eq_true_iff.mp hg with hg | hg
  · rw [eq_of_beq hg]
    exact hl.grouping
  · rcases Bool.or_eq_true_iff.mp (Bool.and_eq_true_iff.mp hg).2 with hg | hg <;>
      rw [eq_of_beq hg] <;> exact ⟨by decide, by decide, by decide, by decide⟩

theorem Grouped.exists_cons {ds : List Char} (h : Grouped l text ds) :
    ∃ c tail, text = c :: tail ∧ c.isDigit = true := by
  cases h with
  | digit hc => exact ⟨_, _, rfl, hc⟩
  | next hc _ => exact ⟨_, _, rfl, hc⟩
  | group hc _ _ => exact ⟨_, _, rfl, hc⟩

theorem Grouped.isDigits {ds : List Char} (h : Grouped l text ds) : IsDigits ds := by
  induction h with
  | digit hc => exact ⟨by simp, by simpa using hc⟩
  | next hc _ ih => exact ⟨by simp, List.forall_mem_cons.mpr ⟨hc, ih.digits⟩⟩
  | group hc _ _ ih => exact ⟨by simp, List.forall_mem_cons.mpr ⟨hc, ih.digits⟩⟩

/-- **What ends a whole part**: nothing, the separator of the fraction, or a character that is neither a
digit nor groups digits. -/
def EndsWhole (l : Locale) (rest : List Char) : Prop :=
  ∀ c ∈ rest.head?, c.isDigit = false ∧ (c = l.decimalSeparator ∨ l.isGrouping c = false)

/-- A digit is taken. -/
theorem readWhole?_digit {c : Char} (hc : c.isDigit = true) (afterDigit : Bool) (cs : List Char) :
    Localized.readWhole? l afterDigit (c :: cs) =
      (Localized.readWhole? l true cs).map fun (ds, rest) => (c :: ds, rest) := by
  rw [Localized.readWhole?.eq_def]
  simp [hc]

theorem EndsWhole.read (hrest : EndsWhole l rest) (afterDigit : Bool) :
    Localized.readWhole? l afterDigit rest = some ([], rest) := by
  cases rest with
  | nil => rfl
  | cons c rest =>
    obtain ⟨hc, hend⟩ := hrest c rfl
    rw [Localized.readWhole?.eq_def]
    rcases hend with rfl | hend
    · simp [hc]
    · simp [hc, hend]

/-- **The scanner takes all of a whole part.** -/
theorem Grouped.read (hl : Separable l) (h : Grouped l text ds) (hrest : EndsWhole l rest)
    (afterDigit : Bool) : Localized.readWhole? l afterDigit (text ++ rest) = some (ds, rest) := by
  induction h generalizing afterDigit with
  | digit hc =>
    rw [List.singleton_append, readWhole?_digit hc, hrest.read]
    rfl
  | next hc _ ih =>
    rw [List.cons_append, readWhole?_digit hc, ih]
    rfl
  | @group c g text ds hc hg h ih =>
    obtain ⟨d, tail, rfl, hd⟩ := h.exists_cons
    have hg' : (g = l.decimalSeparator) = False := by
      rw [eq_iff_iff, iff_false]
      rintro rfl
      rw [hl.distinct] at hg
      cases hg
    have hdigit := (hl.isSeparator hg).not_digit
    simp only [List.cons_append] at ih ⊢
    rw [readWhole?_digit hc, Localized.readWhole?]
    simp [hdigit, hg', hg, hd, ih]

theorem WholeForm.read (hl : Separable l) (h : WholeForm l text ds) (hrest : EndsWhole l rest) :
    Localized.readWhole? l false (text ++ rest) = some (ds, rest) := by
  cases h with
  | absent => exact hrest.read false
  | grouped h => exact h.read hl hrest false

/-- **What the scanner has taken**, from the start of a text or behind a digit: digits in groups if the text
begins with a digit; behind a digit, digits in groups together with it; else an optional whole part. -/
structure Taken (l : Locale) (afterDigit : Bool) (cs text ds : List Char) : Prop where
  grouped : (∃ c ∈ cs.head?, c.isDigit = true) → Grouped l text ds
  after : afterDigit = true → ∀ c, c.isDigit = true → Grouped l (c :: text) (c :: ds)
  whole : afterDigit = false → WholeForm l text ds

theorem taken_nil {c : Char} (hc : c.isDigit = false) (afterDigit : Bool) :
    Taken l afterDigit (c :: cs) [] [] :=
  ⟨fun ⟨_, hhead, hd⟩ => absurd (hd.symm.trans (Option.some.inj hhead ▸ hc)) (by decide),
    fun _ _ hd => .digit hd, fun _ => .absent⟩

/-- **Whatever the scanner takes is a whole part.** -/
theorem exists_of_readWhole? {afterDigit : Bool}
    (h : Localized.readWhole? l afterDigit cs = some (ds, rest)) :
    ∃ text, cs = text ++ rest ∧ Taken l afterDigit cs text ds := by
  induction afterDigit, cs using Localized.readWhole?.induct l generalizing ds with
  | case1 afterDigit =>
    obtain ⟨rfl, rfl⟩ := Prod.mk.inj (Option.some.inj h)
    exact ⟨[], rfl, by simp, fun _ c hc => .digit hc, fun _ => .absent⟩
  | case2 afterDigit c cs hc ih =>
    rw [readWhole?_digit hc] at h
    obtain ⟨⟨ds, rest⟩, hread, hpair⟩ := Option.map_eq_some_iff.mp h
    obtain ⟨rfl, rfl⟩ := Prod.mk.inj hpair
    obtain ⟨text, rfl, htaken⟩ := ih hread
    have hgrouped := htaken.after rfl c hc
    exact ⟨c :: text, rfl, fun _ => hgrouped, fun _ d hd => .next hd hgrouped,
      fun _ => .grouped hgrouped⟩
  | case3 afterDigit cs hc =>
    rw [Bool.not_eq_true] at hc
    rw [Localized.readWhole?.eq_def] at h
    simp only [hc, Bool.false_eq_true, if_false, if_true, Option.some.injEq, Prod.mk.injEq] at h
    obtain ⟨rfl, rfl⟩ := h
    exact ⟨[], rfl, taken_nil hc afterDigit⟩
  | case4 afterDigit g hg hne hgroups d tail hd ih =>
    rw [Localized.readWhole?, if_neg hg, if_neg hne, if_pos hgroups, if_pos hd] at h
    obtain ⟨text, htext, htaken⟩ := ih h
    obtain ⟨rfl, hgroup⟩ := Bool.and_eq_true_iff.mp hgroups
    rw [Bool.not_eq_true] at hg
    refine ⟨g :: text, by rw [htext]; rfl, ?_, ?_, by simp⟩
    · rintro ⟨_, hhead, hd'⟩
      cases hhead
      rw [hg] at hd'
      cases hd'
    · exact fun _ c hc => .group hc hgroup (htaken.grouped ⟨d, rfl, hd⟩)
  | case5 afterDigit g hg hne hgroups d tail hd =>
    rw [Localized.readWhole?, if_neg hg, if_neg hne, if_pos hgroups, if_neg hd] at h
    cases h
  | case6 afterDigit g hg hne hgroups =>
    rw [Localized.readWhole?, if_neg hg, if_neg hne, if_pos hgroups] at h
    cases h
  | case7 afterDigit c cs hc hne hgroups =>
    rw [Localized.readWhole?.eq_def] at h
    simp only [hc, hne, hgroups, if_false] at h
    obtain ⟨rfl, rfl⟩ := Prod.mk.inj (Option.some.inj h)
    exact ⟨[], rfl, taken_nil (by simpa using hc) afterDigit⟩

/-! ### The rest of a number -/

/-- **A fraction is rewritten** with a point, and all of it is taken. -/
theorem FractionForm.read {fraction : List Char} (hl : Separable l)
    (h : FractionForm l.decimalSeparator f fraction) (hx : ExponentForm x e) :
    ∃ f', Localized.readFraction l (f ++ x) = (f', x) ∧ FractionForm '.' f' fraction ∧
      f'.tail = fraction := by
  cases h with
  | absent =>
    refine ⟨[], ?_, .absent, rfl⟩
    cases x with
    | nil => rfl
    | cons c x =>
      have hne : c ≠ l.decimalSeparator := by
        rintro rfl
        have hmark := hx.head _ rfl
        rw [hl.decimal.not_mark] at hmark
        cases hmark
      simp [Localized.readFraction, hne]
  | digits hds =>
    refine ⟨'.' :: fraction, ?_, .digits hds, rfl⟩
    simp [Localized.readFraction, takeWhile_digits hds hx.halts, dropWhile_digits hds hx.halts]

/-- Whatever is taken as a fraction is one. -/
theorem exists_of_readFraction {f' : List Char} (h : Localized.readFraction l cs = (f', rest)) :
    ∃ f, cs = f ++ rest ∧ FractionForm l.decimalSeparator f f'.tail := by
  unfold Localized.readFraction at h
  split at h
  next c cs =>
    split at h
    next hc =>
      obtain ⟨rfl, rfl⟩ := Prod.mk.inj h
      refine ⟨c :: cs.takeWhile Char.isDigit, by simp, ?_⟩
      subst hc
      exact .digits fun _ hd => List.all_eq_true.mp List.all_takeWhile _ hd
    next =>
      obtain ⟨rfl, rfl⟩ := Prod.mk.inj h
      exact ⟨[], rfl, .absent⟩
  next =>
    obtain ⟨rfl, rfl⟩ := Prod.mk.inj h
    exact ⟨[], rfl, .absent⟩

/-- **An exponent is rewritten** with a small mark. -/
theorem ExponentForm.read (h : ExponentForm x e) :
    ∃ x', Localized.readExponent? x = some x' ∧ ExponentForm x' e := by
  cases h with
  | absent => exact ⟨[], rfl, .absent⟩
  | @marked c cs e hc h =>
    exact ⟨'e' :: cs, by simp [Localized.readExponent?, hc, readInt?_eq_some_iff.mpr h],
      .marked rfl h⟩

/-- What is taken as an exponent is one. -/
theorem exists_of_readExponent? {x' : List Char} (h : Localized.readExponent? x = some x') :
    ∃ e, ExponentForm x e := by
  unfold Localized.readExponent? at h
  split at h
  next => exact ⟨0, .absent⟩
  next c cs =>
    split at h
    next hc =>
      obtain ⟨hmark, hread⟩ := Bool.and_eq_true_iff.mp hc
      obtain ⟨e, he⟩ := Option.isSome_iff_exists.mp hread
      exact ⟨e, .marked hmark (readInt?_eq_some_iff.mp he)⟩
    next => cases h

/-! ### The number as a literal -/

theorem endsWhole_of_form {fraction : List Char} (hl : Separable l)
    (hfraction : FractionForm l.decimalSeparator f fraction) (hx : ExponentForm x e) :
    EndsWhole l (f ++ x) := by
  cases hfraction with
  | digits _ =>
    rintro _ ⟨⟩
    exact ⟨hl.decimal.not_digit, .inl rfl⟩
  | absent =>
    intro c hc
    refine ⟨hx.halts c hc, .inr ?_⟩
    by_contra hg
    have hmark := hx.head c hc
    rw [(hl.isSeparator (by simpa using hg)).not_mark] at hmark
    cases hmark

/-- **A number in the writing of a locale has a literal of the same parts.** -/
theorem literal?_of_form {n : Parts} (hl : Separable l) (h : NumberForm l cs n) :
    ∃ text, Localized.literal? l cs = some text ∧ LiteralForm text n := by
  obtain ⟨hsign, hwhole, hfraction, hexponent, hne⟩ := h
  next s i whole f fraction x negative e =>
  have hends := endsWhole_of_form hl hfraction hexponent
  have hunsigned : Unsigned (i ++ (f ++ x)) := by
    cases hwhole with
    | grouped h =>
      obtain ⟨c, tail, rfl, hc⟩ := h.exists_cons
      exact unsigned_of_digit hc _
    | absent =>
      cases hfraction with
      | absent => simp at hne
      | digits _ =>
        rintro _ ⟨⟩
        exact ⟨hl.decimal.not_plus, hl.decimal.not_minus⟩
  obtain ⟨f', hreadFraction, hform, htail⟩ := hfraction.read hl hexponent
  obtain ⟨x', hreadExponent, hform'⟩ := hexponent.read
  have hdigits : ∀ c ∈ whole, c.isDigit = true := by
    cases hwhole with
    | absent => simp
    | grouped h => exact h.isDigits.digits
  refine ⟨s ++ (whole ++ (f' ++ x')), ?_, .mk hsign hdigits hform hform' hne⟩
  simp [Localized.literal?, hsign.split hunsigned, hwhole.read hl hends, hreadFraction, htail,
    hreadExponent]
  exact fun hnone => hne.resolve_left (not_not.mpr hnone)

/-- **Only the numbers of the locale have a literal.** -/
theorem exists_form_of_literal? (h : Localized.literal? l cs = some text) : ∃ n, NumberForm l cs n := by
  unfold Localized.literal? at h
  obtain ⟨negative, hsign, hcs⟩ := exists_of_splitSign cs
  rcases hsplit : Double.splitSign cs with ⟨s, body⟩
  rw [hsplit] at h hsign hcs
  obtain ⟨⟨whole, afterWhole⟩, hread, hnumber⟩ := Option.bind_eq_some_iff.mp h
  rcases hreadFraction : Localized.readFraction l afterWhole with ⟨f', rest⟩
  simp only [hreadFraction] at hnumber
  obtain ⟨i, hi, htaken⟩ := exists_of_readWhole? hread
  obtain ⟨f, hf, hfraction⟩ := exists_of_readFraction hreadFraction
  split at hnumber
  next => cases hnumber
  next hne =>
    obtain ⟨x', hreadExponent, -⟩ := Option.bind_eq_some_iff.mp hnumber
    obtain ⟨e, hexponent⟩ := exists_of_readExponent? hreadExponent
    refine ⟨⟨negative, whole, f'.tail, e⟩, ?_⟩
    rw [← hcs, show body = i ++ (f ++ rest) from hf ▸ hi]
    exact .mk hsign (htaken.whole rfl) hfraction hexponent (by simpa [imp_iff_not_or] using hne)

/-! ### Sentinels -/

/-- **The text of no number or an infinity**, in letters of either case. -/
inductive SentinelForm : List Char → Double → Prop
  | nan {cs : List Char} (h : cs.map Char.toUpper = ['N', 'A', 'N']) : SentinelForm cs .nan
  | infinite {s cs : List Char} {negative : Bool} (hsign : Sign s negative)
      (h : cs.map Char.toUpper = ['I', 'N', 'F'] ∨
        cs.map Char.toUpper = ['I', 'N', 'F', 'I', 'N', 'I', 'T', 'Y']) :
      SentinelForm (s ++ cs) (.infinite negative)

/-- A character that is no letter has no other case. -/
theorem eq_of_toUpper_eq {c d : Char} (h : c.toUpper = d) (hd : d.isAlpha = false) : c = d := by
  have hc : c.isAlpha = false := by rw [← Char.isAlpha_toUpper_eq_isAlpha, h, hd]
  have hlower : ¬c.isLower = true := by
    intro hlower
    simp [Char.isAlpha, hlower] at hc
  rw [← h, Char.toUpper_eq_of_not_isLower hlower]

/-- A word behind a sign, in letters of either case. -/
theorem exists_of_map_toUpper {d : Char} {ds : List Char} (h : cs.map Char.toUpper = d :: ds)
    (hd : d.isAlpha = false) : ∃ tail, cs = d :: tail ∧ tail.map Char.toUpper = ds := by
  obtain ⟨c, tail, rfl, hc, htail⟩ := List.map_eq_cons_iff.mp h
  exact ⟨tail, by rw [eq_of_toUpper_eq hc hd], htail⟩

/-- **Reading a sentinel.** -/
theorem sentinel?_eq_some_iff {t : String} {d : Double} :
    sentinel? t = some d ↔ SentinelForm t.toList d := by
  have hupper : Text.upper t = String.ofList (t.toList.map Char.toUpper) := rfl
  constructor
  · intro h
    have hletters {w : String} (hw : Text.upper t = w) : t.toList.map Char.toUpper = w.toList := by
      rw [← hw, hupper, String.toList_ofList]
    have hinfinite {negative : Bool} {c : Char} {ds : List Char} (hsign : Sign [c] negative)
        (hc : c.isAlpha = false) (hw : t.toList.map Char.toUpper = c :: ds)
        (hds : ds = ['I', 'N', 'F'] ∨ ds = ['I', 'N', 'F', 'I', 'N', 'I', 'T', 'Y']) :
        SentinelForm t.toList (.infinite negative) := by
      obtain ⟨tail, htail, rfl⟩ := exists_of_map_toUpper hw hc
      rw [htail]
      exact .infinite hsign hds
    unfold sentinel? at h
    split at h
    next hw => exact Option.some.inj h ▸ .nan (hletters hw)
    next hw => exact Option.some.inj h ▸ .infinite .absent (.inl (hletters hw))
    next hw => exact Option.some.inj h ▸ .infinite .absent (.inr (hletters hw))
    next hw => exact Option.some.inj h ▸ hinfinite .plus rfl (hletters hw) (.inl rfl)
    next hw => exact Option.some.inj h ▸ hinfinite .plus rfl (hletters hw) (.inr rfl)
    next hw => exact Option.some.inj h ▸ hinfinite .minus rfl (hletters hw) (.inl rfl)
    next hw => exact Option.some.inj h ▸ hinfinite .minus rfl (hletters hw) (.inr rfl)
    next => cases h
  · intro h
    generalize hcs : t.toList = cs at h hupper
    cases h with
    | nan h => simp [sentinel?, hupper, h]
    | infinite hsign h =>
      rw [List.map_append] at hupper
      cases hsign <;> rcases h with h | h <;> simp [sentinel?, hupper, h, Char.toUpper]

/-- **A sentinel is made of signs and of the letters of its words**, in either case. -/
theorem SentinelForm.mem {d : Double} (h : SentinelForm cs d) {c : Char} (hc : c ∈ cs) :
    c ∈ ['+', '-'] ∨ c.toUpper ∈ ['A', 'F', 'I', 'N', 'T', 'Y'] := by
  have hword {word cs : List Char} (hcs : cs.map Char.toUpper = word)
      (hletters : ∀ d ∈ word, d ∈ ['A', 'F', 'I', 'N', 'T', 'Y']) (hc : c ∈ cs) :
      c.toUpper ∈ ['A', 'F', 'I', 'N', 'T', 'Y'] :=
    hletters c.toUpper (hcs ▸ List.mem_map_of_mem hc)
  cases h with
  | nan h => exact .inr (hword h (by simp) hc)
  | infinite hsign h =>
    rcases List.mem_append.mp hc with hc | hc
    · left
      cases hsign <;> simp_all
    · right
      rcases h with h | h <;> exact hword h (by simp) hc

/-- No digit stands in a sentinel. -/
theorem SentinelForm.not_digit {d : Double} (h : SentinelForm cs d) : ∀ c ∈ cs, c.isDigit = false := by
  intro c hc
  by_contra hdigit
  have hdigit : c.isDigit = true := by simpa using hdigit
  rcases h.mem hc with hsign | hletter
  · rcases List.mem_pair.mp hsign with rfl | rfl <;> revert hdigit <;> decide
  · have halpha : c.toUpper.isAlpha = true :=
      List.all_eq_true.mp (rfl : ['A', 'F', 'I', 'N', 'T', 'Y'].all Char.isAlpha = true) _ hletter
    rw [Char.isAlpha_toUpper_eq_isAlpha, not_isAlpha_of_isDigit hdigit] at halpha
    cases halpha

/-- A digit stands in a number. -/
theorem NumberForm.exists_digit {n : Parts} (h : NumberForm l cs n) : ∃ c ∈ cs, c.isDigit = true := by
  obtain ⟨-, hwhole, hfraction, -, hne⟩ := h
  rcases hne with hne | hne
  · cases hwhole with
    | absent => exact absurd rfl hne
    | grouped h =>
      obtain ⟨c, tail, rfl, hc⟩ := h.exists_cons
      exact ⟨c, by simp, hc⟩
  · cases hfraction with
    | absent => exact absurd rfl hne
    | digits hds =>
      obtain ⟨c, tail, hfraction⟩ := List.exists_cons_of_ne_nil hne
      subst hfraction
      exact ⟨c, by simp, hds c List.mem_cons_self⟩

theorem NumberForm.not_sentinel {n : Parts} {d : Double} (h : NumberForm l cs n) :
    ¬SentinelForm cs d := by
  obtain ⟨c, hc, hdigit⟩ := h.exists_digit
  intro hsentinel
  rw [hsentinel.not_digit c hc] at hdigit
  cases hdigit

/-! ### All texts -/

/-- **A sentinel is read.** -/
theorem readDouble?_of_sentinel {t : String} {d : Double} (h : SentinelForm t.toList d) :
    readDouble? l t = some d := by
  rw [readDouble?, sentinel?_eq_some_iff.mpr h, Option.some_or]

/-- **A number is read** from its literal. -/
theorem readDouble?_of_form {t : String} {n : Parts} (hl : Separable l) (h : NumberForm l t.toList n) :
    ∃ literal, Localized.literal? l t.toList = some literal ∧
      Double.ofLiteral? literal = some n.double ∧ readDouble? l t = some n.double := by
  obtain ⟨literal, hliteral, hform⟩ := literal?_of_form hl h
  have hread := ofLiteral?_of_form hform
  have hnone : sentinel? t = none := by
    rw [Option.eq_none_iff_forall_not_mem]
    exact fun d hd => h.not_sentinel (sentinel?_eq_some_iff.mp hd)
  exact ⟨literal, hliteral, hread,
    by rw [readDouble?, hnone, Option.none_or, hliteral, Option.bind_some, hread]⟩

/-- **Nothing else is read.** -/
theorem form_of_readDouble? {t : String} {d : Double} (hl : Separable l) (h : readDouble? l t = some d) :
    SentinelForm t.toList d ∨ ∃ n, NumberForm l t.toList n ∧ d = n.double := by
  rcases Option.or_eq_some_iff.mp h with hsentinel | ⟨-, hd⟩
  · exact .inl (sentinel?_eq_some_iff.mp hsentinel)
  · obtain ⟨literal, hliteral, -⟩ := Option.bind_eq_some_iff.mp hd
    obtain ⟨n, hn⟩ := exists_form_of_literal? hliteral
    obtain ⟨-, -, -, hread⟩ := readDouble?_of_form hl hn
    exact .inr ⟨n, hn, Option.some.inj (h.symm.trans hread)⟩

/-- **Which texts are doubles in a locale, and which doubles they are**: the sentinels, and the numbers in its
writing. A number is rewritten as a literal that is always read, and the double is the nearest one to the
number that is denoted, with its sign. -/
theorem readDouble?_iff_form (hl : Separable l) (t : String) :
    ((readDouble? l t).isSome = true ↔
      (∃ d, SentinelForm t.toList d) ∨ ∃ n, NumberForm l t.toList n) ∧
    (∀ d, SentinelForm t.toList d → readDouble? l t = some d) ∧
    ∀ n, NumberForm l t.toList n → ∃ literal d, Localized.literal? l t.toList = some literal ∧
      Double.ofLiteral? literal = some d ∧ readDouble? l t = some d ∧
      Double.Nearest n.value d ∧ d.isNegative = n.negative := by
  refine ⟨⟨fun h => ?_, ?_⟩, fun d => readDouble?_of_sentinel, fun n h => ?_⟩
  · obtain ⟨d, hd⟩ := Option.isSome_iff_exists.mp h
    rcases form_of_readDouble? hl hd with h | ⟨n, h, -⟩
    · exact .inl ⟨d, h⟩
    · exact .inr ⟨n, h⟩
  · rintro (⟨d, h⟩ | ⟨n, h⟩)
    · rw [readDouble?_of_sentinel h]
      rfl
    · obtain ⟨-, -, -, hread⟩ := readDouble?_of_form hl h
      rw [hread]
      rfl
  · obtain ⟨literal, hliteral, hread, hdouble⟩ := readDouble?_of_form hl h
    exact ⟨literal, n.double, hliteral, hread, hdouble, nearest_parts n,
      Double.isNegative_ofDecimal _ _ _⟩

/-- The separators of a French text can be told apart: `1 234,5e1` with a no-break space is read as `12345`. -/
theorem readDouble?_iff_form_french :
    Separable ⟨"fr", ',', Locale.noBreakSpace⟩ ∧
      ∃ d, readDouble? ⟨"fr", ',', Locale.noBreakSpace⟩ "1\u00a0234,5e1" = some d ∧
        Double.Nearest 12345 d := by
  have hl : Separable ⟨"fr", ',', Locale.noBreakSpace⟩ :=
    ⟨⟨by decide, by decide, by decide, by decide⟩, ⟨by decide, by decide, by decide, by decide⟩,
      by decide⟩
  have hform : NumberForm ⟨"fr", ',', Locale.noBreakSpace⟩ "1\u00a0234,5e1".toList
      ⟨false, ['1', '2', '3', '4'], ['5'], 1⟩ :=
    .mk (i := ['1', '\u00a0', '2', '3', '4']) (f := [',', '5']) (x := ['e', '1']) .absent
      (.grouped (.group rfl rfl (.next rfl (.next rfl (.digit rfl))))) (.digits (by simp))
      (.marked rfl (.mk .absent ⟨List.cons_ne_nil '1' [], by simp⟩)) (.inl (by simp))
  obtain ⟨_, d, -, -, hread, hnearest, -⟩ := (readDouble?_iff_form hl "1\u00a0234,5e1").2.2 _ hform
  refine ⟨hl, d, hread, ?_⟩
  have hvalue : Parts.value ⟨false, ['1', '2', '3', '4'], ['5'], 1⟩ = 12345 := by
    have hwhole : valueOf ['1', '2', '3', '4'] = 1234 := rfl
    have hfraction : valueOf ['5'] = 5 := rfl
    simp only [Parts.value, hwhole, hfraction]
    norm_num
  exact hvalue ▸ hnearest

end Colonnade.Number
