import Colonnade.Proofs.Conversion.Digits
import Colonnade.Proofs.Outcome
import Colonnade.Time.Duration

/-!
# The unit form of a duration

A duration in the unit form is written in words, such as `1h 30m`, and `UnitForm` is its grammar, stated here
without a word about how a text is read:

| | |
| --- | --- |
| `Text.Spaced` | words with white space between and around them |
| `UnitWord` | one word: digits, the digits of a fraction, and a unit |
| `UnitWords` | such words, at least one, the units strictly decreasing |
| `UnitForm` | such words, or a minus and such words, or `-(`, such words and `)` |

Every text is made of its words in exactly one way (`Text.spaced_words`, `Text.Spaced.words_eq`), and with
that the reader finds what the grammar derives, the sign and the components of a text: `units?_eq_some_iff`.
-/

namespace Colonnade

open Number

/-! ### Words and what is between them -/

namespace Text

/-- **A text of words**: white space, a word, white space, and so on. What follows a word is nothing, or
begins with white space. -/
inductive Spaced : List (List Char) → List Char → Prop
  | nil {gap : List Char} (hgap : ∀ c ∈ gap, isBlank c = true) : Spaced [] gap
  | cons {gap word rest : List Char} {ws : List (List Char)} (hgap : ∀ c ∈ gap, isBlank c = true)
      (hrest : ∀ c ∈ rest.head?, isBlank c = true) (h : Spaced ws rest) :
      Spaced (word :: ws) (gap ++ word ++ rest)

/-- A word: something without white space. -/
structure IsWord (word : List Char) : Prop where
  ne_nil : word ≠ []
  unblank : ∀ c ∈ word, isBlank c = false

/-- White space in front adds no word. -/
theorem words_gap {gap : List Char} (hgap : ∀ c ∈ gap, isBlank c = true) (cs : List Char) :
    words (gap ++ cs) = words cs := by
  induction gap with
  | nil => rfl
  | cons c gap ih =>
    obtain ⟨hc, hrest⟩ := List.forall_mem_cons.mp hgap
    rw [← ih hrest, List.cons_append, words, List.splitOnP_cons_eq_if_modifyHead, if_pos hc,
      List.filter_cons_of_neg (by simp), words]

/-- **A word in front is the first of the words.** -/
theorem words_word {word rest : List Char} (hword : IsWord word)
    (hrest : ∀ c ∈ rest.head?, isBlank c = true) : words (word ++ rest) = word :: words rest := by
  have hkept (ws : List (List Char)) : (word :: ws).filter (fun w => !w.isEmpty) =
      word :: ws.filter fun w => !w.isEmpty := List.filter_cons_of_pos (by simp [hword.ne_nil])
  cases rest with
  | nil => rw [List.append_nil, words, List.splitOnP_eq_singleton hword.unblank, hkept]; rfl
  | cons c rest =>
    have hc : ∀ d ∈ [c], isBlank d = true := by simpa using hrest
    have hgap : words (c :: rest) = words rest := words_gap hc rest
    rw [words, List.splitOnP_append_cons_of_forall_mem hword.unblank c (hrest c rfl), hkept, hgap]
    rfl

/-- **The words of a text are those that it is made of.** -/
theorem Spaced.words_eq {ws : List (List Char)} {cs : List Char} (h : Spaced ws cs)
    (hws : ∀ w ∈ ws, IsWord w) : words cs = ws := by
  induction h with
  | nil hgap =>
    have hnone := words_gap hgap []
    rwa [List.append_nil] at hnone
  | cons hgap hrest _ ih =>
    obtain ⟨hword, hws⟩ := List.forall_mem_cons.mp hws
    rw [List.append_assoc, words_gap hgap, words_word hword hrest, ih hws]

/-- **A text that does not begin with white space begins with a word**, which goes up to the next white
space. -/
theorem exists_word {c : Char} (hc : isBlank c = false) (cs : List Char) :
    ∃ word rest, c :: cs = word ++ rest ∧ IsWord word ∧ ∀ d ∈ rest.head?, isBlank d = true := by
  refine ⟨(c :: cs).takeWhile fun d => !isBlank d, (c :: cs).dropWhile fun d => !isBlank d,
    List.takeWhile_append_dropWhile.symm, ⟨?_, fun d hd => ?_⟩, fun d hd => ?_⟩
  · rw [List.takeWhile_cons_of_pos (by simp [hc])]
    simp
  · simpa using List.all_eq_true.mp List.all_takeWhile d hd
  · have hnext := List.head?_dropWhile_not (fun d => !isBlank d) (c :: cs)
    rw [Option.mem_def.mp hd] at hnext
    simpa using hnext

/-- **Every text is made of its words**, by induction on its length: white space and a word are taken off its
start. -/
theorem spaced_words (cs : List Char) : Spaced (words cs) cs ∧ ∀ w ∈ words cs, IsWord w := by
  induction hn : cs.length using Nat.strong_induction_on generalizing cs with
  | _ n ih =>
    subst hn
    have hgap : ∀ c ∈ cs.takeWhile isBlank, isBlank c = true := fun c hc =>
      List.all_eq_true.mp List.all_takeWhile c hc
    have hhead := List.head?_dropWhile_not isBlank cs
    have hsplit : cs.takeWhile isBlank ++ cs.dropWhile isBlank = cs := List.takeWhile_append_dropWhile
    rcases hbody : cs.dropWhile isBlank with _ | ⟨first, body⟩
    · rw [hbody, List.append_nil] at hsplit
      rw [← hsplit]
      have hnone := words_gap hgap []
      rw [List.append_nil] at hnone
      rw [hnone]
      exact ⟨.nil hgap, by simp [words]⟩
    · rw [hbody] at hhead hsplit
      obtain ⟨word, rest, hparts, hword, hrest⟩ := exists_word (by simpa using hhead) body
      rw [hparts] at hsplit
      have hshorter : rest.length < cs.length := by
        have hpos := List.length_pos_iff.mpr hword.ne_nil
        rw [← hsplit, List.length_append, List.length_append]
        omega
      obtain ⟨hspaced, hws⟩ := ih rest.length hshorter rest rfl
      have hwords : words cs = word :: words rest := by
        rw [← hsplit, words_gap hgap, words_word hword hrest]
      rw [hwords]
      refine ⟨?_, List.forall_mem_cons.mpr ⟨hword, hws⟩⟩
      rw [← List.append_assoc] at hsplit
      exact hsplit ▸ .cons hgap hrest hspaced

/-- A character of a text of words is white space or stands in a word. -/
theorem Spaced.mem {ws : List (List Char)} {cs : List Char} (h : Spaced ws cs) {c : Char}
    (hc : c ∈ cs) : isBlank c = true ∨ ∃ w ∈ ws, c ∈ w := by
  induction h with
  | nil hgap => exact .inl (hgap c hc)
  | cons hgap _ _ ih =>
    rcases List.mem_append.mp hc with hc | hc
    · rcases List.mem_append.mp hc with hc | hc
      · exact .inl (hgap c hc)
      · exact .inr ⟨_, List.mem_cons_self, hc⟩
    · rcases ih hc with hblank | ⟨w, hw, hc⟩
      · exact .inl hblank
      · exact .inr ⟨w, List.mem_cons_of_mem _ hw, hc⟩

end Text

namespace Duration

/-! ### The unit form -/

/-- The symbol of a unit. -/
def Timescale.symbol : Timescale → List Char
  | day => ['d']
  | hour => ['h']
  | minute => ['m']
  | second => ['s']
  | milli => ['m', 's']
  | micro => ['u', 's']
  | nano => ['n', 's']

theorem Timescale.ofSymbol?_eq_some_iff {cs : List Char} {u : Timescale} :
    ofSymbol? cs = some u ↔ cs = u.symbol := by
  constructor
  · intro h
    unfold ofSymbol? at h
    split at h <;> cases h <;> rfl
  · rintro rfl
    cases u <;> rfl

/-- A symbol begins with a letter. -/
theorem Timescale.exists_symbol (u : Timescale) :
    ∃ c cs, u.symbol = c :: cs ∧ c.isDigit = false ∧ c ≠ '.' := by
  cases u <;> exact ⟨_, _, rfl, by decide, by decide⟩

/-- **A word of the unit form**: digits, the digits of a fraction behind a point, and a unit. -/
inductive UnitWord : List Char → Component → Prop
  | whole {ds : List Char} {u : Timescale} (hds : IsDigits ds) : UnitWord (ds ++ u.symbol) ⟨ds, [], u⟩
  | fraction {ds es : List Char} {u : Timescale} (hds : IsDigits ds) (hes : IsDigits es) :
      UnitWord (ds ++ '.' :: (es ++ u.symbol)) ⟨ds, es, u⟩

/-- **Components written as words**, at least one and each unit smaller than those before it. -/
structure UnitWords (cs : List Char) (found : List Component) : Prop where
  words : ∃ ws, Text.Spaced ws cs ∧ List.Forall₂ UnitWord ws found
  ne_nil : found ≠ []
  decreasing : found.Pairwise fun c d : Component => d.unit.nanoseconds < c.unit.nanoseconds

/-- **The unit form**: words, which stand in parentheses only behind a minus. -/
inductive UnitForm : List Char → Bool → List Component → Prop
  | unsigned {cs : List Char} {found : List Component} (h : UnitWords cs found) :
      UnitForm cs false found
  | minus {cs : List Char} {found : List Component} (h : UnitWords cs found) :
      UnitForm ('-' :: cs) true found
  | parenthesized {cs : List Char} {found : List Component} (h : UnitWords cs found) :
      UnitForm ('-' :: '(' :: (cs ++ [')'])) true found

/-- **Reading a word.** -/
theorem ofWord?_eq_some_iff {word : List Char} {c : Component} :
    Component.ofWord? word = some c ↔ UnitWord word c := by
  constructor
  · intro h
    unfold Component.ofWord? at h
    dsimp only at h
    split at h
    next => cases h
    next hwhole =>
      have hds : IsDigits (word.takeWhile Char.isDigit) := isDigits_takeWhile (by simpa using hwhole)
      split at h
      next cs hrest =>
        split at h
        next => cases h
        next hfraction =>
          obtain ⟨u, hu, rfl⟩ := Option.map_eq_some_iff.mp h
          have hes : IsDigits (cs.takeWhile Char.isDigit) :=
            isDigits_takeWhile (by simpa using hfraction)
          have hcs : cs.takeWhile Char.isDigit ++ u.symbol = cs := by
            rw [← Timescale.ofSymbol?_eq_some_iff.mp hu, List.takeWhile_append_dropWhile]
          have hword := UnitWord.fraction (u := u) hds hes
          rwa [hcs, ← hrest, List.takeWhile_append_dropWhile] at hword
      next =>
        obtain ⟨u, hu, rfl⟩ := Option.map_eq_some_iff.mp h
        have hword := UnitWord.whole (u := u) hds
        rwa [← Timescale.ofSymbol?_eq_some_iff.mp hu, List.takeWhile_append_dropWhile] at hword
  · rintro (⟨hds⟩ | ⟨hds, hes⟩)
    next ds u =>
      obtain ⟨c, cs, hsymbol, hc, hpoint⟩ := u.exists_symbol
      have hhalts : Halts u.symbol := by simpa [hsymbol] using hc
      have hread := Timescale.ofSymbol?_eq_some_iff.mpr (rfl : u.symbol = u.symbol)
      rw [hsymbol] at hhalts hread
      simp [Component.ofWord?, hsymbol, takeWhile_digits hds.digits hhalts,
        dropWhile_digits hds.digits hhalts, hds.ne_nil, hpoint, hread]
    next ds es u =>
      obtain ⟨c, cs, hsymbol, hc, -⟩ := u.exists_symbol
      have hhalts : Halts u.symbol := by simpa [hsymbol] using hc
      have hpoint : Halts ('.' :: (es ++ u.symbol)) := by simp
      simp [Component.ofWord?, takeWhile_digits hds.digits hpoint,
        dropWhile_digits hds.digits hpoint, hds.ne_nil, takeWhile_digits hes.digits hhalts,
        dropWhile_digits hes.digits hhalts, hes.ne_nil,
        Timescale.ofSymbol?_eq_some_iff.mpr (rfl : u.symbol = u.symbol)]

theorem decreasing_iff {found : List Component} : decreasing found = true ↔
    found.Pairwise fun c d : Component => d.unit.nanoseconds < c.unit.nanoseconds := by
  have htrans : Trans (fun c d : Component => d.unit.nanoseconds < c.unit.nanoseconds)
      (fun c d : Component => d.unit.nanoseconds < c.unit.nanoseconds)
      fun c d : Component => d.unit.nanoseconds < c.unit.nanoseconds := ⟨fun h h' => Nat.lt_trans h' h⟩
  rw [← List.isChain_iff_pairwise]
  induction found with
  | nil => simp [decreasing]
  | cons c found ih =>
    cases found with
    | nil => simp [decreasing]
    | cons d found => simp [decreasing, ih]

/-- No white space stands in a word. -/
theorem UnitWord.isWord {word : List Char} {c : Component} (h : UnitWord word c) :
    Text.IsWord word := by
  have hsymbol (u : Timescale) : ∀ c ∈ u.symbol, Text.isBlank c = false := by
    cases u <;> simp [Timescale.symbol] <;> decide
  have hdigits {ds : List Char} (hds : IsDigits ds) : ∀ c ∈ ds, Text.isBlank c = false :=
    fun c hc => Text.isBlank_of_isDigit (hds.digits c hc)
  cases h with
  | whole hds =>
    refine ⟨by simp [hds.ne_nil], List.forall_mem_append.mpr ⟨hdigits hds, hsymbol _⟩⟩
  | fraction hds hes =>
    refine ⟨by simp, List.forall_mem_append.mpr ⟨hdigits hds,
      List.forall_mem_cons.mpr ⟨by decide, ?_⟩⟩⟩
    exact List.forall_mem_append.mpr ⟨hdigits hes, hsymbol _⟩

/-- **Reading words.** -/
theorem unitComponents?_eq_some_iff {cs : List Char} {found : List Component} :
    unitComponents? cs = some found ↔ UnitWords cs found := by
  rw [unitComponents?, Option.filter_eq_some_iff, mapM_eq_some_iff]
  simp only [ofWord?_eq_some_iff, Bool.and_eq_true, decreasing_iff, Bool.not_eq_true',
    List.isEmpty_eq_false_iff]
  constructor
  · rintro ⟨hwords, hne, hdecreasing⟩
    exact ⟨⟨_, (Text.spaced_words cs).1, hwords⟩, hne, hdecreasing⟩
  · rintro ⟨⟨ws, hspaced, hwords⟩, hne, hdecreasing⟩
    have hws : ∀ w ∈ ws, Text.IsWord w := by
      intro w hw
      obtain ⟨c, -, hc⟩ := exists_mem_of_forall₂ hwords.flip hw
      exact UnitWord.isWord hc
    rw [hspaced.words_eq hws]
    exact ⟨hwords, hne, hdecreasing⟩

/-- Words begin with a digit or with white space. -/
theorem UnitWords.exists_cons {cs : List Char} {found : List Component} (h : UnitWords cs found) :
    ∃ c rest, cs = c :: rest ∧ (c.isDigit = true ∨ Text.isBlank c = true) := by
  obtain ⟨ws, hspaced, hwords⟩ := h.words
  cases hspaced with
  | nil => exact absurd (List.forall₂_nil_left_iff.mp hwords) h.ne_nil
  | @cons gap word rest ws hgap hrest hspaced =>
    obtain ⟨c, found, hword, -, rfl⟩ := List.forall₂_cons_left_iff.mp hwords
    cases gap with
    | cons b gap => exact ⟨b, _, rfl, .inr (hgap b List.mem_cons_self)⟩
    | nil =>
      have hfirst {ds : List Char} (hds : IsDigits ds) : ∃ d tail, ds = d :: tail ∧ d.isDigit = true := by
        obtain ⟨d, tail, rfl⟩ := List.exists_cons_of_ne_nil hds.ne_nil
        exact ⟨d, tail, rfl, hds.digits d List.mem_cons_self⟩
      cases hword with
      | whole hds =>
        obtain ⟨d, tail, rfl, hd⟩ := hfirst hds
        exact ⟨d, _, rfl, .inl hd⟩
      | fraction hds _ =>
        obtain ⟨d, tail, rfl, hd⟩ := hfirst hds
        exact ⟨d, _, rfl, .inl hd⟩

/-- **The reader of the unit form** finds what the form derives. -/
theorem units?_eq_some_iff {cs : List Char} {negative : Bool} {found : List Component} :
    units? cs = some (negative, found) ↔ UnitForm cs negative found := by
  constructor
  · intro h
    unfold units? at h
    split at h
    next cs =>
      obtain ⟨_, hread, hpair⟩ := Option.map_eq_some_iff.mp h
      obtain ⟨rfl, rfl⟩ := Prod.mk.inj hpair
      obtain ⟨body, hbody, hread⟩ := Option.bind_eq_some_iff.mp hread
      rw [Text.dropTail?_eq_some_iff.mp hbody]
      exact .parenthesized (unitComponents?_eq_some_iff.mp hread)
    next =>
      obtain ⟨_, hread, hpair⟩ := Option.map_eq_some_iff.mp h
      obtain ⟨rfl, rfl⟩ := Prod.mk.inj hpair
      exact .minus (unitComponents?_eq_some_iff.mp hread)
    next => cases h
    next =>
      obtain ⟨_, hread, hpair⟩ := Option.map_eq_some_iff.mp h
      obtain ⟨rfl, rfl⟩ := Prod.mk.inj hpair
      exact .unsigned (unitComponents?_eq_some_iff.mp hread)
  · rintro (h | h | h)
    all_goals
      obtain ⟨c, rest, hcs, hc⟩ := h.exists_cons
      have hread := unitComponents?_eq_some_iff.mpr h
    · -- neither a minus nor a parenthesis is a digit or white space
      subst hcs
      have hminus : c ≠ '-' := by rintro rfl; revert hc; decide
      have hopen : c ≠ '(' := by rintro rfl; revert hc; decide
      unfold units?
      split <;> simp_all
    · subst hcs
      have hopen : c ≠ '(' := by rintro rfl; revert hc; decide
      unfold units?
      split <;> simp_all
    · simp [units?, Text.dropTail?_eq_some_iff.mpr rfl, hread]

/-- The letter `P` stands in no word of the unit form. -/
theorem UnitWord.not_mem {word : List Char} {c : Component} (h : UnitWord word c) : 'P' ∉ word := by
  have hsymbol (u : Timescale) : 'P' ∉ u.symbol := by cases u <;> simp [Timescale.symbol]
  have hdigits {ds : List Char} (hds : IsDigits ds) : 'P' ∉ ds := fun hmem =>
    absurd (hds.digits 'P' hmem) (by decide)
  cases h with
  | whole hds => simp [hdigits hds, hsymbol]
  | fraction hds hes => simp [hdigits hds, hdigits hes, hsymbol]

/-- The letter `P` stands nowhere in words of the unit form. -/
theorem UnitWords.not_mem {cs : List Char} {found : List Component} (h : UnitWords cs found) : 'P' ∉ cs := by
  obtain ⟨ws, hspaced, hwords⟩ := h.words
  intro hmem
  rcases hspaced.mem hmem with hblank | ⟨w, hw, hmem⟩
  · exact absurd hblank (by decide)
  · obtain ⟨c, -, hc⟩ := exists_mem_of_forall₂ hwords.flip hw
    exact UnitWord.not_mem hc hmem

end Duration

end Colonnade
