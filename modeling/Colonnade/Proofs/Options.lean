import Colonnade.Options.Document
import Colonnade.Proofs.Ascending
import Colonnade.Proofs.Outcome
import Colonnade.Proofs.Trimming

/-!
# Options that are written and read again

What is read into options is put into a normal form on the way: tags and names are trimmed, letters of a
type lose their case, an underscore becomes a hyphen, and sets are put in order. Nothing of this happens
when options are written. So they come back as they were only if the normal form of a normal form is
itself, and this is the matter here.

* `Locale.ofTag?_text`, `ColumnType.ofText?_token` – for a locale and a type, whatever they were read from;
* `Options.Settled` – options of which each field is in normal form; what is read is settled
  (`Options.Settled.setField` for a field, `settled_readMembers` for all of them), and options on top of
  others remain so (`Options.Settled.overriddenBy`);
* `Options.ofJson_toJson` – settled options come back as they were.

Together: `Options.reads_back`.
-/

namespace Colonnade

/-! ### Locales -/

namespace Locale

/-- What a tag has in place of a character. -/
def hyphenated (c : Char) : Char :=
  if c = '_' then '-' else c

theorem isBlank_hyphenated (c : Char) : Text.isBlank (hyphenated c) = Text.isBlank c := by
  by_cases h : c = '_'
  · subst h
    rfl
  · rw [hyphenated, if_neg h]

theorem hyphenated_hyphenated (c : Char) : hyphenated (hyphenated c) = hyphenated c := by
  by_cases h : c = '_'
  · subst h
    rfl
  · simp [hyphenated, h]

/-- **A tag in its normal form is left alone.** -/
theorem normalTag_normalTag (tag : String) : normalTag (normalTag tag) = normalTag tag := by
  have hnormal (s : String) :
      normalTag s = String.ofList ((Text.trimChars s.toList).map hyphenated) := rfl
  have htrimmed := Text.trimChars_eq_self_iff.mp (Text.trimChars_trimChars tag.toList)
  -- hyphens are no more blank than underscores, so the edges remain what they are
  have hedges : Text.trimChars ((Text.trimChars tag.toList).map hyphenated) =
      (Text.trimChars tag.toList).map hyphenated := by
    rw [Text.trimChars_eq_self_iff, List.head?_map, List.getLast?_map]
    simpa [isBlank_hyphenated] using htrimmed
  rw [hnormal (normalTag tag), hnormal tag, String.toList_ofList, hedges, List.map_map]
  simp [Function.comp_def, hyphenated_hyphenated]

/-- **The text of a locale is a tag of it**, from whatever tag the locale came. -/
theorem ofTag?_text {tag : String} {l : Locale} (h : ofTag? tag = some l) :
    ofTag? l.text = some l := by
  by_cases hroot : ((normalTag tag).isEmpty || Text.lower (normalTag tag) == "root") = true
  · obtain rfl : root = l := by simpa [ofTag?, hroot] using h
    decide
  · obtain ⟨d, g, hseparators, rfl⟩ : ∃ d g, separators? (splitTag (Text.lower (normalTag tag)).toList).1
        (splitTag (Text.lower (normalTag tag)).toList).2 = some (d, g) ∧ ⟨normalTag tag, d, g⟩ = l := by
      simpa [ofTag?, hroot, Option.map_eq_some_iff] using h
    have htext : text ⟨normalTag tag, d, g⟩ = normalTag tag := by
      have hne : (normalTag tag).isEmpty = false := by
        simp only [Bool.or_eq_true, not_or, Bool.not_eq_true] at hroot
        exact hroot.1
      simp [text, hne]
    simp [ofTag?, htext, normalTag_normalTag, hroot, hseparators]

end Locale

/-! ### Types -/

namespace ColumnType

/-- The name of a custom type; the others have none. -/
def customName : ColumnType → String
  | custom name => name
  | _ => ""

/-- Types are compared by their kind, and custom ones by their names. -/
theorem compare_eq_compareLex (a b : ColumnType) :
    compare a b = compareLex (compareOn ColumnType.ctorIdx) (compareOn customName) a b := by
  cases a with
  | custom x =>
    cases b with
    | custom y =>
      show (compare x y).then .eq = compare x y
      cases compare x y <;> rfl
    | _ => rfl
  | _ => cases b <;> rfl

instance : Std.TransOrd ColumnType := by
  have heq : (compare : ColumnType → ColumnType → Ordering) = _ :=
    funext fun a => funext (compare_eq_compareLex a)
  unfold Std.TransOrd
  rw [heq]
  infer_instance

instance : Std.LawfulEqOrd ColumnType where
  compare_self := Std.ReflCmp.compare_self
  eq_of_compare {a b} h := by
    rw [compare_eq_compareLex, compareLex, Ordering.then_eq_eq] at h
    obtain ⟨hkind, hname⟩ := h
    replace hkind : a.ctorIdx = b.ctorIdx := Std.compare_eq_iff_eq.mp hkind
    replace hname : a.customName = b.customName := Std.compare_eq_iff_eq.mp hname
    cases a <;> cases b <;> simp_all [customName, ColumnType.ctorIdx]

/-- A built-in type is read from its token. -/
theorem ofText?_token_of_builtIn {t : ColumnType} (h : ∀ name, t ≠ custom name) :
    ofText? t.token = .ok t := by
  cases t with
  | custom name => exact absurd rfl (h name)
  | _ => rfl

/-- No spelling is that of a custom type. -/
theorem ne_custom_of_builtIn? {s : String} {t : ColumnType} (h : builtIn? s = some t) (name : String) :
    t ≠ custom name := by
  have hspellings : ∀ p ∈ spellings, p.2 ≠ custom name := by simp [spellings]
  obtain ⟨p, hp, rfl⟩ := Option.map_eq_some_iff.mp h
  exact hspellings p (List.mem_of_find?_eq_some hp)

/-- A custom type is read from its token if its name is trimmed, and there is one. -/
theorem ofText?_token_custom {name : List Char} (htrimmed : Text.trimChars name = name)
    (hne : name ≠ []) : ofText? (custom (String.ofList name)).token = .ok (custom (String.ofList name)) := by
  have htoken : (custom (String.ofList name)).token.toList = customLead.toList ++ name := by
    simp [token]
  have hedges : Text.trimChars (customLead.toList ++ name) = customLead.toList ++ name := by
    rw [Text.trimChars_eq_self_iff]
    refine ⟨fun c hc => ?_, fun c hc => ?_⟩
    · obtain rfl : 'c' = c := by simpa [customLead] using hc
      rfl
    · rw [List.getLast?_append_of_ne_nil _ hne] at hc
      exact (Text.trimChars_eq_self_iff.mp htrimmed).2 c hc
  simp [ofText?, htoken, hedges, Text.dropLead?_eq_some_iff.mpr rfl, htrimmed, hne]

/-- **The token of a type is read as that type**, from whatever text the type came. -/
theorem ofText?_token {s : String} {t : ColumnType} (h : ofText? s = .ok t) :
    ofText? t.token = .ok t := by
  by_cases hbuiltIn : ∀ name, t ≠ custom name
  · exact ofText?_token_of_builtIn hbuiltIn
  · obtain ⟨name, rfl⟩ := not_forall_not.mp hbuiltIn
    -- only a text with the mark of a custom type gives one, and its name has been trimmed
    unfold ofText? at h
    dsimp only at h
    split at h
    next rest hlead =>
      split at h
      next => exact absurd h (by simp)
      next hne =>
        obtain rfl : String.ofList (Text.trimChars rest) = name := by simpa using h
        exact ofText?_token_custom (Text.trimChars_trimChars rest) (by simpa using hne)
    next =>
      split at h
      next t hbuiltIn =>
        obtain rfl : t = custom name := by simpa using h
        exact absurd rfl (ne_custom_of_builtIn? hbuiltIn name)
      next => exact absurd h (by simp)

end ColumnType

/-! ### Options in normal form -/

namespace Options

/-- **Each field is in normal form**: the locale and the types come back from their texts, and the sets are
in order. -/
structure Settled (o : Options) : Prop where
  locale : ∀ l ∈ o.locale, Locale.ofTag? l.text = some l
  nullStrings : ∀ ss ∈ o.nullStrings, Ascends ss
  ascends : Ascends o.skipTypes
  types : ∀ t ∈ o.skipTypes, ColumnType.ofText? t.token = .ok t

variable {o p : Options} {value : Json} {field : Field}

/-- Options that set nothing are settled. -/
theorem settled_default : Settled {} where
  locale := nofun
  nullStrings := nofun
  ascends := List.Pairwise.nil
  types := nofun

/-- A value that may be null has been read, or is null. -/
theorem readUnlessNull_eq_ok {α : Type} {read : Json → Except ReadError α} {a : Option α}
    (h : readUnlessNull read value = .ok a) : ∀ b ∈ a, read value = .ok b := by
  rintro b rfl
  unfold readUnlessNull at h
  split at h
  next => exact absurd h (by simp)
  next => simpa [map_eq_ok_iff] using h

/-- A set that has been read is in order, and its members have been read. -/
theorem readSet_eq_ok {α : Type} [Ord α] [Std.TransOrd α] [Std.LawfulEqOrd α]
    {read : String → Except ReadError α} {as : List α} (h : readSet read value = .ok as) :
    Ascends as ∧ ∀ a ∈ as, ∃ s, read s = .ok a := by
  obtain ⟨items, -, h⟩ := bind_eq_ok_iff.mp h
  obtain ⟨members, hmembers, h⟩ := bind_eq_ok_iff.mp h
  obtain rfl : inOrder members = as := Except.ok.inj h
  refine ⟨ascends_inOrder members, fun a ha => ?_⟩
  obtain ⟨item, -, hitem⟩ := exists_mem_of_mapM_eq_ok hmembers (mem_inOrder.mp ha)
  obtain ⟨s, -, hs⟩ := bind_eq_ok_iff.mp hitem
  exact ⟨s, hs⟩

/-- **A field that is read is in normal form.** -/
theorem Settled.setField (ho : o.Settled) (h : o.setField value field = .ok p) : p.Settled := by
  cases field with
  | locale =>
    obtain ⟨locale, hlocale, h⟩ := bind_eq_ok_iff.mp h
    obtain rfl := Except.ok.inj h
    refine ⟨fun l hl => ?_, ho.nullStrings, ho.ascends, ho.types⟩
    obtain ⟨tag, -, htag⟩ := bind_eq_ok_iff.mp (readUnlessNull_eq_ok hlocale l hl)
    unfold readLocale at htag
    split at htag
    next l' hl' =>
      obtain rfl := Except.ok.inj htag
      exact Locale.ofTag?_text hl'
    next => exact absurd htag (by simp)
  | pattern =>
    obtain ⟨pattern, -, h⟩ := bind_eq_ok_iff.mp h
    obtain rfl := Except.ok.inj h
    exact ⟨ho.locale, ho.nullStrings, ho.ascends, ho.types⟩
  | nullStrings =>
    obtain ⟨nullStrings, hstrings, h⟩ := bind_eq_ok_iff.mp h
    obtain rfl := Except.ok.inj h
    exact ⟨ho.locale, fun ss hss => (readSet_eq_ok (readUnlessNull_eq_ok hstrings ss hss)).1,
      ho.ascends, ho.types⟩
  | skipTypes =>
    obtain ⟨skipTypes, htypes, h⟩ := bind_eq_ok_iff.mp h
    obtain rfl := Except.ok.inj h
    refine ⟨ho.locale, ho.nullStrings, (readSet_eq_ok htypes).1, fun t ht => ?_⟩
    obtain ⟨token, htoken⟩ := (readSet_eq_ok htypes).2 t ht
    exact ColumnType.ofText?_token (mapError_eq_ok_iff.mp htoken)

/-- **Members that are read one after the other** leave settled options. -/
theorem settled_readMembers {seen : List Field} {members : List (String × Json)} (ho : o.Settled)
    (h : o.readMembers seen members = .ok p) : p.Settled := by
  induction members generalizing o seen with
  | nil =>
    obtain rfl := Except.ok.inj h
    exact ho
  | cons member members ih =>
    obtain ⟨key, value⟩ := member
    rw [readMembers] at h
    split at h
    next => exact ih ho h
    next field hfield =>
      split at h
      next => exact absurd h (by simp)
      next =>
        split at h
        next o' hset => exact ih (ho.setField hset) h
        next => exact absurd h (by simp)

/-- Fields that are read one after the other, as the items of an array, leave settled options too. -/
theorem settled_foldlM {items : List (Field × Json)} (ho : o.Settled)
    (h : items.foldlM (fun o (field, value) => o.setField value field) o = .ok p) : p.Settled := by
  induction items generalizing o with
  | nil =>
    obtain rfl := Except.ok.inj h
    exact ho
  | cons item items ih =>
    rw [List.foldlM_cons] at h
    obtain ⟨o', hset, h⟩ := bind_eq_ok_iff.mp h
    exact ih (ho.setField hset) h

/-- What is read from JSON is settled. -/
theorem settled_ofJson {j : Json} (h : ofJson j = .ok o) : o.Settled := by
  unfold ofJson at h
  split at h
  next members => exact settled_readMembers settled_default h
  next items =>
    split at h
    next => exact absurd h (by simp)
    next => exact settled_foldlM settled_default h
  next => exact absurd h (by simp)

/-- What is read from a document is settled. -/
theorem settled_ofNode {node : Yaml.Node} (h : ofNode node = .ok o) : o.Settled := by
  unfold ofNode at h
  split at h
  next entries =>
    obtain ⟨members, -, h⟩ := bind_eq_ok_iff.mp h
    exact settled_readMembers settled_default (mapError_eq_ok_iff.mp h)
  next node =>
    split at h
    next =>
      obtain rfl := Except.ok.inj h
      exact settled_default
    next => exact absurd h (by simp)

/-- **Options on top of others** are settled if both are. -/
theorem Settled.overriddenBy (ho : o.Settled) (hp : p.Settled) : (o.overriddenBy p).Settled where
  locale l hl := by
    rcases Option.or_eq_some_iff.mp hl with hl | ⟨-, hl⟩
    · exact hp.locale l hl
    · exact ho.locale l hl
  nullStrings ss hss := by
    rcases Option.or_eq_some_iff.mp hss with hss | ⟨-, hss⟩
    · exact hp.nullStrings ss hss
    · exact ho.nullStrings ss hss
  ascends := ho.ascends.unionInOrder
  types t ht := by
    rcases mem_unionInOrder.mp ht with ht | ht
    · exact ho.types t ht
    · exact hp.types t ht

/-! ### Writing -/

/-- **The members of written options** stand in the order of their names. -/
theorem toJson_eq (o : Options) :
    o.toJson = .object ((o.pattern.map fun p => (patternKey, Json.string p)).toList ++
      (o.locale.map fun l => (localeKey, Json.string l.text)).toList ++
      (o.nullStrings.map fun ss => (nullStringsKey, Json.array (ss.map .string))).toList ++
      ((if o.skipTypes.isEmpty then none else some o.skipTypes).map fun ts =>
        (skipTypesKey, Json.array (ts.map fun t => .string t.token))).toList) := by
  obtain ⟨locale, pattern, nullStrings, skipTypes⟩ := o
  cases locale <;> cases pattern <;> cases nullStrings <;> cases skipTypes <;> rfl

/-- A set in order is read from the texts of its members. -/
theorem readSet_texts {α : Type} [Ord α] [Std.TransOrd α] [Std.LawfulEqOrd α]
    {read : String → Except ReadError α} {text : α → String} {as : List α} (has : Ascends as)
    (hread : ∀ a ∈ as, read (text a) = .ok a) :
    readSet read (.array (as.map fun a => .string (text a))) = .ok as := by
  have hmembers : (as.map fun a => Json.string (text a)).mapM (fun item => do read (← readText item)) =
      .ok as := by
    rw [mapM_eq_ok_iff, List.forall₂_map_left_iff, List.forall₂_same]
    exact fun a ha => bind_eq_ok_iff.mpr ⟨text a, rfl, hread a ha⟩
  refine bind_eq_ok_iff.mpr ⟨_, rfl, bind_eq_ok_iff.mpr ⟨as, hmembers, ?_⟩⟩
  rw [inOrder_eq_self has]
  rfl

theorem setField_locale {l : Locale} (h : Locale.ofTag? l.text = some l) :
    o.setField (.string l.text) .locale = .ok { o with locale := some l } := by
  have htag : readLocale l.text = .ok l := by rw [readLocale, h]
  simp only [setField, readUnlessNull, readText, bind, Except.bind, htag, Except.map, pure, Except.pure]

theorem setField_pattern (s : String) :
    o.setField (.string s) .pattern = .ok { o with pattern := some s } := rfl

theorem setField_nullStrings {ss : List String} (h : Ascends ss) :
    o.setField (.array (ss.map .string)) .nullStrings = .ok { o with nullStrings := some ss } := by
  have hread : readSet (fun s => .ok s) (.array (ss.map fun s => .string s)) = .ok ss :=
    readSet_texts h fun _ _ => rfl
  simp only [setField, readUnlessNull, hread, bind, Except.bind, Except.map, pure, Except.pure]

theorem setField_skipTypes {ts : List ColumnType} (h : Ascends ts)
    (htypes : ∀ t ∈ ts, ColumnType.ofText? t.token = .ok t) :
    o.setField (.array (ts.map fun t => .string t.token)) .skipTypes =
      .ok { o with skipTypes := ts } := by
  have hread : readSet readType (.array (ts.map fun t => .string t.token)) = .ok ts :=
    readSet_texts h fun t ht => mapError_eq_ok_iff.mpr (htypes t ht)
  exact bind_eq_ok_iff.mpr ⟨ts, hread, rfl⟩

/-- A member that may be missing sets its field, unless it was seen before. -/
theorem readMembers_toList {α : Type} (a : Option α) {key : String} (write : α → Json) (seen : List Field)
    (o p : Options) (hfield : field? key = some field) (hseen : field ∉ seen)
    (hset : ∀ x ∈ a, o.setField (write x) field = .ok p) (hnone : a = none → o = p)
    (rest : List (String × Json)) :
    ∃ seen', (∀ f ∈ seen', f = field ∨ f ∈ seen) ∧
      o.readMembers seen ((a.map fun x => (key, write x)).toList ++ rest) = p.readMembers seen' rest := by
  cases a with
  | none =>
    obtain rfl := hnone rfl
    exact ⟨seen, fun f => Or.inr, rfl⟩
  | some x =>
    refine ⟨field :: seen, fun f => List.mem_cons.mp, ?_⟩
    show o.readMembers seen ((key, write x) :: rest) = _
    rw [readMembers, hfield]
    simp only [if_neg hseen, hset x rfl]

/-- **Settled options are read as they were written.** -/
theorem ofJson_toJson (ho : o.Settled) : ofJson o.toJson = .ok o := by
  obtain ⟨locale, pattern, nullStrings, skipTypes⟩ := o
  obtain ⟨hlocale, hstrings, hascends, htypes⟩ := ho
  have hskip (ts : List ColumnType) (hts : (if skipTypes.isEmpty then none else some skipTypes) = some ts) :
      skipTypes = ts := Option.some.inj (Option.ite_none_left_eq_some.mp hts).2
  have hempty (h : (if skipTypes.isEmpty then none else some skipTypes) = none) : skipTypes = [] := by
    simpa using h
  rw [toJson_eq, ofJson, List.append_assoc, List.append_assoc,
    ← List.append_nil (Option.toList (.map _ (ite _ _ _)))]
  -- the members are read from left to right, each of them setting a field that is not set yet
  obtain ⟨s₁, hs₁, hread₁⟩ := readMembers_toList pattern .string [] {} { pattern }
    (show field? patternKey = some .pattern from rfl) (by simp)
    (fun s hs => by rw [setField_pattern, ← hs]) (fun h => by rw [h]) _
  obtain ⟨s₂, hs₂, hread₂⟩ := readMembers_toList locale (fun l => .string l.text) s₁ { pattern }
    { locale, pattern } (show field? localeKey = some .locale from rfl) (by grind)
    (fun l hl => by rw [setField_locale (hlocale l hl), ← hl]) (fun h => by rw [h]) _
  obtain ⟨s₃, hs₃, hread₃⟩ := readMembers_toList nullStrings (fun ss => .array (ss.map .string)) s₂
    { locale, pattern } { locale, pattern, nullStrings }
    (show field? nullStringsKey = some .nullStrings from rfl) (by grind)
    (fun ss hss => by rw [setField_nullStrings (hstrings ss hss), ← hss]) (fun h => by rw [h]) _
  obtain ⟨s₄, -, hread₄⟩ := readMembers_toList (if skipTypes.isEmpty then none else some skipTypes)
    (fun ts => .array (ts.map fun t => .string t.token)) s₃ { locale, pattern, nullStrings }
    { locale, pattern, nullStrings, skipTypes } (show field? skipTypesKey = some .skipTypes from rfl)
    (by grind) (fun ts hts => hskip ts hts ▸ setField_skipTypes hascends htypes)
    (fun h => by rw [hempty h]) []
  rw [hread₁, hread₂, hread₃, hread₄]
  rfl

/-! ### Options that were read -/

/-- **Options that were read**, from JSON or from a document, or put on top of others. -/
inductive Obtained : Options → Prop where
  | ofJson {j : Json} {o : Options} (h : Options.ofJson j = .ok o) : Obtained o
  | ofNode {node : Yaml.Node} {o : Options} (h : Options.ofNode node = .ok o) : Obtained o
  | overriddenBy {o p : Options} (ho : Obtained o) (hp : Obtained p) : Obtained (o.overriddenBy p)

theorem Obtained.settled (h : o.Obtained) : o.Settled := by
  induction h with
  | ofJson h => exact settled_ofJson h
  | ofNode h => exact settled_ofNode h
  | overriddenBy _ _ iho ihp => exact iho.overriddenBy ihp

/-- **What was read can be written and read again.** Options that were read or put on top of others come
back as they were, a set without members being another thing than no set. The token of a type is read as
the type, and the text of a locale as the locale, from whatever text they came. -/
theorem reads_back :
    (∀ o : Options, o.Obtained → Options.ofJson o.toJson = .ok o) ∧
    (∀ s t, ColumnType.ofText? s = .ok t → ColumnType.ofText? t.token = .ok t) ∧
    ∀ tag l, Locale.ofTag? tag = some l → Locale.ofTag? l.text = some l :=
  ⟨fun _ ho => ofJson_toJson ho.settled, fun _ _ => ColumnType.ofText?_token, fun _ _ => Locale.ofTag?_text⟩

/-- A document on top of an object: tags and names with blanks around them, an empty set, and types in
other spellings. -/
theorem reads_back_overridden :
    let o : Options := ⟨some ⟨"de-CH", '.', '\''⟩, some "%d", some [], [.double, .custom "x"]⟩
    o.Obtained ∧ Options.ofJson o.toJson = .ok o := by
  intro o
  have hbase : Options.ofJson (.object [("date_time_format", .string "%d"), ("locale", .string "Root"),
      ("skip_types", .array [.string "custom: x "])]) =
        .ok ⟨some .root, some "%d", none, [.custom "x"]⟩ := by rfl
  have htop : Options.ofNode (.mapping [(.scalar "locale" true, .scalar " de_CH " true),
      (.scalar "null_strings" true, .sequence []), (.scalar "skip_types" true,
        .sequence [.scalar "Float" true])]) = .ok ⟨some ⟨"de-CH", '.', '\''⟩, none, some [], [.double]⟩ := by
    rfl
  have ho : o.Obtained := .overriddenBy (.ofJson hbase) (.ofNode htop)
  exact ⟨ho, reads_back.1 o ho⟩

end Options

end Colonnade
