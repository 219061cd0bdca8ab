import Colonnade.Proofs.Soundness.Json

/-!
# JSON documents as they are written

The members of an object that has been read are in ascending order of their keys. What stands in the
text is a JSON value too, one with its members in the order of the text, and what is read is that value
with all its objects put in order.

* `Json.sorted` – the members of all objects put in order;
* `Json.Reads` – a text begins with a value, as it is written, and goes on with a rest;
* `Json.written` – whatever is read stands in the text, by induction on the fuel of the readers;
* `Json.Reads.unique` – and a text begins with one value only, by induction on what is written.

For whole documents these are `Json.exists_spells` and `Json.Spells.unique`.
-/

namespace Colonnade

namespace Json

/-! ### Objects put in order -/

mutual

/-- **A value with the members of all objects in ascending order**; where a key stands more than once,
the last value stays. -/
def sorted : Json → Json
  | null => null
  | bool b => bool b
  | integer n => integer n
  | double x => double x
  | string s => string s
  | array items => array (sortedItems items)
  | object members => ofMembers (sortedMembers members)

/-- Items with their objects put in order. -/
def sortedItems : List Json → List Json
  | [] => []
  | item :: items => item.sorted :: sortedItems items

/-- Members with the objects in their values put in order. -/
def sortedMembers : List (String × Json) → List (String × Json)
  | [] => []
  | (key, value) :: members => (key, value.sorted) :: sortedMembers members

end

theorem sortedItems_eq_map (items : List Json) : sortedItems items = items.map sorted := by
  induction items with
  | nil => rw [sortedItems]; rfl
  | cons item items ih => rw [sortedItems, ih]; rfl

theorem sortedMembers_eq_map (members : List (String × Json)) :
    sortedMembers members = members.map fun (key, value) => (key, value.sorted) := by
  induction members with
  | nil => rw [sortedMembers]; rfl
  | cons member members ih => rw [sortedMembers, ih]; rfl

/-! ### What is written in a text -/

/-- Where an item or a member begins: at once if it is the first, and behind a comma if it is not. -/
inductive Begins : (first : Bool) → List Char → List Char → Prop
  | first (cs : List Char) : Begins true cs (skip cs)
  | next {cs rest : List Char} (h : skip cs = ',' :: rest) : Begins false cs rest

mutual

/-- **A text begins with a value** and goes on with a rest. Only arrays and objects have parts; all else
is what the reader reads without going into any. -/
inductive Reads : List Char → Json → List Char → Prop
  | scalar {cs rest : List Char} {j : Json} (h : readValue 1 0 cs = .ok (j, rest)) : Reads cs j rest
  | array {cs body rest : List Char} {items : List Json} (h : skip cs = '[' :: body)
    (hitems : ReadsItems true body items rest) : Reads cs (.array items) rest
  | object {cs body rest : List Char} {members : List (String × Json)} (h : skip cs = '\x7b' :: body)
    (hmembers : ReadsMembers true body members rest) : Reads cs (.object members) rest

/-- A text begins with items and the end of an array. -/
inductive ReadsItems : (first : Bool) → List Char → List Json → List Char → Prop
  | done {first : Bool} {cs rest : List Char} (h : skip cs = ']' :: rest) : ReadsItems first cs [] rest
  | item {first : Bool} {cs start after rest : List Char} {item : Json} {items : List Json}
    (hbegins : Begins first cs start) (hitem : Reads start item after)
    (hitems : ReadsItems false after items rest) : ReadsItems first cs (item :: items) rest

/-- A text begins with members and the end of an object. -/
inductive ReadsMembers : (first : Bool) → List Char → List (String × Json) → List Char → Prop
  | done {first : Bool} {cs rest : List Char} (h : skip cs = '\x7d' :: rest) :
    ReadsMembers first cs [] rest
  | member {first : Bool} {cs start body key colon text after rest : List Char} {value : Json}
    {members : List (String × Json)} (hbegins : Begins first cs start)
    (hquote : skip start = '"' :: body)
    (hkey : readString (body.length + 1) body = .ok (key, colon)) (hcolon : skip colon = ':' :: text)
    (hvalue : Reads text value after) (hmembers : ReadsMembers false after members rest) :
    ReadsMembers first cs ((String.ofList key, value) :: members) rest

end

/-- **A document as it is written**: one value, and nothing but white space after it. -/
def Spells (s : String) (t : Json) : Prop :=
  ∃ rest, Reads s.toList t rest ∧ skip rest = []

/-! ### The reader by the first character -/

variable {fuel depth : Nat} {cs body rest : List Char} {j : Json}

theorem readValue_array (h : skip cs = '[' :: body) : readValue (fuel + 1) depth cs =
    if depth = 0 then .error .malformed
    else (readItems fuel (depth - 1) true body).map fun (items, rest) => (.array items, rest) := by
  rw [readValue, h]
  rfl

theorem readValue_object (h : skip cs = '\x7b' :: body) : readValue (fuel + 1) depth cs =
    if depth = 0 then .error .malformed
    else (readMembers fuel (depth - 1) true body).map fun (members, rest) =>
      (ofMembers members, rest) := by
  rw [readValue, h]
  rfl

/-- What is neither an array nor an object is read without going into any. -/
theorem readValue_scalar (harray : ∀ body, skip cs ≠ '[' :: body)
    (hobject : ∀ body, skip cs ≠ '\x7b' :: body) :
    readValue (fuel + 1) depth cs = readValue 1 0 cs := by
  rw [readValue, readValue]
  split <;> simp_all

section Numbers

variable {negative : Bool} {digits : Nat} {e : Int}

theorem sorted_of_assemble (h : assemble negative digits e = .ok j) : j.sorted = j := by
  obtain ⟨x, -, rfl⟩ := map_eq_ok_iff.mp h
  rw [sorted]

theorem sorted_of_readPower (h : readPower negative digits e cs = .ok (j, rest)) : j.sorted = j := by
  unfold readPower at h
  dsimp only at h
  split at h
  all_goals
    split at h
    · exact absurd h (by simp)
    · split at h
      · split at h
        · exact absurd h (by simp)
        · rw [← (Prod.mk.inj (Except.ok.inj h)).1, sorted]
      · obtain ⟨k, hk, heq⟩ := map_eq_ok_iff.mp h
        exact (Prod.mk.inj heq).1 ▸ sorted_of_assemble hk

theorem sorted_of_readTail (h : readTail negative digits e cs = .ok (j, rest)) : j.sorted = j := by
  unfold readTail at h
  split at h
  · exact sorted_of_readPower h
  · exact sorted_of_readPower h
  · obtain ⟨k, hk, heq⟩ := map_eq_ok_iff.mp h
    exact (Prod.mk.inj heq).1 ▸ sorted_of_assemble hk

theorem sorted_of_readFraction (h : readFraction negative digits e cs = .ok (j, rest)) :
    j.sorted = j := by
  unfold readFraction at h
  split at h
  · split at h
    · exact sorted_of_readTail h
    · cases h
  · cases h

theorem sorted_whole (negative : Bool) (digits : Nat) :
    (whole negative digits).sorted = whole negative digits := by
  unfold whole
  split
  · rw [sorted]
  · split <;> rw [sorted]

theorem sorted_of_readNumber (h : readNumber negative cs = .ok (j, rest)) : j.sorted = j := by
  unfold readNumber at h
  split at h
  · cases h
  · split at h
    · cases h
    · split at h
      · cases h
      · dsimp only at h
        split at h
        · exact sorted_of_readFraction h
        · split at h
          · exact (Prod.mk.inj (Except.ok.inj h)).1 ▸ sorted_whole negative _
          · exact sorted_of_readTail h

end Numbers

/-- There is no object to put in order in what is read without going into any. -/
theorem sorted_of_readValue_one (h : readValue 1 0 cs = .ok (j, rest)) : j.sorted = j := by
  have hword {word cs : List Char} {k : Json} (hk : k.sorted = k)
      (h : (readWord word cs).map (k, ·) = .ok (j, rest)) : j.sorted = j := by
    obtain ⟨_, -, heq⟩ := map_eq_ok_iff.mp h
    exact (Prod.mk.inj heq).1 ▸ hk
  rw [readValue] at h
  split at h
  · cases h
  · exact hword (by rw [sorted]) h
  · exact hword (by rw [sorted]) h
  · exact hword (by rw [sorted]) h
  · obtain ⟨_, -, heq⟩ := map_eq_ok_iff.mp h
    rw [← (Prod.mk.inj heq).1, sorted]
  · exact sorted_of_readNumber h
  · cases h
  · cases h
  · split at h
    · exact sorted_of_readNumber h
    · cases h

/-! ### Whatever is read is written -/

/-- What the four readers give within an amount of fuel stands in the text as it is written. -/
structure Written (fuel : Nat) : Prop where
  value : ∀ depth cs j rest, readValue fuel depth cs = .ok (j, rest) →
    ∃ t, Reads cs t rest ∧ t.sorted = j
  items : ∀ depth first cs items rest, readItems fuel depth first cs = .ok (items, rest) →
    ∃ ts, ReadsItems first cs ts rest ∧ sortedItems ts = items
  members : ∀ depth first cs members rest, readMembers fuel depth first cs = .ok (members, rest) →
    ∃ ts, ReadsMembers first cs ts rest ∧ sortedMembers ts = members
  member : ∀ depth first cs start members rest, Begins first cs start →
    readMember fuel depth start = .ok (members, rest) →
      ∃ ts, ReadsMembers first cs ts rest ∧ sortedMembers ts = members

namespace Written

theorem value_succ (h : Written fuel) (hread : readValue (fuel + 1) depth cs = .ok (j, rest)) :
    ∃ t, Reads cs t rest ∧ t.sorted = j := by
  -- the first character tells what there is to go into
  by_cases harray : ∃ body, skip cs = '[' :: body
  · obtain ⟨body, hbody⟩ := harray
    rw [readValue_array hbody] at hread
    split at hread
    · cases hread
    · obtain ⟨⟨items, after⟩, hitems, heq⟩ := map_eq_ok_iff.mp hread
      obtain ⟨rfl, rfl⟩ := Prod.mk.inj heq
      obtain ⟨ts, hts, rfl⟩ := h.items _ _ _ _ _ hitems
      exact ⟨array ts, .array hbody hts, by rw [sorted]⟩
  · by_cases hobject : ∃ body, skip cs = '\x7b' :: body
    · obtain ⟨body, hbody⟩ := hobject
      rw [readValue_object hbody] at hread
      split at hread
      · cases hread
      · obtain ⟨⟨members, after⟩, hmembers, heq⟩ := map_eq_ok_iff.mp hread
        obtain ⟨rfl, rfl⟩ := Prod.mk.inj heq
        obtain ⟨ts, hts, rfl⟩ := h.members _ _ _ _ _ hmembers
        exact ⟨object ts, .object hbody hts, by rw [sorted]⟩
    · rw [readValue_scalar (fun body hbody => harray ⟨body, hbody⟩)
        fun body hbody => hobject ⟨body, hbody⟩] at hread
      exact ⟨j, .scalar hread, sorted_of_readValue_one hread⟩

/-- An item and those after it. -/
theorem items_cons (h : Written fuel) {first : Bool} {start : List Char} {items : List Json}
    (hbegins : Begins first cs start)
    (hread : (readValue fuel depth start >>= fun (item, rest) =>
      readItems fuel depth false rest >>= fun (items, rest) => pure (item :: items, rest)) =
        .ok (items, rest)) :
    ∃ ts, ReadsItems first cs ts rest ∧ sortedItems ts = items := by
  obtain ⟨⟨item, after⟩, hitem, hread⟩ := bind_eq_ok_iff.mp hread
  obtain ⟨⟨others, rest'⟩, hothers, heq⟩ := bind_eq_ok_iff.mp hread
  obtain ⟨rfl, rfl⟩ := Prod.mk.inj (Except.ok.inj heq)
  obtain ⟨t, ht, rfl⟩ := h.value _ _ _ _ hitem
  obtain ⟨ts, hts, rfl⟩ := h.items _ _ _ _ _ hothers
  exact ⟨t :: ts, .item hbegins ht hts, by rw [sortedItems]⟩

theorem items_succ (h : Written fuel) {first : Bool} {items : List Json}
    (hread : readItems (fuel + 1) depth first cs = .ok (items, rest)) :
    ∃ ts, ReadsItems first cs ts rest ∧ sortedItems ts = items := by
  rw [readItems] at hread
  split at hread
  next => cases hread
  next after hend =>
    obtain ⟨rfl, rfl⟩ := Prod.mk.inj (Except.ok.inj hread)
    exact ⟨[], .done hend, by rw [sortedItems]⟩
  next c after _ hskip =>
    cases first with
    | true =>
      have hbegins : Begins true cs (c :: after) := hskip ▸ .first cs
      exact h.items_cons hbegins hread
    | false =>
      rw [if_neg Bool.false_ne_true] at hread
      split at hread
      next hcomma =>
        split at hread
        · cases hread
        · exact h.items_cons (.next (hcomma ▸ hskip)) hread
      next => cases hread

theorem members_succ (h : Written fuel) {first : Bool} {members : List (String × Json)}
    (hread : readMembers (fuel + 1) depth first cs = .ok (members, rest)) :
    ∃ ts, ReadsMembers first cs ts rest ∧ sortedMembers ts = members := by
  rw [readMembers] at hread
  split at hread
  next => cases hread
  next after hend =>
    obtain ⟨rfl, rfl⟩ := Prod.mk.inj (Except.ok.inj hread)
    exact ⟨[], .done hend, by rw [sortedMembers]⟩
  next c after _ hskip =>
    cases first with
    | true =>
      have hbegins : Begins true cs (c :: after) := hskip ▸ .first cs
      exact h.member _ _ _ _ _ _ hbegins hread
    | false =>
      rw [if_neg Bool.false_ne_true] at hread
      split at hread
      next hcomma => exact h.member _ _ _ _ _ _ (.next (hcomma ▸ hskip)) hread
      next => cases hread

theorem member_succ (h : Written fuel) {first : Bool} {start : List Char}
    {members : List (String × Json)} (hbegins : Begins first cs start)
    (hread : readMember (fuel + 1) depth start = .ok (members, rest)) :
    ∃ ts, ReadsMembers first cs ts rest ∧ sortedMembers ts = members := by
  rw [readMember] at hread
  split at hread
  next => cases hread
  next body hquote =>
    obtain ⟨⟨key, colon⟩, hkey, hread⟩ := bind_eq_ok_iff.mp hread
    dsimp only at hread
    split at hread
    next => cases hread
    next text hcolon =>
      obtain ⟨⟨value, after⟩, hvalue, hread⟩ := bind_eq_ok_iff.mp hread
      obtain ⟨⟨others, rest'⟩, hothers, heq⟩ := bind_eq_ok_iff.mp hread
      obtain ⟨rfl, rfl⟩ := Prod.mk.inj (Except.ok.inj heq)
      obtain ⟨t, ht, rfl⟩ := h.value _ _ _ _ hvalue
      obtain ⟨ts, hts, rfl⟩ := h.members _ _ _ _ _ hothers
      exact ⟨(String.ofList key, t) :: ts, .member hbegins hquote hkey hcolon ht hts,
        by rw [sortedMembers]⟩
    next => cases hread
  next => cases hread

end Written

/-- **What is read is written**, by induction on the fuel. -/
theorem written (fuel : Nat) : Written fuel := by
  induction fuel with
  | zero =>
    constructor
    · intro _ _ _ _ h; simp [readValue] at h
    · intro _ _ _ _ _ h; simp [readItems] at h
    · intro _ _ _ _ _ h; simp [readMembers] at h
    · intro _ _ _ _ _ _ _ h; simp [readMember] at h
  | succ fuel ih =>
    exact ⟨fun _ _ _ _ => ih.value_succ, fun _ _ _ _ _ => ih.items_succ,
      fun _ _ _ _ _ => ih.members_succ, fun _ _ _ _ _ _ => ih.member_succ⟩

/-! ### Only one value is written -/

theorem Begins.unique {first : Bool} {start start' : List Char} (h : Begins first cs start)
    (h' : Begins first cs start') : start = start' := by
  cases h with
  | first _ =>
    cases h'
    rfl
  | next h =>
    cases h' with
    | next h' => exact (List.cons.inj (h.symm.trans h')).2

/-- Where an array or an object ends, nothing begins behind a comma, nor in front of the end. -/
theorem Begins.skip_eq {first : Bool} {start : List Char} {c : Char} (h : Begins first cs start)
    (hend : skip cs = c :: rest) (hc : c ≠ ',') (hspace : isSpace c = false) :
    skip start = c :: rest := by
  cases h with
  | first _ => rw [hend, skip, List.dropWhile_cons_of_neg (by simp [hspace])]
  | next h => exact absurd (List.cons.inj (hend.symm.trans h)).1 hc

theorem readValue_one_of_array {x : Json × List Char} (h : skip cs = '[' :: body) :
    readValue 1 0 cs ≠ .ok x := by
  rw [readValue_array h, if_pos rfl]
  exact nofun

theorem readValue_one_of_object {x : Json × List Char} (h : skip cs = '\x7b' :: body) :
    readValue 1 0 cs ≠ .ok x := by
  rw [readValue_object h, if_pos rfl]
  exact nofun

/-- No value begins with the end of an array. -/
theorem Reads.skip_ne {t : Json} (h : Reads cs t rest) : skip cs ≠ ']' :: body := by
  intro hend
  cases h with
  | scalar h =>
    rw [readValue, hend] at h
    cases h
  | array h _ => exact absurd (List.cons.inj (hend.symm.trans h)).1 (by decide)
  | object h _ => exact absurd (List.cons.inj (hend.symm.trans h)).1 (by decide)

mutual

/-- **A text begins with one value only**, and after it there is one rest. -/
theorem Reads.unique {cs rest rest' : List Char} {t u : Json} :
    Reads cs t rest → Reads cs u rest' → t = u ∧ rest = rest'
  | .scalar h, .scalar h' => Prod.mk.inj (Except.ok.inj (h.symm.trans h'))
  | .scalar h, .array h' _ => absurd h (readValue_one_of_array h')
  | .scalar h, .object h' _ => absurd h (readValue_one_of_object h')
  | .array h _, .scalar h' => absurd h' (readValue_one_of_array h)
  | .object h _, .scalar h' => absurd h' (readValue_one_of_object h)
  | .array h _, .object h' _ => absurd (List.cons.inj (h.symm.trans h')).1 (by decide)
  | .object h _, .array h' _ => absurd (List.cons.inj (h.symm.trans h')).1 (by decide)
  | .array h hitems, .array h' hitems' => by
    obtain rfl := (List.cons.inj (h.symm.trans h')).2
    obtain ⟨rfl, rfl⟩ := hitems.unique hitems'
    exact ⟨rfl, rfl⟩
  | .object h hmembers, .object h' hmembers' => by
    obtain rfl := (List.cons.inj (h.symm.trans h')).2
    obtain ⟨rfl, rfl⟩ := hmembers.unique hmembers'
    exact ⟨rfl, rfl⟩

theorem ReadsItems.unique {first : Bool} {cs rest rest' : List Char} {ts us : List Json} :
    ReadsItems first cs ts rest → ReadsItems first cs us rest' → ts = us ∧ rest = rest'
  | .done h, .done h' => ⟨rfl, (List.cons.inj (h.symm.trans h')).2⟩
  | .done h, .item hbegins hitem _ => absurd (hbegins.skip_eq h (by decide) (by decide)) hitem.skip_ne
  | .item hbegins hitem _, .done h => absurd (hbegins.skip_eq h (by decide) (by decide)) hitem.skip_ne
  | .item hbegins hitem hitems, .item hbegins' hitem' hitems' => by
    obtain rfl := hbegins.unique hbegins'
    obtain ⟨rfl, rfl⟩ := hitem.unique hitem'
    obtain ⟨rfl, rfl⟩ := hitems.unique hitems'
    exact ⟨rfl, rfl⟩

theorem ReadsMembers.unique {first : Bool} {cs rest rest' : List Char}
    {ts us : List (String × Json)} :
    ReadsMembers first cs ts rest → ReadsMembers first cs us rest' → ts = us ∧ rest = rest'
  | .done h, .done h' => ⟨rfl, (List.cons.inj (h.symm.trans h')).2⟩
  | .done h, .member hbegins hquote _ _ _ _ =>
    absurd (List.cons.inj ((hbegins.skip_eq h (by decide) (by decide)).symm.trans hquote)).1 (by decide)
  | .member hbegins hquote _ _ _ _, .done h =>
    absurd (List.cons.inj ((hbegins.skip_eq h (by decide) (by decide)).symm.trans hquote)).1 (by decide)
  | .member hbegins hquote hkey hcolon hvalue hmembers,
      .member hbegins' hquote' hkey' hcolon' hvalue' hmembers' => by
    obtain rfl := hbegins.unique hbegins'
    obtain rfl := (List.cons.inj (hquote.symm.trans hquote')).2
    obtain ⟨rfl, rfl⟩ := Prod.mk.inj (Except.ok.inj (hkey.symm.trans hkey'))
    obtain rfl := (List.cons.inj (hcolon.symm.trans hcolon')).2
    obtain ⟨rfl, rfl⟩ := hvalue.unique hvalue'
    obtain ⟨rfl, rfl⟩ := hmembers.unique hmembers'
    exact ⟨rfl, rfl⟩

end

/-! ### Documents -/

variable {s : String} {t u : Json}

/-- **A document is written in one way.** -/
theorem Spells.unique (h : Spells s t) (h' : Spells s u) : t = u := by
  obtain ⟨_, h, -⟩ := h
  obtain ⟨_, h', -⟩ := h'
  exact (h.unique h').1

/-- **A document that is read is what is written in the text**, with all objects put in order. -/
theorem exists_spells (h : ofText? s = .ok j) : ∃ t, Spells s t ∧ t.sorted = j := by
  obtain ⟨⟨value, rest⟩, hvalue, hrest⟩ := bind_eq_ok_iff.mp h
  dsimp only at hrest
  split at hrest
  next hskip =>
    obtain rfl := Except.ok.inj hrest
    obtain ⟨t, ht, hsorted⟩ := (written _).value _ _ _ _ hvalue
    exact ⟨t, ⟨rest, ht, List.isEmpty_iff.mp hskip⟩, hsorted⟩
  next => cases hrest

end Json

end Colonnade
