import Mathlib.Data.List.Induction
import Colonnade.Proofs.Inference.Total

/-!
# The parser of texts stays last

A *session* is a list of operations on the registry of the built-in parsers: parsers are added, types are
taken away, patterns, null strings and the locale are set, and everything is put back to what it was at
first. Parsers of texts may be added too, and only the type of texts may not be taken away.

What the registry is after a session is said without running it. A built-in parser is still there if its
type has not been taken away since all was put back (`Registry.builtIn`). An added parser is still there
if nothing after it has taken its type away or put all back (`Registry.added`). Both stand in their order,
one kind after the other, and behind them the built-in parser of texts (`Registry.Standing`):

| operation | built-in parsers | added parsers |
| --- | --- | --- |
| a parser is added | the same | one more, at the end |
| a type is taken away | those of other types | those of other types |
| all is put back | all | none |
| anything else | the same | the same |

Adding looks for the last parser of texts, and that is always the built-in one, whatever parsers of texts
are before it. It refuses nothing and nothing covers it, so the search for the type of a column never
comes to its end (`Registry.session_keeps_fallback`).
-/

namespace Colonnade

namespace Registry

/-! ### Sessions -/

/-- **An operation on a registry.** -/
inductive Operation where
  | register (parser : Parser)
  | unregister (type : ColumnType) (h : type ≠ .string)
  | addPattern (pattern : String)
  | withNullStrings (texts : List String)
  | withLocale (locale : Locale)
  /-- All is put back to what it was at first. -/
  | reset

/-- **One step of a session.** A pattern that is refused changes nothing. -/
def perform (r : Registry) : Operation → Registry
  | .register parser => r.register parser
  | .unregister type _ => r.unregister type
  | .addPattern pattern => (r.addPattern pattern).toOption.getD r
  | .withNullStrings texts => r.withNullStrings texts
  | .withLocale locale => r.withLocale locale
  | .reset => .default

/-- **The registry after a session.** -/
def after (session : List Operation) : Registry :=
  session.foldl perform .default

namespace Operation

/-- All is put back. -/
def isReset : Operation → Bool
  | reset => true
  | _ => false

/-- The type is taken away. -/
def takesAway (type : ColumnType) : Operation → Bool
  | unregister other _ => other == type
  | _ => false

/-- The parsers that are added, one or none. -/
def parsers : Operation → List Parser
  | register parser => [parser]
  | _ => []

end Operation

/-- A type has been taken away in a session, and all has not been put back since. -/
def isGone (type : ColumnType) : List Operation → Bool
  | [] => false
  | op :: session => op.takesAway type && !session.any Operation.isReset || isGone type session

/-- **The built-in parsers that are there after a session**, but for that of texts. -/
def builtIn (session : List Operation) : List Parser :=
  Parser.defaults.filter fun p => p.type != .string && !isGone p.type session

/-- **The added parsers that are there after a session**: those whose type has not been taken away
afterwards, unless all has been put back. -/
def added : List Operation → List Parser
  | [] => []
  | op :: session =>
    (op.parsers.filter fun p => !session.any fun later => later.isReset || later.takesAway p.type) ++
      added session

/-! ### One operation more -/

theorem isGone_concat (type : ColumnType) (session : List Operation) (op : Operation) :
    isGone type (session ++ [op]) = (isGone type session && !op.isReset || op.takesAway type) := by
  induction session with
  | nil => simp [isGone]
  | cons first session ih =>
    rw [List.cons_append, isGone, ih, isGone, List.any_append, List.any_cons, List.any_nil,
      Bool.or_false]
    cases first.takesAway type <;> cases session.any Operation.isReset <;> cases op.isReset <;>
      cases isGone type session <;> rfl

theorem builtIn_concat (session : List Operation) {op : Operation} (hreset : op.isReset = false) :
    builtIn (session ++ [op]) = (builtIn session).filter fun p => !op.takesAway p.type := by
  rw [builtIn, builtIn, List.filter_filter]
  refine List.filter_congr fun p _ => ?_
  rw [isGone_concat, hreset]
  cases isGone p.type session <;> cases op.takesAway p.type <;> simp

theorem builtIn_reset (session : List Operation) :
    builtIn (session ++ [.reset]) = builtIn [] := by
  refine List.filter_congr fun p _ => ?_
  rw [isGone_concat]
  simp [isGone, Operation.isReset, Operation.takesAway]

theorem added_concat (session : List Operation) (op : Operation) :
    added (session ++ [op]) =
      ((added session).filter fun p => !(op.isReset || op.takesAway p.type)) ++ op.parsers := by
  induction session with
  | nil => simp [added]
  | cons first session ih =>
    rw [List.cons_append, added, ih, added, List.filter_append, List.filter_filter, List.append_assoc]
    congr 1
    refine List.filter_congr fun p _ => ?_
    rw [List.any_append, List.any_cons, List.any_nil, Bool.or_false, Bool.not_or, Bool.and_comm]

/-! ### What the registry is -/

/-- **What a registry is after a session.** -/
structure Standing (session : List Operation) (r : Registry) : Prop where
  /-- The built-in parsers that are left, those that have been added, and that of texts. -/
  parsers : r.parsers = builtIn session ++ added session ++ [.text]
  valid : ∀ pattern ∈ r.patterns, Pattern.isValid pattern
  distinct : r.patterns.Nodup

/-- The built-in parsers are themselves, and that of texts is the last. -/
theorem parsers_default : Registry.default.parsers = builtIn [] ++ [.text] := rfl

/-- Nothing stands behind a parser of texts at the end. -/
theorem fromFallback_concat (before : List Parser) :
    fromFallback (before ++ [.text]) = [.text] := by
  have hnone :
      ((before ++ [Parser.text]).reverse.takeWhile fun p => p.type != .string) = [] := by
    rw [List.reverse_append, List.reverse_singleton, List.singleton_append]
    exact List.takeWhile_cons_of_neg (by decide)
  rw [fromFallback, hnone, if_neg (by simp)]
  simp

/-- **A parser is added in front of the parser of texts.** -/
theorem parsers_register {r : Registry} {before : List Parser} (h : r.parsers = before ++ [.text])
    (p : Parser) : (r.register p).parsers = before ++ [p] ++ [.text] := by
  show r.parsers.take (r.parsers.length - (fromFallback r.parsers).length) ++
    p :: fromFallback r.parsers = _
  rw [h, fromFallback_concat]
  simp

/-- Patterns stay valid and distinct. -/
theorem patterns_addPattern {r : Registry} (hvalid : ∀ q ∈ r.patterns, Pattern.isValid q)
    (hdistinct : r.patterns.Nodup) (pattern : String) :
    let s := (r.addPattern pattern).toOption.getD r
    s.parsers = r.parsers ∧ (∀ q ∈ s.patterns, Pattern.isValid q) ∧ s.patterns.Nodup := by
  intro s
  by_cases hp : Pattern.isValid pattern
  · by_cases hmem : pattern ∈ r.patterns
    · have hs : s = r := by simp [s, addPattern, hp, hmem, Except.toOption]
      rw [hs]
      exact ⟨rfl, hvalid, hdistinct⟩
    · have hs : s = { r with patterns := r.patterns ++ [pattern] } := by
        simp [s, addPattern, hp, hmem, Except.toOption]
      rw [hs]
      refine ⟨rfl, fun q hq => ?_, List.nodup_append.mpr ⟨hdistinct, List.nodup_singleton _, ?_⟩⟩
      · rcases List.mem_append.mp hq with hq | hq
        · exact hvalid q hq
        · exact List.mem_singleton.mp hq ▸ hp
      · rintro q hq _ hsame rfl
        exact hmem (List.mem_singleton.mp hsame ▸ hq)
  · have hs : s = r := by simp [s, addPattern, hp, Except.toOption]
    rw [hs]
    exact ⟨rfl, hvalid, hdistinct⟩

/-- An operation that leaves the parsers alone changes nothing about them. -/
theorem parsers_concat_of_quiet {session : List Operation} {op : Operation}
    (hreset : op.isReset = false) (htakes : ∀ type, op.takesAway type = false)
    (hparsers : op.parsers = []) :
    builtIn (session ++ [op]) ++ added (session ++ [op]) = builtIn session ++ added session := by
  rw [builtIn_concat session hreset, added_concat, hparsers]
  simp [hreset, htakes]

/-- **One step of a session.** -/
theorem Standing.perform {session : List Operation} {r : Registry} (h : Standing session r)
    (op : Operation) : Standing (session ++ [op]) (r.perform op) := by
  cases op with
  | register p =>
    refine ⟨?_, h.valid, h.distinct⟩
    rw [Registry.perform, parsers_register h.parsers, builtIn_concat session rfl, added_concat]
    simp [Operation.takesAway, Operation.isReset, Operation.parsers]
  | unregister type hne =>
    refine ⟨?_, h.valid, h.distinct⟩
    have hkept (ps : List Parser) : (ps.filter fun p => p.type != type) =
        ps.filter fun p => !(Operation.unregister type hne).takesAway p.type :=
      List.filter_congr fun p _ => by simp [Operation.takesAway, bne, Bool.beq_comm]
    rw [Registry.perform, unregister, h.parsers, builtIn_concat session rfl, added_concat,
      List.filter_append, List.filter_append, hkept, hkept]
    -- the parser of texts is not of the type that is taken away
    have htext : ([.text] : List Parser).filter (fun p => p.type != type) = [.text] :=
      List.filter_cons_of_pos (bne_iff_ne.mpr hne.symm)
    rw [htext]
    simp [Operation.isReset, Operation.parsers]
  | addPattern pattern =>
    obtain ⟨hparsers, hvalid, hdistinct⟩ := patterns_addPattern h.valid h.distinct pattern
    refine ⟨?_, hvalid, hdistinct⟩
    rw [parsers_concat_of_quiet rfl (fun _ => rfl) rfl]
    exact hparsers.trans h.parsers
  | withNullStrings texts =>
    refine ⟨?_, h.valid, h.distinct⟩
    rw [parsers_concat_of_quiet rfl (fun _ => rfl) rfl]
    exact h.parsers
  | withLocale locale =>
    refine ⟨?_, h.valid, h.distinct⟩
    rw [parsers_concat_of_quiet rfl (fun _ => rfl) rfl]
    exact h.parsers
  | reset =>
    refine ⟨?_, by simp [Registry.perform, default], by simp [Registry.perform, default]⟩
    rw [builtIn_reset, added_concat]
    simp [Operation.isReset, Operation.parsers, Registry.perform, parsers_default]

/-- **What the registry is after a session**, by one step after the other. -/
theorem standing_after (session : List Operation) : Standing session (after session) := by
  induction session using List.reverseRecOn with
  | nil => exact ⟨parsers_default, by simp [after, default], by simp [after, default]⟩
  | append_singleton session op ih =>
    rw [after, List.foldl_append]
    exact ih.perform op

end Registry

/-! ### Errors of a search -/

/-- The columns do not make a frame, because of a name or of a length. -/
def FrameError.OfColumns : FrameError → Prop
  | .duplicateColumn _ => True
  | .lengthMismatch _ _ _ => True
  | _ => False

theorem Frame.ofColumns_of_checkColumns {rowCount : Nat} {seen : List String} {cs : List Column}
    {e : FrameError} (h : checkColumns rowCount seen cs = .error e) : e.OfColumns := by
  induction cs generalizing seen with
  | nil => exact absurd h (by simp [checkColumns])
  | cons c cs ih =>
    rw [checkColumns] at h
    split at h
    · exact Except.error.inj h ▸ trivial
    · split at h
      · exact Except.error.inj h ▸ trivial
      · exact ih h

theorem Frame.ofColumns_of_withRowCount {cs : List Column} {n : Nat} {e : FrameError}
    (h : withRowCount cs n = .error e) : e.OfColumns :=
  ofColumns_of_checkColumns (map_eq_error_iff.mp h)

theorem Column.ofColumns_of_shape {stack : StackRows} {name : String} {type : ColumnType}
    {cells : List (Option Value)} {e : FrameError}
    (hstack : ∀ pieces e, stack pieces = .error e → e.OfColumns)
    (h : shape stack name type cells = .error e) : e.OfColumns := by
  unfold shape at h
  split at h
  · exact hstack _ _ (map_eq_error_iff.mp h)
  · cases h
  · cases h

/-- Stacked rows fail for no other reason, at any depth. -/
theorem Piece.ofColumns_of_stack {depth : Nat} {pieces : List Piece} {e : FrameError}
    (h : stack depth pieces = .error e) : e.OfColumns := by
  induction depth generalizing pieces e with
  | zero => cases h
  | succ depth ih =>
    rw [stack, stackLevel] at h
    rcases bind_eq_error_iff.mp h with h | ⟨columns, -, h⟩
    · obtain ⟨name, -, h⟩ := exists_of_mapM_eq_error h
      unfold stackColumn at h
      split at h
      · exact Column.ofColumns_of_shape (fun _ _ => ih) h
      · exact Column.ofColumns_of_shape (fun _ _ => ih) h
    · exact Frame.ofColumns_of_withRowCount h

namespace Registry

variable {r : Registry} {o : Options}

theorem ofColumns_of_settle {source : Column} {cells : List Cell} {p : Parser}
    {values : List (Option Value)} {e : FrameError} (h : settle source cells p values = .error e) :
    e.OfColumns := by
  unfold settle at h
  split at h
  · cases h
  · split at h
    · cases h
    · exact Column.ofColumns_of_shape (fun _ _ => Piece.ofColumns_of_stack) h

theorem error_of_context {e : FrameError} (h : r.context o = .error e) :
    ∃ pattern ∈ o.pattern, e = .invalidPattern pattern := by
  rcases context_cases r o with ⟨-, hcontext⟩ | ⟨pattern, hpattern, -, hcontext⟩
  · rw [hcontext] at h
    cases h
  · rw [hcontext] at h
    exact ⟨pattern, hpattern, (Except.error.inj h).symm⟩

/-- **A search that ends with the parser of texts** fails only for a pattern that the call asks for, or
because rows that have been read do not make a frame. -/
theorem error_of_tryParse (htext : Parser.text ∈ r.parsers) {c : Column} {e : FrameError}
    (h : r.tryParse o c = .error e) :
    (∃ pattern ∈ o.pattern, e = .invalidPattern pattern) ∨ e.OfColumns := by
  unfold tryParse at h
  split at h
  next name nullable cells =>
    rcases bind_eq_error_iff.mp h with h | ⟨context, -, h⟩
    · exact .inl (error_of_context h)
    · dsimp only at h
      split at h
      next => exact .inr (ofColumns_of_settle h)
      next hnone =>
        -- the parser of texts may be tried and would have been found
        obtain ⟨values, hvalues⟩ :=
          exists_attempt?_text context (cells.map (Cell.ofValue (r.nullStringsFor o)))
        have hfound := List.findSome?_eq_none_iff.mp hnone _ (text_mem_eligible htext)
        exact absurd hfound (by simp [hvalues])
  next => cases h

/-- **The parser of texts survives every session.** It stays the last parser, and nothing covers it; before
it stand the built-in parsers that are left, in their order, and then the added ones, in the order in which
they were added; all patterns are valid, and none is there twice. So no search for the type of a column
ever comes to its end, whatever types the call skips. -/
theorem session_keeps_fallback (session : List Operation) :
    (after session).parsers = builtIn session ++ added session ++ [.text] ∧
      Parser.text.coveredBy = [] ∧
      (∀ context s, Parser.text.convert context s = some (.ofText s)) ∧
      (builtIn session).Sublist Parser.defaults ∧
      (∀ pattern ∈ (after session).patterns, Pattern.isValid pattern) ∧
      (after session).patterns.Nodup ∧
      ∀ (o : Options) (c : Column) (name : String),
        (after session).tryParse o c ≠ .error (.parserCascadeExhausted name) := by
  have hstanding := standing_after session
  have htext : Parser.text ∈ (after session).parsers :=
    hstanding.parsers ▸ List.mem_append_right _ (List.mem_singleton.mpr rfl)
  refine ⟨hstanding.parsers, rfl, fun _ _ => rfl, List.filter_sublist, hstanding.valid,
    hstanding.distinct, fun o c name h => ?_⟩
  rcases error_of_tryParse htext h with ⟨pattern, -, he⟩ | he
  · cases he
  · exact he

/-- A parser of texts that integers cover is added in front of the built-in one; a parser of integers
that is added after integers have been taken away stays. -/
example :
    (after [.register { Parser.text with coveredBy := [.int] }, .unregister .int (by decide),
        .register .int]).parsers.map Parser.type =
      (Parser.defaults.drop 1).dropLast.map Parser.type ++ [.string, .int, .string] := by
  decide

end Registry

end Colonnade
