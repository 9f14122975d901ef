import Mathlib.Data.List.Pairwise
import SExpr.Proofs.Expression
import SExpr.Proofs.Literal.Apart
import SExpr.Proofs.Parallel.Readers
import SExpr.Session

/-!
# The first alternative that finds something finds the most

An expression is read by trying its kinds in order, and the first one that finds something wins.
Yet what wins is the longest of all that the kinds find at that place, and no two of them find
equally much.  So the order matters only where one kind finds a beginning of what another one does;
any order that puts the other one first gives the same reader, at all levels of nesting.

* `Verdict.first` — the first verdict of several that is more than that nothing is there.
* `Verdict.Outranks` — two verdicts of which the first is the better one, if there is a choice.
* `Verdict.first_eq_found_iff` — where each verdict outranks those behind it, the first is the
  longest.
* `outranks_kind`, `outranks_alternatives` — literals, and all kinds of expressions.
* `Session.attempt_expression` — from any state of a session.
-/

namespace SExpr

/-! ## Verdicts in order -/

namespace Verdict

variable {α : Type}

/-- The first verdict of several that is more than that nothing is there. -/
def first : List (Verdict α) → Verdict α
  | [] => .missing
  | .missing :: others => first others
  | verdict :: _ => verdict

/-- The first verdict is the better one: if both find something, it finds more, and where one is
that the text is nested too deeply, the other is that nothing is there. -/
def Outranks (v w : Verdict α) : Prop :=
  v = .missing ∨ w = .missing ∨
    ∃ a length b length', v = .found a length ∧ w = .found b length' ∧ length' < length

variable {verdicts verdicts' : List (Verdict α)}

lemma Outranks.shift {v w : Verdict α} (outranks : Outranks v w) (distance : Nat) :
    Outranks (v.shift distance) (w.shift distance) := by
  rcases outranks with rfl | rfl | ⟨a, length, b, length', rfl, rfl, less⟩
  · exact .inl rfl
  · exact .inr (.inl rfl)
  · exact .inr (.inr ⟨a, _, b, _, rfl, rfl, Nat.add_lt_add_left less distance⟩)

/-- What outranks a find is longer. -/
lemma Outranks.lt {a b : α} {length length' : Nat}
    (outranks : Outranks (.found a length) (.found b length')) : length' < length := by
  rcases outranks with none | none | ⟨_, _, _, _, same, same', less⟩
  · cases none
  · cases none
  · cases same
    cases same'
    exact less

/-- Behind a text that is nested too deeply nothing is there. -/
lemma Outranks.eq_missing {offset : Nat} {w : Verdict α}
    (outranks : Outranks (.tooDeep offset) w) : w = .missing := by
  rcases outranks with none | none | ⟨_, _, _, _, same, -⟩
  · cases none
  · exact none
  · cases same

/-- Where the first finds something, the text is not nested too deeply for the other. -/
lemma Outranks.not_tooDeep {a : α} {length offset : Nat} :
    ¬ Outranks (.found a length) (.tooDeep offset) := by
  rintro (none | none | ⟨_, _, _, _, -, same, -⟩)
  · cases none
  · cases none
  · cases same

lemma first_append (others : List (Verdict α)) :
    first (verdicts ++ others) = match first verdicts with
      | .missing => first others
      | verdict => verdict := by
  induction verdicts with
  | nil => rfl
  | cons v verdicts ih => cases v <;> simp [first, ih]

lemma first_map_shift (distance : Nat) :
    first (verdicts.map (shift distance)) = (first verdicts).shift distance := by
  induction verdicts with
  | nil => rfl
  | cons v others ih =>
      cases v with
      | missing => exact ih
      | found a length => rfl
      | tooDeep offset => rfl

lemma first_eq_missing_iff : first verdicts = .missing ↔ ∀ v ∈ verdicts, v = .missing := by
  induction verdicts with
  | nil => simp [first]
  | cons v others ih => cases v <;> simp [first, ih]

/-- Where each verdict outranks those behind it, the first is the longest. -/
lemma first_eq_found_iff (ranked : verdicts.Pairwise Outranks) {a : α} {length : Nat} :
    first verdicts = .found a length ↔ .found a length ∈ verdicts ∧
      ∀ b length', .found b length' ∈ verdicts → length' ≤ length := by
  induction verdicts with
  | nil => simp [first]
  | cons v others ih =>
      obtain ⟨best, rankedOthers⟩ := List.pairwise_cons.mp ranked
      cases v with
      | missing => simp [first, ih rankedOthers]
      | tooDeep offset =>
          constructor
          · intro same
            cases same
          · rintro ⟨member, -⟩
            rcases List.mem_cons.mp member with same | later
            · cases same
            · cases (best _ later).eq_missing
      | found c length' =>
          constructor
          · intro same
            cases same
            refine ⟨List.mem_cons_self, fun b length' member => ?_⟩
            rcases List.mem_cons.mp member with same | later
            · cases same
              exact Nat.le_refl _
            · exact Nat.le_of_lt (best _ later).lt
          · rintro ⟨member, longest⟩
            rcases List.mem_cons.mp member with same | later
            · exact same.symm
            · have less := (best _ later).lt
              have more := longest c length' List.mem_cons_self
              omega

/-- The text is nested too deeply for the first just if it is for any. -/
lemma first_eq_tooDeep_iff (ranked : verdicts.Pairwise Outranks) {offset : Nat} :
    first verdicts = .tooDeep offset ↔ .tooDeep offset ∈ verdicts := by
  induction verdicts with
  | nil => simp [first]
  | cons v others ih =>
      obtain ⟨best, rankedOthers⟩ := List.pairwise_cons.mp ranked
      cases v with
      | missing => simp [first, ih rankedOthers]
      | tooDeep offset' =>
          constructor
          · intro same
            cases same
            exact List.mem_cons_self
          · intro member
            rcases List.mem_cons.mp member with same | later
            · exact same.symm
            · cases (best _ later).eq_missing
      | found c length =>
          constructor
          · intro same
            cases same
          · intro member
            rcases List.mem_cons.mp member with same | later
            · cases same
            · exact absurd (best _ later) Outranks.not_tooDeep

/-- The first of ranked verdicts is the same in whatever ranked order they come. -/
lemma first_eq_of_mem_iff (ranked : verdicts.Pairwise Outranks)
    (ranked' : verdicts'.Pairwise Outranks) (same : ∀ v, v ∈ verdicts ↔ v ∈ verdicts') :
    first verdicts = first verdicts' := by
  cases best : first verdicts' with
  | missing =>
      rw [first_eq_missing_iff] at best ⊢
      exact fun v member => best v ((same v).mp member)
  | found a length =>
      rw [first_eq_found_iff ranked'] at best
      rw [first_eq_found_iff ranked]
      simpa only [same] using best
  | tooDeep offset =>
      rw [first_eq_tooDeep_iff ranked'] at best
      rw [first_eq_tooDeep_iff ranked]
      exact (same _).mpr best

end Verdict

/-! ## Literals in order -/

namespace Reader

open Verdict

variable {L : Type} [Log L] {α : Type} {order : List Literal}

lemma verdict_firstOf (readers : List (Reader L α)) (ahead : List Char) :
    (firstOf readers ahead).verdict = first (readers.map fun p => (p ahead).verdict) := by
  induction readers with
  | nil => rfl
  | cons p others ih =>
      rw [firstOf, verdict_orElse, ih, List.map_cons]
      cases (p ahead).verdict <;> rfl

/-- Of two kinds of literals the one that is not preceded by the other outranks it. -/
lemma outranks_kind {kind other : Literal} (different : kind ≠ other)
    (notAfter : (other, kind) ∉ Literal.precedences) (ahead : List Char) :
    Outranks (kind.reader ahead : Outcome L Datum).verdict
      (other.reader ahead : Outcome L Datum).verdict := by
  by_cases before : (kind, other) ∈ Literal.precedences
  · rcases Shallow.verdict_cases (kind.reader : Reader L Datum) ahead with
      ⟨front, rest, datum, rfl, found⟩ | missing
    · rcases shorter_of_reads before found with
        missing | ⟨left, c, more, datum', rfl, found'⟩
      · exact .inr (.inl missing)
      · rw [Reads] at found found'
        rw [List.append_assoc]
        refine .inr (.inr ⟨datum, _, datum', _, by simpa using found, by simpa using found', ?_⟩)
        simp
    · exact .inl missing
  · rcases misses_or_misses (L := L) different before notAfter ahead with missing | missing
    · exact .inl missing
    · exact .inr (.inl missing)

lemma outranks_order (distinct : order.Nodup) (ranked : Literal.Ranked order) (ahead : List Char) :
    (order.map fun kind => (kind.reader ahead : Outcome L Datum).verdict).Pairwise Outranks := by
  refine List.pairwise_map.mpr ((List.pairwise_and_iff.mpr ⟨distinct, ranked⟩).imp ?_)
  rintro kind later ⟨different, notAfter⟩
  exact outranks_kind different notAfter ahead

lemma verdict_firstIn (order : List Literal) (ahead : List Char) :
    (Literal.firstIn order ahead : Outcome L Datum).verdict =
      first (order.map fun kind => (kind.reader ahead : Outcome L Datum).verdict) := by
  rw [Literal.firstIn, verdict_firstOf, List.map_map]
  rfl

/-- In every ranked order of all kinds the same literal is found. -/
lemma verdict_firstIn_eq (all : order.Perm Literal.inOrder) (ranked : Literal.Ranked order)
    (ahead : List Char) : (Literal.firstIn order ahead : Outcome L Datum).verdict =
      (Literal.firstIn Literal.inOrder ahead : Outcome L Datum).verdict := by
  rw [verdict_firstIn, verdict_firstIn]
  refine first_eq_of_mem_iff (outranks_order (all.nodup_iff.mpr Literal.nodup_inOrder) ranked ahead)
    (outranks_order Literal.nodup_inOrder Literal.ranked_inOrder ahead) fun v => ?_
  simp only [List.mem_map, all.mem_iff]

/-! ## Expressions in order -/

lemma follows_dispatch (all : order.Perm Literal.inOrder) (ranked : Literal.Ranked order)
    (composites : Bool) (item item' : Reader L Datum)
    [Follows False (fun (_ : L) (_ : L) => True) item item'] :
    Follows False (fun (_ : L) (_ : L) => True) (dispatch order composites item)
      (dispatch Literal.inOrder composites item') := by
  have literal : Follows False (fun (_ : L) (_ : L) => True)
      (Literal.firstIn order : Reader L Datum) (Literal.firstIn Literal.inOrder) :=
    .of_agree fun ahead => ⟨verdict_firstIn_eq all ranked ahead, trivial⟩
  unfold dispatch
  infer_instance

/-- In every ranked order the readers of nested expressions come to the same, by induction on the
levels that are left. -/
lemma follows_itemIn (all : order.Perm Literal.inOrder) (ranked : Literal.Ranked order)
    (composites : Bool) (room : Nat) :
    Follows False (fun (_ : L) (_ : L) => True) (itemIn order composites room : Reader L Datum)
      (item composites room) := by
  induction room with
  | zero =>
      exact inferInstanceAs (Follows False (fun (_ : L) (_ : L) => True)
        (refuse : Reader L Datum) (refuse : Reader L Datum))
  | succ room ih =>
      have inside : Follows False (fun (_ : L) (_ : L) => True)
          (dispatch order composites (itemIn order composites room))
          (dispatch Literal.inOrder composites (item composites room)) :=
        follows_dispatch all ranked composites _ _
      exact inferInstanceAs (Follows False (fun (_ : L) (_ : L) => True)
        (nested (dispatch order composites (itemIn order composites room)))
        (nested (dispatch Literal.inOrder composites (item composites room))))

lemma verdict_expressionIn (all : order.Perm Literal.inOrder) (ranked : Literal.Ranked order)
    (composites : Bool) (room : Nat) (ahead : List Char) :
    (expressionIn order composites room ahead : Outcome L Datum).verdict =
      (expression composites room ahead : Outcome L Datum).verdict := by
  have inside : Follows False (fun _ _ => True) (itemIn order composites room : Reader L Datum)
      (item composites room) := follows_itemIn all ranked composites room
  exact (follows_dispatch all ranked composites _ (item composites room)).verdict_eq ahead

end Reader

/-! ## All kinds of expressions -/

/-- The readers that are tried for an expression. -/
def Recognizer.alternatives (composites : Bool) : List Recognizer :=
  [.atom, .text, .character, .complex, .float, .ratio, .integer, .boolean] ++
    if composites then [.quoted, .parenthesized] else []

namespace Reader

open Verdict

variable {L : Type} [Log L] (item : Reader L Datum)

/-- The mark of a composite expression starts no literal. -/
lemma misses_kind_or_composite (kind : Literal) (ahead : List Char) :
    Misses (kind.reader : Reader L Datum) ahead ∨
      Misses (quoted item) ahead ∧ Misses (parenthesized item) ahead := by
  have noKind {c : Char} {others : List Char} (mark : (isAtomChar c || c == '"') = false) :
      Misses (kind.reader : Reader L Datum) (c :: others) :=
    misses_kind (misses_literal_of_mark mark) kind
  by_cases noQuote : Misses (token "'" : Reader L Unit) ahead
  · by_cases noParenthesis : Misses (token "(" : Reader L Unit) ahead
    · exact .inr ⟨noQuote.bind, noParenthesis.bind⟩
    · rw [misses_token, not_not] at noParenthesis
      obtain ⟨others, rfl⟩ := noParenthesis
      exact .inl (noKind rfl)
  · rw [misses_token, not_not] at noQuote
    obtain ⟨others, rfl⟩ := noQuote
    exact .inl (noKind rfl)

lemma misses_quoted_or_parenthesized (ahead : List Char) :
    Misses (quoted item) ahead ∨ Misses (parenthesized item) ahead := by
  by_cases noQuote : Misses (token "'" : Reader L Unit) ahead
  · exact .inl noQuote.bind
  · rw [misses_token, not_not] at noQuote
    obtain ⟨others, rfl⟩ := noQuote
    have stops : Stops (fun c => c == '(') ('\'' :: others) := Stops.cons rfl
    have noParenthesis : Misses (token "(" : Reader L Unit) ('\'' :: others) :=
      misses_token_of_stops stops rfl rfl
    exact .inr noParenthesis.bind

variable {item} (composites : Bool) (room : Nat) (ahead : List Char)

/-- What each of the readers that are tried for an expression comes to. -/
def verdicts (L : Type) [Log L] : List (Verdict Datum) :=
  (Recognizer.alternatives composites).map fun recognizer =>
    (recognizer.reader composites room ahead : Outcome L Datum).verdict

lemma verdict_expression : (expression composites room ahead : Outcome L Datum).verdict =
    first (verdicts composites room ahead L) := by
  have composite : (composite composites (item composites room) ahead : Outcome L Datum).verdict =
      first ((if composites then [Recognizer.quoted, .parenthesized] else []).map fun recognizer =>
        (recognizer.reader composites room ahead : Outcome L Datum).verdict) := by
    cases composites with
    | false => rfl
    | true => exact verdict_firstOf _ ahead
  show ((Literal.firstIn Literal.inOrder <|> Reader.composite composites (item composites room) :
    Reader L Datum) ahead).verdict = _
  rw [verdict_orElse, verdict_firstIn, composite, verdicts, Recognizer.alternatives,
    List.map_append, first_append]
  rfl

lemma outranks_alternatives : (verdicts composites room ahead L).Pairwise Outranks := by
  rw [verdicts, Recognizer.alternatives, List.map_append, List.pairwise_append]
  refine ⟨outranks_order Literal.nodup_inOrder Literal.ranked_inOrder ahead, ?_, ?_⟩
  · cases composites with
    | false => exact .nil
    | true =>
        refine List.pairwise_pair.mpr ?_
        rcases misses_quoted_or_parenthesized (L := L) (item true room) ahead with missing | missing
        · exact .inl missing
        · exact .inr (.inl missing)
  · intro v literal w composite
    obtain ⟨kind, -, rfl⟩ : ∃ kind ∈ Literal.inOrder,
        (kind.reader ahead : Outcome L Datum).verdict = v := List.mem_map.mp literal
    obtain ⟨recognizer, member, rfl⟩ := List.mem_map.mp composite
    rcases misses_kind_or_composite (L := L) (item composites room) kind ahead with
      missing | ⟨noQuoted, noParenthesized⟩
    · exact .inl missing
    · refine .inr (.inl ?_)
      split at member
      · simp only [List.mem_cons, List.not_mem_nil, or_false] at member
        rcases member with rfl | rfl
        · exact noQuoted
        · exact noParenthesized
      · cases member

end Reader

open Reader in
/-- From any state of a session and at any offset an expression is the longest of all that the
readers tried for it find there, and no two of them end at the same place.  Nothing is found just if
none of them finds anything, and the text is refused just if one of them refuses it.  So it makes no
difference in which order the kinds of literals are tried, here and in all expressions inside, as
long as no kind comes before one that finds more: complex numbers come before floats, and integers
behind these two and ratios. -/
theorem Session.attempt_expression (session : Session) (offset : Nat) :
    let composites := session.options.composites
    let room := session.options.room session.depth
    let alternatives := Recognizer.alternatives composites
    let verdict (recognizer : Recognizer) : Verdict Datum :=
      (session.attempt (recognizer.reader composites room) offset).1
    (∀ recognizer ∈ alternatives, ∀ other ∈ alternatives, recognizer ≠ other →
      ∀ datum stop datum' stop', verdict recognizer = .found datum stop →
        verdict other = .found datum' stop' → stop ≠ stop') ∧
    (∀ datum stop, verdict .expression = .found datum stop ↔
      (∃ recognizer ∈ alternatives, verdict recognizer = .found datum stop) ∧
        ∀ recognizer ∈ alternatives, ∀ datum' stop',
          verdict recognizer = .found datum' stop' → stop' ≤ stop) ∧
    (verdict .expression = .missing ↔ ∀ recognizer ∈ alternatives, verdict recognizer = .missing) ∧
    (∀ place, verdict .expression = .tooDeep place ↔
      ∃ recognizer ∈ alternatives, verdict recognizer = .tooDeep place) ∧
    ∀ order : List Literal, order.Perm Literal.inOrder → Literal.Ranked order →
      (session.attempt (expressionIn order composites room) offset).1 = verdict .expression := by
  intro composites room alternatives verdict
  -- The verdicts at an offset are those on the text from there on, all shifted alike.
  have shifted : alternatives.map verdict =
      (verdicts composites room (session.source.drop offset) Trace).map (.shift offset) := by
    rw [verdicts, List.map_map]
    rfl
  have ranked : (alternatives.map verdict).Pairwise Verdict.Outranks := by
    rw [shifted, List.pairwise_map]
    exact (outranks_alternatives composites room _).imp fun outranks => outranks.shift offset
  have whole : verdict .expression = Verdict.first (alternatives.map verdict) := by
    rw [shifted, Verdict.first_map_shift, ← verdict_expression]
    rfl
  refine ⟨?_, fun datum stop => ?_, ?_, fun place => ?_, fun order all orderRanked => ?_⟩
  · intro recognizer member other member' different datum stop datum' stop' found found'
    have symmetric : Std.Symm fun recognizer other =>
        (verdict recognizer).Outranks (verdict other) ∨
          (verdict other).Outranks (verdict recognizer) := ⟨fun _ _ => Or.symm⟩
    have pairwise : alternatives.Pairwise fun recognizer other =>
        (verdict recognizer).Outranks (verdict other) ∨
          (verdict other).Outranks (verdict recognizer) :=
      (List.pairwise_map.mp ranked).imp Or.inl
    have either := pairwise.forall member member' different
    rw [found, found'] at either
    rcases either with outranks | outranks
    · exact Nat.ne_of_gt outranks.lt
    · exact Nat.ne_of_lt outranks.lt
  · rw [whole, Verdict.first_eq_found_iff ranked]
    refine and_congr List.mem_map ⟨fun longest recognizer member datum' stop' found => ?_, ?_⟩
    · exact longest datum' stop' (List.mem_map.mpr ⟨recognizer, member, found⟩)
    · intro longest datum' stop' member
      obtain ⟨recognizer, member, found⟩ := List.mem_map.mp member
      exact longest recognizer member datum' stop' found
  · rw [whole, Verdict.first_eq_missing_iff]
    simp only [List.forall_mem_map]
  · rw [whole, Verdict.first_eq_tooDeep_iff ranked]
    exact List.mem_map
  · exact congrArg (Verdict.shift offset) (verdict_expressionIn all orderRanked composites room _)

open Reader in
/-- Truth values may be tried first, and ratios before complex numbers. -/
theorem Session.attempt_expression_reordered :
    [.boolean, .ratio, .complex, .float, .integer, .character, .text, .atom].Perm
      Literal.inOrder ∧
    Literal.Ranked [.boolean, .ratio, .complex, .float, .integer, .character, .text, .atom] ∧
    ((Session.start "(1/2 #t)".toList { composites := true }).attempt
      (expressionIn [.boolean, .ratio, .complex, .float, .integer, .character, .text, .atom]
        true 64) 0).1 = .found (.list [.ratio ⟨1, 2, by decide⟩, .boolean true]) 8 := by
  have all : [.boolean, .ratio, .complex, .float, .integer, .character, .text, .atom].Perm
      Literal.inOrder := by decide
  have ranked : Literal.Ranked
      [.boolean, .ratio, .complex, .float, .integer, .character, .text, .atom] := by decide
  have read : ((Session.start "(1/2 #t)".toList { composites := true }).attempt
      (expression true 64) 0).1 = .found (.list [.ratio ⟨1, 2, by decide⟩, .boolean true]) 8 := rfl
  obtain ⟨-, -, -, -, same⟩ :=
    Session.attempt_expression (Session.start "(1/2 #t)".toList { composites := true }) 0
  refine ⟨all, ranked, Eq.trans ?_ read⟩
  exact same _ all ranked

end SExpr
