import SExpr.Proofs.Composite.Derived
import SExpr.Proofs.Literal.Order

/-!
# Finding expressions

A literal or, where they are allowed, a composite expression.  The two do not get in each other's
way: where a composite expression starts no literal does.

* `serves_item` — with room for so many levels the reader of nested expressions finds what the
  grammar derives, if it is lower than that.  This is the induction on the levels.
* `Entry.derives_of_reads`, `Entry.answers` — the same for the four entries: what is found is
  derived and no higher than the room, and what is derived is found or, if it is higher, refused.
-/

namespace SExpr

open Grammar

namespace Reader

variable {L : Type} [Log L] {composites : Bool} {room : Nat} {item : Reader L Datum}
  {text front rest ahead : List Char} {datum : Datum}

instance (allowed : Bool) [Bounded item] : Bounded (composite allowed item) := by
  unfold composite
  split <;> infer_instance

instance (order : List Literal) (allowed : Bool) [Bounded item] :
    Bounded (dispatch order allowed item) := by
  unfold dispatch
  infer_instance

instance (composites : Bool) (room : Nat) :
    Bounded (Reader.item composites room : Reader L Datum) := by
  induction room with
  | zero => exact inferInstanceAs (Bounded refuse)
  | succ room ih =>
      exact inferInstanceAs
        (Bounded (nested (dispatch Literal.inOrder composites (Reader.item composites room))))

/-! ## One level -/

/-- A composite expression is read in one of two ways. -/
lemma reads_composite {allowed : Bool} (found : Reads (composite allowed item) front rest datum) :
    allowed = true ∧
      (Reads (quoted item) front rest datum ∨ Reads (parenthesized item) front rest datum) := by
  cases allowed with
  | false => exact absurd found not_reads_nowhere
  | true =>
      simp only [composite, if_true, firstOf, reads_orElse] at found
      rcases found with found | ⟨-, found | ⟨-, found⟩⟩
      · exact ⟨rfl, .inl found⟩
      · exact ⟨rfl, .inr found⟩
      · exact absurd found not_reads_nowhere

lemma derives_of_reads_dispatch {order : List Literal} (serves : Serves composites room item)
    (found : Reads (dispatch order composites item) front rest datum) :
    Derives composites front datum ∧ datum.height ≤ room := by
  rw [dispatch, reads_orElse] at found
  rcases found with found | ⟨-, found⟩
  · have lexeme := lexeme_of_reads found
    exact ⟨.lexeme lexeme, lexeme.height_eq ▸ Nat.zero_le _⟩
  · obtain ⟨allowed, found⟩ := reads_composite found
    rcases found with found | found
    · obtain ⟨text, quotee, rfl, inside, rfl⟩ := exists_of_reads_quoted found
      obtain ⟨derives, low⟩ := serves.sound _ _ _ inside
      exact ⟨.quoted allowed derives, Datum.height_quote_le_iff.mpr low⟩
    · exact derives_of_reads_parenthesized serves allowed found

/-- Where neither an apostrophe nor a parenthesis is ahead, no composite expression is. -/
lemma misses_composite (other : Stops (fun c => c == '\'' || c == '(') ahead) :
    Misses (composite composites item) ahead := by
  have noQuote : Misses (token "'" : Reader L Unit) ahead := misses_token_of_stops other rfl rfl
  have noParenthesis : Misses (token "(" : Reader L Unit) ahead :=
    misses_token_of_stops other rfl rfl
  rw [composite]
  split
  · refine misses_firstOf.mpr ?_
    simp only [List.forall_mem_cons, List.not_mem_nil, false_implies, implies_true, and_true]
    exact ⟨noQuote.bind, noParenthesis.bind⟩
  · exact misses_nowhere ahead

/-- No expression is found where none starts. -/
lemma misses_dispatch {order : List Literal} (barren : Barren ahead) :
    Misses (dispatch order composites item) ahead := by
  refine misses_orElse.mpr ⟨misses_literal ?_, misses_composite ?_⟩
  · refine Stops.mono barren fun c taken => ?_
    rw [startsExpression, taken, Bool.true_or, Bool.true_or]
  · refine Stops.mono barren fun c taken => ?_
    rw [startsExpression, Bool.or_assoc, taken, Bool.or_true]

lemma answers_composite_of_quoted {condition : Prop}
    (answer : Answers (quoted item) text rest datum condition) :
    Answers (composite true item) text rest datum condition := answer.orElse

/-- A parenthesis is no apostrophe, so the reader of forms gets its turn. -/
lemma answers_composite_of_parenthesized {others : List Char} {condition : Prop}
    (answer : Answers (parenthesized item) ('(' :: others) rest datum condition) :
    Answers (composite true item) ('(' :: others) rest datum condition := by
  have noQuote : Misses (quoted item) ('(' :: others ++ rest) := by
    refine Misses.bind (misses_token.mpr ?_)
    rintro ⟨after, same⟩
    cases same
  exact noQuote.orElse_answers answer.orElse

/-- The mark of a composite expression starts no literal. -/
lemma misses_literal_of_mark {c : Char} {others : List Char}
    (mark : (isAtomChar c || c == '"') = false) :
    Misses (Literal.firstIn Literal.inOrder : Reader L Datum) (c :: others) :=
  misses_literal (Stops.cons mark)

/-- What stands in parentheses is answered whatever follows them. -/
lemma answers_dispatch_of_form (serves : Serves composites room item)
    (allowed : composites = true) {inside blank : List Char} (body : Form)
    (derived : body.Derived (Derives composites) inside ∨ inside = [] ∧ body = Form.empty)
    (space : Blank blank) :
    Answers (dispatch Literal.inOrder composites item) ('(' :: (inside ++ (blank ++ [')']))) rest
      body.toDatum (body.toDatum.height ≤ room) := by
  refine (misses_literal_of_mark rfl).orElse_answers ?_
  rw [allowed]
  exact answers_composite_of_parenthesized (answers_parenthesized serves space derived)

lemma answers_dispatch_of_sequence (serves : Serves composites room item)
    (allowed : composites = true) {inside blank : List Char} {data : List Datum}
    (sequence : Sequence (Derives composites) inside data) (space : Blank blank) :
    Answers (dispatch Literal.inOrder composites item) ('(' :: (inside ++ (blank ++ [')']))) rest
      (.list data) ((Datum.list data).height ≤ room) := by
  cases sequence with
  | nil =>
      exact answers_dispatch_of_form serves allowed Form.empty (.inr ⟨rfl, rfl⟩) space
  | separated items =>
      exact answers_dispatch_of_form serves allowed ⟨data, none⟩ (.inl items) space

lemma answers_dispatch_of_dotted (serves : Serves composites room item)
    (allowed : composites = true) {inside blank : List Char} {data : List Datum} {tail : Datum}
    (sequence : DottedSequence (Derives composites) inside data tail) (space : Blank blank) :
    Answers (dispatch Literal.inOrder composites item) ('(' :: (inside ++ (blank ++ [')']))) rest
      (.dotted data tail) ((Datum.dotted data tail).height ≤ room) :=
  answers_dispatch_of_form serves allowed ⟨data, some tail⟩ (.inl sequence) space

lemma answers_dispatch (serves : Serves composites room item)
    (derives : Derives composites text datum) (delimited : Delimited rest) :
    Answers (dispatch Literal.inOrder composites item) text rest datum (datum.height ≤ room) := by
  cases derives with
  | lexeme lexeme =>
      exact (Reads.of_lexeme lexeme delimited).answers (lexeme.height_eq ▸ Nat.zero_le _) |>.orElse
  | @quoted text quotee allowed inside =>
      have answer := answers_quoted (serves.answers inside delimited)
      rw [Datum.height_quote_le_iff]
      refine (misses_literal_of_mark rfl).orElse_answers ?_
      rw [allowed]
      exact answers_composite_of_quoted answer
  | list allowed sequence space =>
      exact answers_dispatch_of_sequence serves allowed sequence space
  | dotted allowed sequence space =>
      exact answers_dispatch_of_dotted serves allowed sequence space

/-! ## All levels -/

/-- One level further down there is room for one level less. -/
lemma Serves.nested (serves : Serves composites room item) :
    Serves composites (room + 1)
      (nested (dispatch Literal.inOrder composites item)) where
  sound _ _ _ found := by
    obtain ⟨derives, low⟩ := derives_of_reads_dispatch serves found
    exact ⟨derives, Nat.lt_succ_of_le low⟩
  answers derives delimited :=
    (answers_dispatch serves derives delimited).congr Nat.lt_succ_iff.symm
  misses _ barren := misses_dispatch barren
  refuses none := absurd none (Nat.succ_ne_zero room)

lemma serves_refuse : Serves composites 0 (refuse : Reader L Datum) where
  sound _ _ _ found := by cases found
  answers _ _ := ⟨fun low => absurd low (Nat.not_lt_zero _), fun _ => ⟨0, rfl⟩⟩
  misses some := absurd some (Nat.lt_irrefl 0)
  refuses _ := ⟨0, rfl⟩

lemma serves_item (composites : Bool) (room : Nat) :
    Serves composites room (Reader.item composites room : Reader L Datum) := by
  induction room with
  | zero => exact serves_refuse
  | succ room ih => exact ih.nested

end Reader

namespace Entry

variable {L : Type} [Log L] {entry : Entry} {composites : Bool} {room : Nat}
  {text rest : List Char} {datum : Datum}

open Reader

instance : Bounded (entry.reader composites room : Reader L Datum) := by
  cases entry <;> unfold Entry.reader
  · exact inferInstanceAs (Bounded (dispatch Literal.inOrder composites (item composites room)))
  all_goals infer_instance

/-- What an entry finds is derived, and is no higher than the room. -/
lemma derives_of_reads (found : Reads (entry.reader composites room : Reader L Datum) text rest
    datum) : entry.Derives composites text datum ∧ datum.height ≤ room := by
  have serves := serves_item (L := L) composites room
  cases entry with
  | expression =>
      obtain ⟨derives, low⟩ := derives_of_reads_dispatch serves found
      exact ⟨.expression derives, low⟩
  | list => exact derives_of_reads_list serves found
  | dottedList => exact derives_of_reads_dottedPair serves found
  | quoted =>
      obtain ⟨text, quotee, rfl, inside, rfl⟩ := exists_of_reads_quoted found
      obtain ⟨derives, low⟩ := serves.sound _ _ _ inside
      exact ⟨.quoted derives, Datum.height_quote_le_iff.mpr low⟩

/-- What is derived is found where the text behind closes it, or refused if it is too high. -/
lemma answers (derives : entry.Derives composites text datum) (closes : Closes rest) :
    Answers (entry.reader composites room : Reader L Datum) text rest datum
      (datum.height ≤ room) := by
  have serves := serves_item (L := L) composites room
  cases derives with
  | expression derives => exact answers_dispatch serves derives closes.delimited
  | list sequence =>
      have answer := answers_list serves blank_nil closes sequence
      exact answer
  | dottedList dotted => exact answers_dottedPair serves closes dotted
  | quoted derives =>
      rw [Datum.height_quote_le_iff]
      exact answers_quoted (serves.answers derives closes.delimited)

end Entry

end SExpr
