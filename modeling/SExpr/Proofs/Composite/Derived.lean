import SExpr.Proofs.Composite.Found

/-!
# Composite expressions that are derived

What the grammar derives is found if it is lower than the room, and is refused otherwise.  The
derivation of a sequence is followed item by item.  Each item is found whole because it is delimited
by what follows; the next one, because it starts with a character that is neither white space nor a
point.

* `Starts text` — an expression could start here.
* `Closes after` — a sequence ends where `after` starts: no expression starts there, and nothing
  in front goes on into it.
* `answers_items`, `answers_spacedItems`, `answers_form_of_separated`, `answers_form_of_terminated`
  — the three sequences, by induction on the derivation.
* `answers_parenthesized`, `answers_list`, `answers_dottedPair` — the expressions they make up.
-/

namespace SExpr

open Grammar

/-! ## How texts start -/

/-- The text starts with a character with which expressions start. -/
def Starts (text : List Char) : Prop := ∃ c others, text = c :: others ∧ startsExpression c = true

namespace Starts

variable {text : List Char}

lemma append (starts : Starts text) (more : List Char) : Starts (text ++ more) := by
  obtain ⟨c, others, rfl, start⟩ := starts
  exact ⟨c, others ++ more, rfl, start⟩

lemma stops_space (starts : Starts text) : Stops Unicode.isSpace text := by
  obtain ⟨c, others, rfl, start⟩ := starts
  refine Stops.cons ?_
  cases space : Unicode.isSpace c with
  | false => rfl
  | true =>
      rw [(space_apart space).2] at start
      cases start

lemma not_point (starts : Starts text) : ¬ ['.'] <+: text := by
  obtain ⟨c, others, rfl, start⟩ := starts
  rintro ⟨after, same⟩
  cases same
  cases start

lemma of_digits {digits : List Char} (run : IsRun Char.isDigit digits) : Starts digits := by
  obtain ⟨c, others, rfl⟩ := List.exists_cons_of_ne_nil run.1
  exact ⟨c, others, rfl, startsExpression_of_isAtomChar (isAtomChar_of_isDigit (run.2 c (by simp)))⟩

end Starts

namespace Grammar

lemma Part.starts {text : List Char} {x : Binary64} (part : Part text x) : Starts text := by
  cases part with
  | whole run => exact .of_digits run
  | decimal run _ => exact (Starts.of_digits run).append _

lemma Lexeme.starts {text : List Char} {datum : Datum} (lexeme : Lexeme text datum) :
    Starts text := by
  cases lexeme with
  | atom start _ _ =>
      exact ⟨_, _, rfl, startsExpression_of_isAtomChar (isAtomChar_of_isAtomStart start)⟩
  | text _ => exact ⟨_, _, rfl, rfl⟩
  | tagged literal =>
      cases literal with
      | boolean value => cases value <;> exact ⟨_, _, rfl, rfl⟩
      | character named =>
          obtain ⟨name, rfl, -⟩ := named.exists_name
          exact ⟨_, _, rfl, rfl⟩
      | radixInteger integer =>
          cases integer
          exact ⟨_, _, rfl, rfl⟩
  | integer run => exact .of_digits run
  | float run _ => exact (Starts.of_digits run).append _
  | ratio run _ _ _ => exact (Starts.of_digits run).append _
  | complex first _ => exact first.starts.append _

lemma Derives.starts {composites : Bool} {text : List Char} {datum : Datum}
    (derives : Derives composites text datum) : Starts text := by
  cases derives with
  | lexeme lexeme => exact lexeme.starts
  | quoted _ _ => exact ⟨_, _, rfl, rfl⟩
  | list _ _ _ => exact ⟨_, _, rfl, rfl⟩
  | dotted _ _ _ => exact ⟨_, _, rfl, rfl⟩

lemma Separated.starts {R : List Char → Datum → Prop} {text : List Char} {data : List Datum}
    (each : ∀ text datum, R text datum → Starts text) (separated : Separated R text data) :
    Starts text := by
  cases separated with
  | single item => exact each _ _ item
  | cons item _ _ => exact (each _ _ item).append _

lemma Terminated.stops_space {R : List Char → Datum → Prop} {text rest : List Char}
    {data : List Datum} (each : ∀ text datum, R text datum → Starts text)
    (terminated : Terminated R text data) (stops : Stops Unicode.isSpace rest) :
    Stops Unicode.isSpace (text ++ rest) := by
  cases terminated with
  | nil => exact stops
  | cons item _ _ => exact (((each _ _ item).append _).append _).stops_space

end Grammar

namespace Reader

variable {L : Type} [Log L] {item : Reader L Datum} {composites : Bool} {room : Nat}

/-! ## Sequences that are derived -/

/-- A sequence ends where the text starts: no expression does, and nothing in front goes on. -/
structure Closes (after : List Char) : Prop where
  barren : Barren after
  stops_space : Stops Unicode.isSpace after
  delimited : Delimited after

lemma Closes.nil : Closes [] := ⟨Stops.nil, Stops.nil, Stops.nil⟩

lemma Closes.parenthesis (rest : List Char) : Closes (')' :: rest) :=
  ⟨Stops.cons rfl, Stops.cons rfl, Stops.cons rfl⟩

lemma barren_of_blank {blank after : List Char} (space : Blank blank) (barren : Barren after) :
    Barren (blank ++ after) := by
  cases blank with
  | nil => exact barren
  | cons c others => exact Stops.cons (space_apart (space c (by simp))).2

/-- Behind the last item white space is left alone, since no item follows it. -/
lemma reads_no_more {α : Type} {p : Reader L α} {blank after : List Char} (space : Blank blank)
    (stops : Stops Unicode.isSpace after) (missing : Misses p after) (none : α) :
    Reads ((do gap; p) <|> pure none) [] (blank ++ after) none := by
  refine reads_orElse.mpr (.inr ⟨?_, reads_pure.mpr ⟨rfl, rfl⟩⟩)
  cases blank with
  | nil => exact (misses_gap.mpr stops).bind
  | cons c others =>
      have found : Reads (gap : Reader L Unit) (c :: others) after () :=
        reads_gap.mpr ⟨⟨by simp, space⟩, stops⟩
      exact found.bind_misses missing

/-- Behind an item white space and what follows it are answered as what follows it is. -/
lemma Answers.more {α : Type} {p : Reader L α} {space text rest : List Char} {a none : α}
    {fits : Prop} (isGap : Gap space) (stops : Stops Unicode.isSpace (text ++ rest))
    (answer : Answers p text rest a fits) :
    Answers ((do gap; p) <|> pure none) (space ++ text) rest a fits := by
  have found : Reads (gap : Reader L Unit) space (text ++ rest) () := reads_gap.mpr ⟨isGap, stops⟩
  exact (found.bind_answers answer).orElse

variable {text rest blank after : List Char} {data : List Datum} {tail : Datum}

lemma misses_dottedTail (other : ¬ ['.'] <+: text) : Misses (dottedTail item) text := by
  have noPoint : Misses (token "." : Reader L Unit) text := misses_token.mpr other
  exact noPoint.bind

lemma Serves.misses_items (serves : Serves composites room item) (some : 0 < room)
    (barren : Barren rest) : Misses (items item) rest := by
  rw [items_eq]
  exact (serves.misses some barren).bind

lemma answers_items (serves : Serves composites room item) (space : Blank blank)
    (closes : Closes after) (separated : Separated (Derives composites) text data) :
    Answers (items item) text (blank ++ after) data (Datum.heights data < room) := by
  induction separated with
  | @single text datum derives =>
      have first : Answers item text ([] ++ (blank ++ after)) datum (datum.height < room) :=
        serves.answers derives (space.delimited closes.delimited)
      -- That no item follows is known only where there is room for one.
      have noMore : datum.height < room →
          Reads ((do gap; items item) <|> pure []) [] (blank ++ after) [] := fun fit =>
        reads_no_more space closes.stops_space
          (serves.misses_items (Nat.zero_lt_of_lt fit) closes.barren) []
      rw [items_eq, ← List.append_nil text]
      exact (first.both List.cons fun fit => (noMore fit).answers trivial).congr
        (by rw [and_true, Datum.heights, Datum.heights, Nat.max_zero])
  | @cons text gap others datum data derives isGap separated ih =>
      have starts := separated.starts fun _ _ => Derives.starts
      have first : Answers item text (gap ++ others ++ (blank ++ after)) datum
          (datum.height < room) := by
        rw [List.append_assoc]
        exact serves.answers derives (isGap.delimited _)
      rw [items_eq]
      exact (first.both List.cons fun _ => .more isGap (starts.append _).stops_space ih).congr
        (by rw [Datum.heights, Nat.max_lt])

lemma Serves.answers_nothing (serves : Serves composites room item) {α : Type}
    {next : Datum → Reader L α} (none : α) (barren : Barren rest) :
    Answers (item >>= next <|> pure none) [] rest none (0 < room) := by
  constructor
  · intro some
    exact reads_orElse.mpr (.inr ⟨(serves.misses some barren).bind, reads_pure.mpr ⟨rfl, rfl⟩⟩)
  · intro full
    exact refuses_orElse.mpr (.inl (serves.refuses (by omega)).bind)

lemma answers_spacedItems (serves : Serves composites room item) (barren : Barren rest)
    (stops : Stops Unicode.isSpace rest) (terminated : Terminated (Derives composites) text data) :
    Answers (spacedItems item) text rest data (Datum.heights data < room) := by
  rw [spacedItems_eq]
  induction terminated with
  | nil => exact serves.answers_nothing [] barren
  | @cons text space others datum data derives isGap terminated ih =>
      have first : Answers item text (space ++ others ++ rest) datum (datum.height < room) := by
        rw [List.append_assoc]
        exact serves.answers derives (isGap.delimited _)
      have foundGap : Reads (gap : Reader L Unit) space (others ++ rest) () :=
        reads_gap.mpr ⟨isGap, terminated.stops_space (fun _ _ => Derives.starts) stops⟩
      rw [← spacedItems_eq] at ih
      have more : Answers (do gap; let rest ← spacedItems item; pure (datum :: rest))
          (space ++ others) rest (datum :: data) (Datum.heights data < room) :=
        foundGap.bind_answers ih.bind_pure
      have whole : Answers (do
          let first ← item
          gap
          let rest ← spacedItems item
          pure (first :: rest)) (text ++ (space ++ others)) rest (datum :: data)
          (datum.height < room ∧ Datum.heights data < room) := first.bind fun _ => more
      exact whole.orElse.congr (by rw [Datum.heights, Nat.max_lt])

lemma answers_dottedTail (serves : Serves composites room item) (delimited : Delimited rest)
    (pointed : PointedTail (Derives composites) text tail) :
    Answers (dottedTail item) text rest tail (tail.height < room) := by
  obtain ⟨isGap, derives⟩ := pointed
  rename_i space last
  have foundPoint : Reads (token "." : Reader L Unit) ['.'] (space ++ last ++ rest) () :=
    reads_token.mpr rfl
  have foundGap : Reads (gap : Reader L Unit) space (last ++ rest) () :=
    reads_gap.mpr ⟨isGap, (derives.starts.append rest).stops_space⟩
  exact foundPoint.bind_answers (foundGap.bind_answers (serves.answers derives delimited))

/-- Where an item is ahead, a form starts with that item. -/
lemma answers_form_cons (serves : Serves composites room item) {front right : List Char}
    {datum : Datum} {body : Form} {fits : Prop} (derives : Derives composites front datum)
    (delimited : Delimited (right ++ rest))
    (more : datum.height < room →
      Answers ((do gap; form item) <|> pure Form.empty) right rest body fits) :
    Answers (form item) (front ++ right) rest (body.cons datum) (datum.height < room ∧ fits) := by
  have noTail : Misses (Form.ofTail <$> dottedTail item) (front ++ right ++ rest) :=
    misses_map.mpr (misses_dottedTail ((derives.starts.append _).append _).not_point)
  have first := serves.answers derives delimited
  have whole := first.both (fun datum body => Form.cons datum body) more
  rw [form_eq]
  exact noTail.orElse_answers whole

lemma Serves.misses_form (serves : Serves composites room item) (some : 0 < room)
    (barren : Barren rest) (noPoint : ¬ ['.'] <+: rest) : Misses (form item) rest := by
  rw [form_eq]
  exact misses_orElse.mpr ⟨misses_map.mpr (misses_dottedTail noPoint),
    (serves.misses some barren).bind⟩

lemma answers_form_of_separated (serves : Serves composites room item) (space : Blank blank)
    (closes : Closes after) (separated : Separated (Derives composites) text data) :
    Answers (form item) text (blank ++ after) ⟨data, none⟩ (Datum.heights data < room) := by
  induction separated with
  | @single text datum derives =>
      have noMore : datum.height < room → Answers ((do gap; form item) <|> pure Form.empty) []
          (blank ++ after) Form.empty True := fun fit =>
        (reads_no_more space closes.stops_space (serves.misses_form (Nat.zero_lt_of_lt fit)
          closes.barren closes.delimited.not_point) Form.empty).answers trivial
      have delimited : Delimited ([] ++ (blank ++ after)) := space.delimited closes.delimited
      rw [← List.append_nil text]
      exact (answers_form_cons serves derives delimited noMore).congr
        (by rw [and_true, Datum.heights, Datum.heights, Nat.max_zero])
  | @cons text gap others datum data derives isGap separated ih =>
      have starts := separated.starts fun _ _ => Derives.starts
      have more : Answers ((do Reader.gap; form item) <|> pure Form.empty) (gap ++ others)
          (blank ++ after) ⟨data, none⟩ (Datum.heights data < room) :=
        .more isGap (starts.append _).stops_space ih
      have delimited : Delimited (gap ++ others ++ (blank ++ after)) := by
        rw [List.append_assoc]
        exact isGap.delimited _
      exact (answers_form_cons serves derives delimited fun _ => more).congr
        (by rw [Datum.heights, Nat.max_lt])

lemma answers_form_of_terminated (serves : Serves composites room item) {pointed : List Char}
    (delimited : Delimited rest) (last : PointedTail (Derives composites) pointed tail)
    (terminated : Terminated (Derives composites) text data) :
    Answers (form item) (text ++ pointed) rest ⟨data, some tail⟩
      (Datum.heights data < room ∧ tail.height < room) := by
  induction terminated with
  | nil =>
      have found : Answers (Form.ofTail <$> dottedTail item) pointed rest (Form.ofTail tail)
          (tail.height < room) := (answers_dottedTail serves delimited last).map
      rw [form_eq]
      refine found.orElse.congr ?_
      rw [Datum.heights]
      omega
  | @cons text gap others datum data derives isGap terminated ih =>
      have stops : Stops Unicode.isSpace (others ++ pointed ++ rest) := by
        obtain ⟨_, _⟩ := last
        rw [List.append_assoc]
        exact terminated.stops_space (fun _ _ => Derives.starts) (Stops.cons rfl)
      have more : Answers ((do Reader.gap; form item) <|> pure Form.empty)
          (gap ++ (others ++ pointed)) rest ⟨data, some tail⟩
          (Datum.heights data < room ∧ tail.height < room) := .more isGap stops ih
      have delimited' : Delimited (gap ++ (others ++ pointed) ++ rest) := by
        rw [List.append_assoc]
        exact isGap.delimited _
      rw [List.append_assoc, List.append_assoc]
      exact (answers_form_cons serves derives delimited' fun _ => more).congr
        (by rw [Datum.heights, Nat.max_lt, and_assoc])

/-- What may stand between parentheses is answered, also if that is nothing. -/
lemma answers_formBody (serves : Serves composites room item) (space : Blank blank)
    (closes : Closes after) {body : Form}
    (derived : body.Derived (Derives composites) text ∨ text = [] ∧ body = Form.empty) :
    Answers (formBody item) text (blank ++ after) body.toDatum (body.toDatum.height ≤ room) := by
  refine Answers.bind_pure ?_
  rcases derived with derived | ⟨rfl, rfl⟩
  · obtain ⟨data, tail⟩ := body
    refine Answers.orElse ?_
    cases tail with
    | none =>
        exact (answers_form_of_separated serves space closes derived).congr
          Datum.height_list_le_iff.symm
    | some tail =>
        obtain ⟨items, last⟩ := derived
        have delimited := space.delimited closes.delimited
        exact (answers_form_of_terminated serves delimited last items).congr
          Datum.height_dotted_le_iff.symm
  · have barren : Barren (blank ++ after) := barren_of_blank space closes.barren
    have noPoint := (space.delimited closes.delimited).not_point
    have fits : Form.empty.toDatum.height ≤ room ↔ 0 < room := Datum.height_list_le_iff
    constructor
    · intro some
      exact reads_orElse.mpr (.inr
        ⟨serves.misses_form (fits.mp some) barren noPoint, reads_pure.mpr ⟨rfl, rfl⟩⟩)
    · intro full
      have refused : Refuses item (blank ++ after) := serves.refuses (by rw [fits] at full; omega)
      have noTail : Misses (Form.ofTail <$> dottedTail item) (blank ++ after) :=
        misses_map.mpr (misses_dottedTail noPoint)
      refine refuses_orElse.mpr (.inl ?_)
      rw [form_eq]
      exact refuses_orElse.mpr (.inr ⟨noTail, refused.bind⟩)

lemma answers_parenthesized (serves : Serves composites room item) (space : Blank blank)
    {body : Form}
    (derived : body.Derived (Derives composites) text ∨ text = [] ∧ body = Form.empty) :
    Answers (parenthesized item) ('(' :: (text ++ (blank ++ [')']))) rest body.toDatum
      (body.toDatum.height ≤ room) := by
  have opening : Reads (token "(" : Reader L Unit) ['('] (text ++ (blank ++ [')']) ++ rest) () :=
    reads_token.mpr rfl
  have inside : Answers (formBody item) text (blank ++ [')'] ++ rest) body.toDatum
      (body.toDatum.height ≤ room) := by
    rw [List.append_assoc]
    exact answers_formBody serves space (Closes.parenthesis rest) derived
  have closing : Reads (do
      let _ ← many Unicode.isSpace "whitespace" 0
      token ")"
      pure body.toDatum : Reader L Datum) (blank ++ [')']) rest body.toDatum := by
    simp only [reads_bind, reads_many, reads_token, reads_pure]
    exact ⟨blank, blank, [')'], rfl, ⟨rfl, Nat.zero_le _, space, Stops.cons rfl⟩, (), [')'], [],
      rfl, rfl, rfl, trivial⟩
  have behind : Answers (do
      let datum ← formBody item
      let _ ← many Unicode.isSpace "whitespace" 0
      token ")"
      pure datum) (text ++ (blank ++ [')'])) rest body.toDatum
      (body.toDatum.height ≤ room ∧ True) :=
    inside.bind fun _ => closing.answers trivial
  exact (opening.bind_answers behind).congr (by rw [and_true])

lemma answers_quoted {datum : Datum} {fits : Prop} (answer : Answers item text rest datum fits) :
    Answers (quoted item) ('\'' :: text) rest datum.quote fits := by
  have opening : Reads (token "'" : Reader L Unit) ['\''] (text ++ rest) () := reads_token.mpr rfl
  exact opening.bind_answers answer.bind_pure

lemma answers_list (serves : Serves composites room item) (space : Blank blank)
    (closes : Closes after) (sequence : Sequence (Derives composites) text data) :
    Answers (list item) text (blank ++ after) (.list data) ((Datum.list data).height ≤ room) := by
  refine Answers.bind_pure ?_
  rw [Datum.height_list_le_iff]
  cases sequence with
  | nil =>
      rw [items_eq]
      exact serves.answers_nothing [] (barren_of_blank space closes.barren)
  | separated items =>
      exact (answers_items serves space closes items).orElse

lemma answers_dottedPair (serves : Serves composites room item) (closes : Closes rest)
    (dotted : DottedSequence (Derives composites) text data tail) :
    Answers (dottedPair item) text rest (.dotted data tail)
      ((Datum.dotted data tail).height ≤ room) := by
  obtain ⟨items, last⟩ := dotted
  rename_i text pointed
  have ahead : ∃ behind, pointed ++ rest = '.' :: behind := by
    cases last
    exact ⟨_, rfl⟩
  obtain ⟨behind, split⟩ := ahead
  have first : Answers (spacedItems item) text (pointed ++ rest) data
      (Datum.heights data < room) := by
    rw [split]
    exact answers_spacedItems serves (Stops.cons rfl) (Stops.cons rfl) items
  have whole := first.both Datum.dotted fun _ => answers_dottedTail serves closes.delimited last
  exact whole.congr Datum.height_dotted_le_iff.symm

end Reader

end SExpr
