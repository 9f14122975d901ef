import SExpr.Proofs.Acceptance

/-!
# What follows an expression

An expression that is the whole of a text is read the same in front of other text, if that starts
with a character that goes on no literal.  This is what makes it safe to put expressions side by
side with anything between them that is not part of one.

An expression in parentheses or between quotation marks says itself where it ends, so of such a one
nothing is asked of what follows.  Hence no such expression is a proper beginning of another, and
one that was cut off is not read at all.

* `Marked text` — the text starts with a parenthesis or a quotation mark.
* `answers_of_marked` — what is derived from such a text is found in front of any other.
* `Grammar.Derives.eq_of_marked` — so two of them with which one text starts are the same.
* `Datum.read_append` — whole texts in front of other text.
-/

namespace SExpr

open Grammar Reader

/-- The text starts with a mark that only another mark can close. -/
def Marked (text : List Char) : Prop := ∃ others, text = '(' :: others ∨ text = '"' :: others

namespace Marked

variable {c : Char} {text more : List Char}

lemma cons_iff : Marked (c :: text) ↔ c = '(' ∨ c = '"' := by
  constructor
  · rintro ⟨others, same | same⟩
    · exact .inl (List.cons.inj same).1
    · exact .inr (List.cons.inj same).1
  · rintro (rfl | rfl)
    · exact ⟨text, .inl rfl⟩
    · exact ⟨text, .inr rfl⟩

/-- A beginning that is not empty starts with the same mark. -/
lemma append_iff (some : text ≠ []) : Marked (text ++ more) ↔ Marked text := by
  obtain ⟨c, others, rfl⟩ := List.exists_cons_of_ne_nil some
  rw [List.cons_append, cons_iff, cons_iff]

/-- No mark is an atom character. -/
lemma not_isAtomChar (marked : Marked (c :: text)) : isAtomChar c = false := by
  rcases cons_iff.mp marked with rfl | rfl <;> rfl

lemma not_isRun (marked : Marked (text ++ more)) : ¬ IsRun Char.isDigit text := by
  intro run
  rw [append_iff run.1] at marked
  obtain ⟨c, others, rfl⟩ := List.exists_cons_of_ne_nil run.1
  have member := isAtomChar_of_isDigit (run.2 c (by simp))
  rw [marked.not_isAtomChar] at member
  cases member

end Marked

/-! ## Expressions that start with a mark -/

/-- The only lexemes that start with a mark are the texts. -/
lemma Grammar.Lexeme.text_of_marked {text : List Char} {datum : Datum} (lexeme : Lexeme text datum)
    (marked : Marked text) : ∃ body content, text = '"' :: (body ++ ['"']) ∧
      TextBody body content ∧ datum = .text (String.ofList content) := by
  cases lexeme with
  | atom start _ _ =>
      have member := isAtomChar_of_isAtomStart start
      rw [marked.not_isAtomChar] at member
      cases member
  | text inside => exact ⟨_, _, rfl, inside, rfl⟩
  | tagged literal =>
      obtain ⟨others, rfl | rfl⟩ := marked <;> cases literal.goesOn _ (List.mem_cons_self ..)
  | integer run =>
      rw [← List.append_nil text] at marked
      exact absurd run marked.not_isRun
  | float run _ => exact absurd run marked.not_isRun
  | ratio run _ _ _ => exact absurd run marked.not_isRun
  | complex first _ =>
      obtain ⟨digits, more, rfl, run⟩ := first.exists_digits
      rw [List.append_assoc] at marked
      exact absurd run marked.not_isRun

namespace Reader

variable {L : Type} [Log L] {item : Reader L Datum} {composites : Bool} {room : Nat}
  {text : List Char} {datum : Datum}

/-- What is derived from a text that starts with a mark is answered whatever follows it. -/
lemma answers_of_marked (serves : Serves composites room item)
    (derives : Derives composites text datum) (marked : Marked text) (rest : List Char) :
    Answers (dispatch Literal.inOrder composites item) text rest datum (datum.height ≤ room) := by
  cases derives with
  | lexeme lexeme =>
      obtain ⟨body, content, rfl, inside, rfl⟩ := lexeme.text_of_marked marked
      exact ((Reads.of_textBody inside).answers (Nat.zero_le room)).orElse
  | quoted _ _ => rcases Marked.cons_iff.mp marked with same | same <;> cases same
  | list allowed sequence space =>
      exact answers_dispatch_of_sequence serves allowed sequence space
  | dotted allowed sequence space =>
      exact answers_dispatch_of_dotted serves allowed sequence space

end Reader

/-- Of two expressions with which one text starts, and with a mark, neither is longer: a reader that
has room for both finds both. -/
lemma Grammar.Derives.eq_of_marked {composites composites' : Bool}
    {text text' rest rest' : List Char} {datum datum' : Datum}
    (derives : Derives composites text datum) (derives' : Derives composites' text' datum')
    (marked : Marked text) (marked' : Marked text') (same : text ++ rest = text' ++ rest') :
    text = text' := by
  have serves := serves_item (L := Furthest) true (max datum.height datum'.height)
  have found := (answers_of_marked serves derives.allowing marked rest).1 (Nat.le_max_left ..)
  have found' := (answers_of_marked serves derives'.allowing marked' rest').1 (Nat.le_max_right ..)
  rw [Reads, same] at found
  rw [Reads, found] at found'
  exact (List.append_inj same (Verdict.found.inj found').2).1

/-- An expression that is a whole text is read the same in front of any text that goes on no
literal; and if it starts with a parenthesis or a quotation mark, in front of any text at all.  Then
no reading finds anything in a text that was cut off before its end. -/
theorem Datum.read_append {composites : Bool} {maxDepth : Int} {source : String} {datum : Datum}
    (whole : Datum.ofText source { strict := true, composites, maxDepth } = .ok datum) :
    (∀ rest : String, Delimited rest.toList →
      Entry.expression.read { composites, maxDepth } (source ++ rest) =
        .ok (datum, source.length)) ∧
    (Marked source.toList →
      (∀ rest : String, Entry.expression.read { composites, maxDepth } (source ++ rest) =
        .ok (datum, source.length)) ∧
      ∀ front back : String, source = front ++ back → back ≠ "" →
        ∀ (options : Options) (found : Datum × Nat),
          Entry.expression.read options front ≠ .ok found) := by
  obtain ⟨entryDerives, low⟩ := Entry.derives_of_readDatum whole rfl
  have derives : Derives composites source.toList datum :=
    Entry.derives_expression_iff.mp entryDerives
  have serves := serves_item (L := Furthest) composites maxDepth.toNat
  have read_of_answers : ∀ rest : String, Answers (dispatch Literal.inOrder composites
        (item composites maxDepth.toNat) : Reader Furthest Datum) source.toList rest.toList datum
        (datum.height ≤ maxDepth.toNat) →
      Entry.expression.read { composites, maxDepth } (source ++ rest) =
        .ok (datum, source.length) := by
    intro rest answers
    refine Entry.read_eq_ok_iff.mpr ⟨source.toList, rest.toList, String.toList_append,
      String.length_toList, (fun strict => by cases strict), ?_⟩
    rw [Options.room_zero]
    exact answers.1 low
  refine ⟨fun rest delimited => read_of_answers rest (answers_dispatch serves derives delimited),
    fun marked => ⟨fun rest => read_of_answers rest (answers_of_marked serves derives marked _),
      ?_⟩⟩
  rintro front back rfl some options ⟨datum', length⟩ read
  -- what was found in front is an expression too, and starts with the same mark
  obtain ⟨taken, left, split, -, -, reads⟩ := Entry.read_eq_ok_iff.mp read
  have derives' := Entry.derives_expression_iff.mp (Entry.derives_of_reads reads).1
  rw [String.toList_append, split, List.append_assoc] at derives marked
  have nonempty : taken ≠ [] := by
    obtain ⟨c, others, rfl, -⟩ := derives'.starts
    exact List.cons_ne_nil c others
  have marked' : Marked taken := (Marked.append_iff nonempty).mp marked
  have same : taken ++ (left ++ back.toList) = taken :=
    derives.eq_of_marked derives' marked marked' (List.append_nil _)
  rw [List.append_right_eq_self, List.append_eq_nil_iff, String.toList_eq_nil_iff] at same
  exact some same.2

/-- A quoted form with a text in it is read alone, in front of a parenthesis that closes something
else, and without its apostrophe in front of anything; the form that lacks its end is not read. -/
theorem Datum.read_append_form :
    Datum.ofText "'(\")\" . 1/2)" { strict := true, composites := true, maxDepth := 2 } =
        .ok (Datum.dotted [.text ")"] (.ratio ⟨1, 2, by decide⟩)).quote ∧
      Entry.expression.read { composites := true, maxDepth := 2 } "'(\")\" . 1/2))x" =
        .ok ((Datum.dotted [.text ")"] (.ratio ⟨1, 2, by decide⟩)).quote, 12) ∧
      Datum.ofText "(\")\" . 1/2)" { strict := true, composites := true, maxDepth := 2 } =
        .ok (.dotted [.text ")"] (.ratio ⟨1, 2, by decide⟩)) ∧
      Entry.expression.read { composites := true, maxDepth := 2 } "(\")\" . 1/2)x" =
        .ok (.dotted [.text ")"] (.ratio ⟨1, 2, by decide⟩), 11) ∧
      Entry.expression.read { composites := true } "(\")\" . 1/2" ≠
        .ok (.dotted [.text ")"] (.ratio ⟨1, 2, by decide⟩), 10) := by
  have quotation : Datum.ofText "'(\")\" . 1/2)"
      { strict := true, composites := true, maxDepth := 2 } =
      .ok (Datum.dotted [.text ")"] (.ratio ⟨1, 2, by decide⟩)).quote := by rfl
  have form : Datum.ofText "(\")\" . 1/2)"
      { strict := true, composites := true, maxDepth := 2 } =
      .ok (.dotted [.text ")"] (.ratio ⟨1, 2, by decide⟩)) := by rfl
  have marked : Marked "(\")\" . 1/2)".toList := ⟨"\")\" . 1/2)".toList, .inl (by rfl)⟩
  obtain ⟨inFrontOf, cutOff⟩ := (Datum.read_append form).2 marked
  have closed : "'(\")\" . 1/2)" ++ ")x" = "'(\")\" . 1/2))x" := rfl
  have goesOn : "(\")\" . 1/2)" ++ "x" = "(\")\" . 1/2)x" := rfl
  refine ⟨quotation, ?_, form, ?_, ?_⟩
  · rw [← closed]
    exact (Datum.read_append quotation).1 ")x" (Stops.cons rfl)
  · rw [← goesOn]
    exact inFrontOf "x"
  · exact cutOff "(\")\" . 1/2" ")" rfl (by decide) { composites := true } _

end SExpr
