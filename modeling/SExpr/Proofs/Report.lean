import SExpr.CommandLine
import SExpr.Proofs.Fallible
import SExpr.Proofs.Reader.Grounded

/-!
# One clean line about every text

Whatever a text holds, the answer about it is one line that can be printed as it stands.  What is
said of the text itself is a place, in numerals, and at most one of its characters, which is quoted;
all the rest are words of our own.  Among these are the descriptions of what was wanted: a set that
grows as the text is read, so that it is printable follows from what readers write.

* `Entry.printable_of_read` — all that the error of a reading wants is printable.
* `ReadError.printable_message` — the message of an error that wants only such things is printable.
* `Datum.HasKind` — the name that the log gives to what was read.
* `report_line` — a report is given on every text, and says in one line what reading came to; so
  does the program.
-/

namespace SExpr

/-! ## Words -/

namespace Printable

instance : Printable "" := ⟨nofun⟩

instance : Printable ", " := ⟨List.all_eq_true.mp rfl⟩

instance : Printable " or " := ⟨List.all_eq_true.mp rfl⟩

instance : Printable "line " := ⟨List.all_eq_true.mp rfl⟩

instance : Printable ", column " := ⟨List.all_eq_true.mp rfl⟩

instance : Printable ": unexpected " := ⟨List.all_eq_true.mp rfl⟩

instance : Printable "; expecting " := ⟨List.all_eq_true.mp rfl⟩

instance : Printable ": nesting deeper than " := ⟨List.all_eq_true.mp rfl⟩

instance : Printable Entry.endOfInput := ⟨List.all_eq_true.mp rfl⟩

instance : Printable Report.foundAnswer := ⟨List.all_eq_true.mp rfl⟩

instance : Printable Report.missingAnswer := ⟨List.all_eq_true.mp rfl⟩

lemma intercalate (separator : String) [Printable separator] {texts : List String}
    (all : ∀ text ∈ texts, Printable text) : Printable (separator.intercalate texts) := by
  induction texts with
  | nil => exact inferInstanceAs (Printable "")
  | cons first rest ih =>
      have one := all first List.mem_cons_self
      cases rest with
      | nil => exact one
      | cons second rest =>
          have others := ih fun text member => all text (List.mem_cons_of_mem _ member)
          rw [String.intercalate_cons_cons]
          infer_instance

end Printable

/-! ## What was wanted -/

/-- All that the error of a reading wants is printable: what readers of characters want, and the end
of the text, which only a strict reading wants. -/
lemma Entry.printable_of_read {entry : Entry} {options : Options} {source : String}
    {error : ReadError} (failed : entry.read options source = .error error) :
    ∀ what ∈ error.expected, Printable what := by
  have grounded := entry.grounded_log options source.toList
  have printable what member := (grounded.wanted what member).toPrintable
  rw [read, readChars, conclude] at failed
  split at failed
  · split at failed
    · cases failed
      intro what member
      rcases Furthest.mem_expected_join member with member | member
      · exact printable what member
      · obtain rfl := List.mem_singleton.mp member
        infer_instance
    · cases failed
  · cases failed
    exact printable
  · cases failed
    exact nofun

/-! ## Messages -/

namespace ReadError

lemma printable_alternatives {descriptions : List String}
    (all : ∀ what ∈ descriptions, Printable what) : Printable (alternatives descriptions) := by
  match descriptions with
  | [] => exact inferInstanceAs (Printable "")
  | [only] => exact all only List.mem_cons_self
  | first :: second :: rest =>
      have several : Printable (", ".intercalate (first :: second :: rest).dropLast) :=
        Printable.intercalate ", " fun what member => all what (List.dropLast_subset _ member)
      have last : Printable ((first :: second :: rest).getLastD "") :=
        all _ List.getLastD_mem_cons
      exact inferInstanceAs (Printable (_ ++ " or " ++ _))

instance (error : ReadError) : Printable error.foundText := by
  unfold foundText
  split
  · infer_instance
  · exact inferInstanceAs (Printable Entry.endOfInput)

instance (error : ReadError) : Printable error.placeText := by
  unfold placeText
  infer_instance

/-- A message is printable if what was wanted is: all else is our own, numeral or quoted. -/
lemma printable_message {error : ReadError} (all : ∀ what ∈ error.expected, Printable what) :
    Printable error.message := by
  obtain ⟨source, offset, fault⟩ := error
  cases fault with
  | tooDeep limit => unfold message; infer_instance
  | unexpected expected =>
      have wanted : Printable (if expected.descriptions.isEmpty then ""
          else "; expecting " ++ alternatives expected.descriptions) := by
        have phrase : Printable (alternatives expected.descriptions) := printable_alternatives all
        split <;> infer_instance
      unfold message
      infer_instance

end ReadError

/-! ## Kinds -/

namespace Datum

/-- The kind of a datum by its name, one rule for each kind. -/
inductive HasKind : Datum → String → Prop where
  | atom (name : String) : HasKind (.atom name) "Atom"
  | list (items : List Datum) : HasKind (.list items) "List"
  | dotted (items : List Datum) (tail : Datum) : HasKind (.dotted items tail) "DottedPair"
  | integer (value : Int) : HasKind (.integer value) "Integer"
  | text (value : String) : HasKind (.text value) "Text"
  | boolean (value : Bool) : HasKind (.boolean value) "Boolean"
  | character (value : Char) : HasKind (.character value) "Character"
  | float (value : Binary64) : HasKind (.float value) "Float"
  | ratio (value : Ratio) : HasKind (.ratio value) "Ratio"
  | complex (real imaginary : Binary64) : HasKind (.complex real imaginary) "Complex"

lemma hasKind_kindName (datum : Datum) : datum.HasKind datum.kindName := by
  cases datum <;> constructor

end Datum

/-! ## Reports -/

namespace Report

lemma missingAnswer_append_ne (reason : String) : missingAnswer ++ reason ≠ foundAnswer := by
  intro same
  have letters := congrArg (fun answer => answer.toList.head?) same
  simp only [String.toList_append] at letters
  cases letters

variable {source : String} {options : Options}

lemma answer_eq_foundAnswer_iff : (report source options).answer = foundAnswer ↔
    ∃ datum length, Entry.expression.read options source = .ok (datum, length) := by
  rw [report]
  cases Entry.expression.read options source with
  | ok found => exact ⟨fun _ => ⟨found.1, found.2, rfl⟩, fun _ => rfl⟩
  | error error =>
      constructor
      · intro same
        exact absurd same (missingAnswer_append_ne error.message)
      · rintro ⟨datum, length, found⟩
        cases found

instance : Printable (report source options).answer := by
  rw [report]
  cases reading : Entry.expression.read options source with
  | ok found => exact inferInstanceAs (Printable foundAnswer)
  | error error =>
      have message := ReadError.printable_message (Entry.printable_of_read reading)
      exact inferInstanceAs (Printable (missingAnswer ++ error.message))

end Report

/-- A report is given on every text, though each conversion and each constructor may refuse what it
is given.  The answer is that something was found just if the text starts with an expression, and
then the log tells the kind of that by its name; otherwise it gives the message of the error, and
the log has the same message.  No character of the answer is a line break or another that does not
print.  So the program prints one line if it is given one text, and its exit code tells which of the
two answers that is; otherwise it prints nothing. -/
theorem report_line (source : String) (options : Options) :
    Fallible.report source options = .ok (report source options) ∧
    (∀ datum length, Entry.expression.read options source = .ok (datum, length) →
      datum.HasKind datum.kindName ∧ report source options =
        { answer := "Found value"
          log := ["DEBUG read " ++ datum.kindName ++ " from " ++ Numeral.decimalText length ++
            " of " ++ Numeral.decimalText source.length ++ " characters"] }) ∧
    (∀ error, Entry.expression.read options source = .error error →
      report source options =
        { answer := "No match: " ++ error.message
          log := ["DEBUG no match for " ++ Text.quoted source ++ ": " ++ error.message] }) ∧
    ((report source options).answer = "Found value" ↔
      ∃ datum length, Entry.expression.read options source = .ok (datum, length)) ∧
    (∀ c ∈ (report source options).answer.toList, Unicode.isPrintable c = true) ∧
    CommandLine.run [source] =
      { stdout := (report source).answer ++ "\n"
        stderr := ""
        exitCode := if (report source).answer = "Found value" then 0 else 1 } ∧
    '\n' ∉ (report source).answer.toList ∧
    ∀ arguments : List String, arguments.length ≠ 1 →
      (CommandLine.run arguments).stdout = "" ∧ (CommandLine.run arguments).exitCode = 2 := by
  refine ⟨Fallible.report_eq source options, ?_, ?_, Report.answer_eq_foundAnswer_iff,
    Printable.isPrintable, rfl, Printable.not_mem_lineFeed _, ?_⟩
  · intro datum length found
    refine ⟨datum.hasKind_kindName, ?_⟩
    rw [report, found]
    rfl
  · intro error failed
    rw [report, failed]
    rfl
  · intro arguments other
    match arguments with
    | [] => exact ⟨rfl, rfl⟩
    | [_] => exact absurd rfl other
    | _ :: _ :: _ => exact ⟨rfl, rfl⟩

/-- A whole text that is an integer is found, and the log tells its kind.  An expression is too deep
where no nested one is allowed, and two texts are not one. -/
theorem report_line_integer :
    report "#x1F" =
      { answer := "Found value", log := ["DEBUG read Integer from 4 of 4 characters"] } ∧
    (report "(a)" { composites := true, maxDepth := 0 }).answer =
      "No match: line 1, column 2: nesting deeper than 0" ∧
    (CommandLine.run ["(a)", "(b)"]).stdout = "" ∧
    (CommandLine.run ["(a)", "(b)"]).exitCode = 2 := by
  obtain ⟨-, found, -⟩ := report_line "#x1F" {}
  obtain ⟨-, -, failed, -, -, -, -, other⟩ :=
    report_line "(a)" { composites := true, maxDepth := 0 }
  have read : Entry.expression.read {} "#x1F" = .ok (.integer 31, 4) := rfl
  have refused : Entry.expression.read { composites := true, maxDepth := 0 } "(a)" =
      .error ⟨"(a)".toList, 1, .tooDeep 0⟩ := rfl
  exact ⟨(found _ _ read).2, congrArg Report.answer (failed _ refused),
    other ["(a)", "(b)"] (by decide)⟩

example : (CommandLine.run ["\n"]).stdout =
    "No match: line 1, column 1: unexpected '\\n'; " ++
      "expecting '\"', '#', '#\\\\', digit or letter or symbol\n" := by rfl

end SExpr
