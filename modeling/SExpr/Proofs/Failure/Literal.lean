import SExpr.Proofs.Failure.Viable
import SExpr.Proofs.Literal.Order

/-!
# Failures of the literals

Wherever a reader of literals fails, what stands in front can be made a literal, though perhaps one
of another kind: behind a run of digits the reader of complex numbers wants a plus, and without one
the digits are an integer.

* `BeginsLexeme text` — some lexeme begins with the text.
* `viable_literal` — every kind of literal fails only behind a text that begins a lexeme.
-/

namespace SExpr

open Grammar

/-- Some lexeme begins with the text. -/
abbrev BeginsLexeme : List Char → Prop := Begins Lexeme

namespace BeginsLexeme

variable {text digits : List Char}

lemma isRun_zero : IsRun Char.isDigit ['0'] := .singleton rfl

lemma nil : BeginsLexeme [] := ⟨['0'], _, .integer isRun_zero⟩

lemma of_digits (run : IsRun Char.isDigit digits) : BeginsLexeme digits := .of_whole (.integer run)

lemma of_point (run : IsRun Char.isDigit digits) : BeginsLexeme (digits ++ ['.']) :=
  ⟨['0'], _, by rw [List.append_assoc]; exact .float run isRun_zero⟩

lemma of_slash (run : IsRun Char.isDigit digits) : BeginsLexeme (digits ++ ['/']) := by
  refine ⟨['1'], .ratio ⟨Numeral.value 10 digits, 1, by decide⟩, ?_⟩
  rw [List.append_assoc]
  exact .ratio run (.singleton rfl) rfl rfl

lemma of_part {x : Binary64} (part : Grammar.Part text x) : BeginsLexeme text := by
  cases part with
  | whole run => exact of_digits run
  | decimal run run' => exact .of_whole (.float run run')

lemma of_plus {left : List Char} {x y : Binary64} (more : List Char) (first : Grammar.Part left x)
    (second : Grammar.Part (text ++ more) y) : BeginsLexeme (left ++ ('+' :: text)) :=
  ⟨more ++ ['i'], .complex x y, by simpa using Lexeme.complex first second⟩

lemma of_sign : BeginsLexeme ['#'] := ⟨['t'], _, .tagged (.boolean .yes)⟩

lemma of_backslash : BeginsLexeme ['#', '\\'] := ⟨['a'], _, .tagged (.character (.letter rfl))⟩

lemma of_tag (radix : Numeral.Radix) : BeginsLexeme ['#', tag radix] := by
  have run : IsRun radix.isDigit ['0'] := .singleton (by cases radix <;> rfl)
  exact ⟨['0'], _, .tagged (.radixInteger (.mk radix run))⟩

lemma of_textBody {body content : List Char} (inside : TextBody body content) :
    BeginsLexeme ('"' :: body) :=
  ⟨['"'], _, .text inside⟩

lemma of_escape {body content : List Char} (inside : TextBody body content) :
    BeginsLexeme ('"' :: (body ++ ['\\'])) := by
  have escaped : ∃ content, TextBody (body ++ ['\\', 'n']) content := by
    induction inside with
    | nil => exact ⟨_, .escape .lineFeed .nil⟩
    | plain ordinary inner _ ih =>
        obtain ⟨content, more⟩ := ih
        exact ⟨_, .plain ordinary inner more⟩
    | escape escape _ ih =>
        obtain ⟨content, more⟩ := ih
        exact ⟨_, .escape escape more⟩
  obtain ⟨content, inside⟩ := escaped
  exact ⟨['n', '"'], .text (String.ofList content), by simpa using Lexeme.text inside⟩

end BeginsLexeme

namespace Reader

variable {Open : List Char → Prop} {ahead : List Char}

/-! ## Literals with a number sign -/

lemma viable_boolean : Viable BeginsLexeme boolean ahead := by
  refine (viable_token .nil).bind fun front rest _ _ sign => ?_
  obtain rfl := reads_token.mp sign
  exact (viable_pick .of_sign).bind fun _ _ _ _ _ => viable_pure

lemma viable_character : Viable BeginsLexeme character ahead := by
  refine (viable_token .nil).bind fun front rest _ _ sign => ?_
  obtain rfl := reads_token.mp sign
  exact ((viable_run .of_backslash).refine .of_backslash).bind fun _ _ _ _ _ => viable_pure

lemma viable_radixInteger : Viable BeginsLexeme radixInteger ahead := by
  refine (viable_token .nil).bind fun front rest _ _ sign => ?_
  obtain rfl := reads_token.mp sign
  refine (viable_pick .of_sign).bind fun front rest radix _ picked => ?_
  obtain ⟨c, rfl, tagged⟩ := reads_pick.mp picked
  obtain rfl := ofTag?_eq_some_iff.mp tagged
  exact (viable_run (.of_tag radix)).bind fun _ _ _ _ _ => viable_pure

lemma viable_atom : Viable BeginsLexeme atom ahead := by
  have tagged : Viable BeginsLexeme taggedLiteral ahead := by
    refine viable_firstOf ?_
    simp only [List.forall_mem_cons, List.not_mem_nil, false_implies, implies_true, and_true]
    exact ⟨viable_boolean, viable_character, viable_radixInteger⟩
  refine tagged.notAhead.checkWhen.bind fun front rest _ _ check => ?_
  have nothing : front = [] := by
    rw [reads_checkWhen] at check
    split at check
    · exact (reads_notAhead.mp check).1
    · exact check
  subst nothing
  exact (viable_satisfy .nil).bind fun _ _ _ _ _ => viable_many.bind fun _ _ _ _ _ => viable_pure

/-! ## Texts -/

lemma viable_textBody : Viable (fun more => BeginsLexeme ('"' :: more)) textBody ahead := by
  intro _
  rw [textBody]
  rcases scanTextBody_cases ahead with ⟨body, rest, content, rfl, inside, -, scan⟩ |
    ⟨body, rest, content, rfl, inside, -, scan⟩
  · rw [scan]
    exact Furthest.holds_none
  · rw [scan]
    refine holds_failAt (fun more => BeginsLexeme ('"' :: more)) ?_
    rw [List.take_length_add_append]
    exact .of_escape inside

lemma viable_text : Viable BeginsLexeme text ahead := by
  refine (viable_token .nil).bind fun front rest _ _ mark => ?_
  obtain rfl := reads_token.mp mark
  refine viable_textBody.bind fun body rest content _ found => ?_
  have inside := (reads_textBody.mp found).1
  refine (viable_token ?_).bind fun _ _ _ _ _ => viable_pure
  rw [List.append_nil]
  exact .of_textBody inside

/-! ## Numbers -/

lemma viable_decimal (nothing : Open []) (whole : ∀ digits, IsRun Char.isDigit digits → Open digits)
    (point : ∀ digits, IsRun Char.isDigit digits → Open (digits ++ ['.'])) :
    Viable Open decimal ahead := by
  refine (viable_digits nothing).bind fun digits rest _ _ found => ?_
  obtain ⟨-, run, -⟩ := reads_digits.mp found
  refine (viable_token ?_).bind fun front rest _ _ found => ?_
  · rw [List.append_nil]
    exact whole digits run
  · obtain rfl := reads_token.mp found
    exact (viable_digits (point digits run)).bind fun _ _ _ _ _ => viable_pure

lemma viable_natural (nothing : Open []) : Viable Open natural ahead :=
  (viable_digits nothing).bind fun _ _ _ _ _ => viable_pure

lemma viable_part (nothing : Open []) (whole : ∀ digits, IsRun Char.isDigit digits → Open digits)
    (point : ∀ digits, IsRun Char.isDigit digits → Open (digits ++ ['.'])) :
    Viable Open part ahead :=
  ((viable_decimal nothing whole point).map _).orElse fun _ =>
    ((viable_natural nothing).map _).orElse fun _ => viable_nowhere

lemma viable_complex : Viable BeginsLexeme complex ahead := by
  refine (viable_part .nil (fun _ => .of_digits) fun _ => .of_point).bind
    fun left rest _ _ found => ?_
  have first := (part_of_reads found).1
  refine (viable_token ?_).bind fun front rest _ _ found => ?_
  · rw [List.append_nil]
    exact .of_part first
  · obtain rfl := reads_token.mp found
    refine Viable.bind (viable_part ?_ ?_ ?_) fun right rest _ _ found => ?_
    · exact .of_plus ['0'] first (.whole BeginsLexeme.isRun_zero)
    · intro digits run
      have second : Grammar.Part (digits ++ []) (.ofNat (Numeral.value 10 digits)) := by
        rw [List.append_nil]
        exact .whole run
      exact .of_plus [] first second
    · intro digits run
      have second : Grammar.Part (digits ++ ['.'] ++ ['0']) (.ofDecimal digits ['0']) := by
        rw [List.append_assoc]
        exact .decimal run BeginsLexeme.isRun_zero
      exact .of_plus ['0'] first second
    · have second := (part_of_reads found).1
      rw [← List.append_nil right] at second
      refine (viable_token ?_).bind fun _ _ _ _ _ => viable_pure
      rw [List.append_nil]
      exact .of_plus [] first second

lemma viable_float : Viable BeginsLexeme float ahead :=
  (viable_decimal .nil (fun _ => .of_digits) fun _ => .of_point).bind
    fun _ _ _ _ _ => viable_pure

lemma viable_ratio : Viable BeginsLexeme ratio ahead := by
  refine (viable_natural .nil).bind fun upper rest _ _ found => ?_
  have run := (reads_natural.mp found).1
  refine (viable_token ?_).bind fun front rest _ _ found => ?_
  · rw [List.append_nil]
    exact .of_digits run
  · obtain rfl := reads_token.mp found
    exact ((viable_digits (.of_slash run)).refine (.of_slash run)).bind
      fun _ _ _ _ _ => viable_pure

lemma viable_integer : Viable BeginsLexeme integer ahead :=
  ((viable_natural .nil).bind fun _ _ _ _ _ => viable_pure).orElse fun _ =>
    viable_radixInteger.orElse fun _ => viable_nowhere

/-! ## All kinds -/

lemma viable_literal (kind : Literal) : Viable BeginsLexeme kind.reader ahead := by
  cases kind with
  | atom => exact viable_atom
  | text => exact viable_text
  | character => exact viable_character
  | complex => exact viable_complex
  | float => exact viable_float
  | ratio => exact viable_ratio
  | integer => exact viable_integer
  | boolean => exact viable_boolean

lemma viable_firstIn (order : List Literal) :
    Viable BeginsLexeme (Literal.firstIn order) ahead := by
  refine viable_firstOf fun p member => ?_
  obtain ⟨kind, -, rfl⟩ := List.mem_map.mp member
  exact viable_literal kind

end Reader

end SExpr
