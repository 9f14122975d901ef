import SExpr.Proofs.Failure.Plain
import SExpr.Proofs.Reader.Grounded
import SExpr.Proofs.Reader.Speaks

/-!
# Behind the digits of a number

Digits alone are an integer, and a strict reading wants nothing behind them.  But before the integer
was found the longer kinds of numbers were tried, and each of them wanted something behind the same
digits: a plus, a point, a slash.  What all other kinds wanted, they wanted at the first digit.  So
where none of the three marks stands behind the digits, the error names all three besides the end of
the text; and where one does, the kind that goes on behind it got further than that.

* `lt_offset_of_mark` — a sequence that finds nothing although its mark stands fails behind it.
* `reader_of_digits`, `firstIn_of_digits` — where digits are no longer number they are an integer, and
  of all failures before it there is left what the longer kinds wanted.
* `wantedBehind_of_stops`, `lt_offset_wantedBehind` — what that is without a mark behind the digits,
  and how far it lies with one.
* `Datum.ofText_digits` — the error of a strict reading.
-/

namespace SExpr

/-- The kinds of numbers that can go on behind digits. -/
def Literal.longerNumbers : List Literal := [.float, .ratio, .complex]

namespace Reader

/-! ## Behind a mark -/

section

variable {α β : Type} {p : Reader Furthest α} {front rest : List Char} {a : α}

/-- A failure behind what the first part read is a failure of the sequence. -/
lemma Reads.le_offset_bind {f : α → Reader Furthest β} (found : Reads p front rest a)
    (failed : (f a rest).log ≠ none) :
    front.length + (f a rest).log.offset ≤ ((p >>= f) (front ++ rest)).log.offset := by
  have joined : ((p >>= f) (front ++ rest)).log =
      (p (front ++ rest)).log.join ((f a rest).log.shift front.length) := log_bind_of_reads found
  rw [joined, Furthest.offset_join, Furthest.offset_shift failed]
  exact Nat.le_max_right _ _

/-- Where a sequence finds nothing although its mark stands, it fails behind the mark. -/
lemma lt_offset_of_mark {f : α → Unit → Reader Furthest β} [∀ a u, Speaks (f a u)] {text : String}
    {mark : Char} (single : text.toList = [mark]) (found : Reads p front (mark :: rest) a)
    (missing : Misses (p >>= fun a => token text >>= f a) (front ++ mark :: rest)) :
    front.length < ((p >>= fun a => token text >>= f a) (front ++ mark :: rest)).log.offset := by
  have isMark : Reads (token text : Reader Furthest Unit) [mark] rest () :=
    reads_token.mpr single.symm
  have missing' : Misses (token text >>= f a) ([mark] ++ rest) := found.misses_bind_iff.mp missing
  have missing'' : Misses (f a ()) rest := isMark.misses_bind_iff.mp missing'
  have behind : 1 ≤ ((token text >>= f a) (mark :: rest)).log.offset :=
    Nat.le_of_add_right_le (isMark.le_offset_bind (Speaks.log_ne_none missing''))
  have whole := found.le_offset_bind (f := fun a => token text >>= f a)
    (Speaks.log_ne_none missing')
  exact Nat.lt_of_lt_of_le (Nat.lt_add_of_pos_right behind) whole

end

/-! ## Readers of numbers -/

section

variable {digits rest : List Char} (run : IsRun Char.isDigit digits)
  (noDigit : Stops Char.isDigit rest)
include run noDigit

lemma digits_append : (Reader.digits (digits ++ rest) : Outcome Furthest (List Char)) =
    ⟨.found digits digits.length, none⟩ := by
  have whole : (digits ++ rest).takeWhile Char.isDigit = digits :=
    takeWhile_append_eq_iff.mpr ⟨run.2, noDigit⟩
  have enough : ¬ digits.length < 1 := Nat.not_lt.mpr (List.length_pos_iff.mpr run.1)
  simp only [Reader.digits, many, whole, if_neg enough]
  rfl

lemma natural_append : (natural (digits ++ rest) : Outcome Furthest Nat) =
    ⟨.found (Numeral.decimalValue digits) digits.length, none⟩ :=
  bind_found (digits_append run noDigit)

lemma integer_append : (integer (digits ++ rest) : Outcome Furthest Datum) =
    ⟨.found (.integer (Numeral.decimalValue digits)) digits.length, none⟩ :=
  orElse_found (bind_found (natural_append run noDigit))

end

/-! ## Digits that are an integer -/

/-- What is left of the failures of the longer kinds of numbers. -/
def wantedBehind (ahead : List Char) : Furthest :=
  Furthest.join (complex ahead).log (Furthest.join (float ahead).log (ratio ahead).log)

section

variable {digits rest : List Char} (run : IsRun Char.isDigit digits)
include run

/-- Digits start no atom, no text and no character. -/
lemma reader_of_digits (kind : Literal) (other : kind ∈ [.atom, .text, .character]) :
    (kind.reader (digits ++ rest) : Outcome Furthest Datum) =
      ⟨.missing, some ⟨0, kind.openings⟩⟩ := by
  have apart (mark : Char) (noDigit : mark.isDigit = false) :
      Stops (fun c => c == mark) (digits ++ rest) := by
    refine run.stops_append fun c digit => ?_
    rw [beq_eq_false_iff_ne]
    rintro rfl
    rw [noDigit] at digit
    cases digit
  simp only [List.mem_cons, List.not_mem_nil, or_false] at other
  rcases other with rfl | rfl | rfl
  · exact atom_of_stops (run.stops_append fun _ => isAtomStart_eq_false_of_isDigit)
  · exact bind_missing (token_of_stops (apart '"' rfl) rfl rfl)
  · exact bind_missing (token_of_stops (apart '#' rfl) rfl rfl)

/-- Where no longer number is, digits are an integer, and besides what the longer numbers wanted it
is left that something else might have stood in place of the first digit. -/
lemma firstIn_of_digits (noDigit : Stops Char.isDigit rest)
    (missing : ∀ kind ∈ Literal.longerNumbers,
      Misses (kind.reader : Reader Furthest Datum) (digits ++ rest)) :
    (Literal.firstIn Literal.inOrder (digits ++ rest) : Outcome Furthest Datum) =
      ⟨.found (.integer (Numeral.decimalValue digits)) digits.length,
        Furthest.join (some ⟨0, .ofList ["'\"'", "'#\\\\'", "letter or symbol"]⟩)
          (wantedBehind (digits ++ rest))⟩ := by
  have noAtom : atom (digits ++ rest) = _ := reader_of_digits run .atom (by decide)
  have noText : text (digits ++ rest) = _ := reader_of_digits run .text (by decide)
  have noCharacter : character (digits ++ rest) = _ := reader_of_digits run .character (by decide)
  have misses : ∀ p ∈ [atom, text, character, complex, float, ratio],
      Misses (p : Reader Furthest Datum) (digits ++ rest) := by
    simp only [List.forall_mem_cons, Misses, noAtom, noText, noCharacter, true_and]
    simp only [Literal.longerNumbers, List.forall_mem_cons, Literal.reader, Misses] at missing
    obtain ⟨noFloat, noRatio, noComplex, -⟩ := missing
    exact ⟨noComplex, noFloat, noRatio, List.forall_mem_nil _⟩
  have found : (firstOf [integer, boolean] (digits ++ rest) : Outcome Furthest Datum) =
      ⟨.found (.integer (Numeral.decimalValue digits)) digits.length, none⟩ :=
    orElse_found (integer_append run noDigit)
  have joined : (Literal.firstIn Literal.inOrder (digits ++ rest) : Outcome Furthest Datum) =
      ⟨.found (.integer (Numeral.decimalValue digits)) digits.length,
        Furthest.join (some ⟨0, Literal.atom.openings⟩) (Furthest.join
          (some ⟨0, Literal.text.openings⟩) (Furthest.join (some ⟨0, Literal.character.openings⟩)
            (wantedBehind (digits ++ rest))))⟩ := by
    show firstOf ([atom, text, character, complex, float, ratio] ++ [integer, boolean]) _ = _
    rw [firstOf_append_of_misses misses, found, wantedBehind,
      ← Furthest.join_none (ratio (digits ++ rest)).log]
    simp only [List.map_cons, List.map_nil, noAtom, noText, noCharacter]
    rfl
  rw [joined, ← Furthest.join_assoc (some ⟨0, Literal.text.openings⟩), ← Furthest.join_assoc]
  rfl

end

/-! ## Without a mark and with one -/

section

variable {digits rest : List Char} (run : IsRun Char.isDigit digits)
  (stops : Stops goesOnDigits rest)
include run stops

omit run in
lemma token_behind {text : String} {mark : Char} (single : text.toList = [mark])
    (goesOn : goesOnDigits mark = true) :
    (token text ((digits ++ rest).drop digits.length) : Outcome Furthest Unit) =
      ⟨.missing, .missedAt 0 (Text.quoted text)⟩ := by
  rw [List.drop_left]
  exact token_of_stops stops single goesOn

lemma decimal_append : (decimal (digits ++ rest) : Outcome Furthest Binary64) =
    ⟨.missing, .missedAt digits.length (Text.quoted ".")⟩ :=
  bind_missedAt (digits_append run (stops_isDigit stops))
    (bind_missing (token_behind stops rfl rfl))

lemma float_append : (float (digits ++ rest) : Outcome Furthest Datum) =
    ⟨.missing, .missedAt digits.length (Text.quoted ".")⟩ :=
  bind_missing (decimal_append run stops)

lemma ratio_append : (ratio (digits ++ rest) : Outcome Furthest Datum) =
    ⟨.missing, .missedAt digits.length (Text.quoted "/")⟩ :=
  bind_missedAt (natural_append run (stops_isDigit stops))
    (bind_missing (token_behind stops rfl rfl))

/-- The first part of a complex number could have been a decimal, so a point is wanted as well. -/
lemma complex_append : (complex (digits ++ rest) : Outcome Furthest Datum) =
    ⟨.missing, some ⟨digits.length, .ofList [Text.quoted "+", Text.quoted "."]⟩⟩ := by
  have noPoint : (Part.decimal <$> decimal : Reader Furthest Part) (digits ++ rest) =
      ⟨.missing, .missedAt digits.length (Text.quoted ".")⟩ :=
    map_missing (decimal_append run stops)
  have whole : (Part.whole <$> natural : Reader Furthest Part) (digits ++ rest) =
      ⟨.found (.whole (Numeral.decimalValue digits)) digits.length, none⟩ := by
    show mapped Part.whole natural _ = _
    rw [mapped, natural_append run (stops_isDigit stops)]
    rfl
  have real : (part (digits ++ rest) : Outcome Furthest Part) =
      ⟨.found (.whole (Numeral.decimalValue digits)) digits.length,
        .missedAt digits.length (Text.quoted ".")⟩ := by
    rw [part, firstOf, orElse_missing noPoint, firstOf, orElse_found whole]
    rfl
  refine (bind_found real).trans ?_
  have noPlus : (token "+" ((digits ++ rest).drop digits.length) : Outcome Furthest Unit) = _ :=
    token_behind stops rfl rfl
  rw [bind_missing noPlus]
  have both : (Expected.singleton (Text.quoted ".")).union (.singleton (Text.quoted "+")) =
      .ofList [Text.quoted "+", Text.quoted "."] := Expected.ext fun what => by
    simp [Expected.mem_union, Expected.mem_singleton, Expected.mem_ofList, or_comm]
  rw [← both]
  exact congrArg (Outcome.mk .missing) Furthest.join_of_eq

/-- Without a mark behind the digits each longer kind wants its own there. -/
lemma wantedBehind_of_stops : wantedBehind (digits ++ rest) =
    some ⟨digits.length, .ofList [Text.quoted "+", Text.quoted ".", Text.quoted "/"]⟩ := by
  rw [wantedBehind, complex_append run stops, float_append run stops, ratio_append run stops,
    Furthest.missedAt, Furthest.missedAt, Furthest.join_of_eq, Furthest.join_of_eq]
  have all : (Expected.ofList [Text.quoted "+", Text.quoted "."]).union
      ((Expected.singleton (Text.quoted ".")).union (.singleton (Text.quoted "/"))) =
        .ofList [Text.quoted "+", Text.quoted ".", Text.quoted "/"] := Expected.ext fun what => by
    simp only [Expected.mem_union, Expected.mem_singleton, Expected.mem_ofList, List.mem_cons,
      List.not_mem_nil, or_false]
    tauto
  rw [all]

lemma misses_longer_of_stops : ∀ kind ∈ Literal.longerNumbers,
    Misses (kind.reader : Reader Furthest Datum) (digits ++ rest) := by
  simp only [Literal.longerNumbers, List.forall_mem_cons, Literal.reader, Misses,
    complex_append run stops, float_append run stops, ratio_append run stops, true_and]
  exact List.forall_mem_nil _

end

/-- With a mark behind the digits the kind that it belongs to fails behind the mark. -/
lemma lt_offset_wantedBehind {digits rest : List Char} {mark : Char}
    (run : IsRun Char.isDigit digits) (member : mark ∈ ['.', '/', '+'])
    (missing : ∀ kind ∈ Literal.longerNumbers,
      Misses (kind.reader : Reader Furthest Datum) (digits ++ mark :: rest)) :
    digits.length < (wantedBehind (digits ++ mark :: rest)).offset := by
  simp only [Literal.longerNumbers, List.forall_mem_cons, Literal.reader] at missing
  obtain ⟨noFloat, noRatio, noComplex, -⟩ := missing
  rw [wantedBehind, Furthest.offset_join, Furthest.offset_join]
  simp only [List.mem_cons, List.not_mem_nil, or_false] at member
  rcases member with rfl | rfl | rfl
  · have isWhole : Reads (Reader.digits : Reader Furthest _) digits ('.' :: rest) digits :=
      reads_digits.mpr ⟨rfl, run, Stops.cons rfl⟩
    have noDecimal : Misses (decimal : Reader Furthest Binary64) (digits ++ '.' :: rest) :=
      misses_map.mp ((verdict_bind_pure decimal Datum.float _).symm.trans noFloat)
    have same : (float (digits ++ '.' :: rest)).log = (decimal (digits ++ '.' :: rest)).log :=
      log_bind_of_fails (.inl noDecimal)
    have further : digits.length < Furthest.offset (decimal (digits ++ '.' :: rest)).log :=
      lt_offset_of_mark rfl isWhole noDecimal
    rw [← same] at further
    omega
  · have isNumerator : Reads (natural : Reader Furthest Nat) digits ('/' :: rest) _ :=
      reads_natural.mpr ⟨run, Stops.cons rfl, rfl⟩
    have further : digits.length < Furthest.offset (ratio (digits ++ '/' :: rest)).log :=
      lt_offset_of_mark rfl isNumerator noRatio
    omega
  · obtain ⟨real, isReal, -⟩ : ∃ real, Reads (part : Reader Furthest Part) digits
        ('+' :: rest) real ∧ _ :=
      reads_part (.whole run) (Stops.cons rfl)
    have further : digits.length < Furthest.offset (complex (digits ++ '+' :: rest)).log :=
      lt_offset_of_mark rfl isReal noComplex
    omega

end Reader

/-! ## Strict readings -/

namespace Datum

open Reader

variable {digits rest : List Char} {first : Char} {composites : Bool} {maxDepth : Int}

/-- Digits with something behind them that makes no longer number of them are an error of a strict
reading: of what the longer kinds wanted, and the end. -/
lemma ofText_of_digits (run : IsRun Char.isDigit digits) (noDigit : first.isDigit = false)
    (missing : ∀ kind ∈ Literal.longerNumbers,
      Misses (kind.reader : Reader Furthest Datum) (digits ++ first :: rest))
    (further : 0 < (wantedBehind (digits ++ first :: rest)).offset) :
    Datum.ofText (String.ofList (digits ++ first :: rest)) ⟨true, composites, maxDepth⟩ =
      .error (.ofFurthest (digits ++ first :: rest) ((wantedBehind (digits ++ first :: rest)).join
        (.missedAt digits.length Entry.endOfInput))) := by
  have found := firstIn_of_digits run (Stops.cons noDigit) missing
  rw [Furthest.join_of_offset_pos further] at found
  have whole : (Entry.expression.reader composites
      (Options.room ⟨true, composites, maxDepth⟩ 0) (digits ++ first :: rest) :
        Outcome Furthest Datum) = _ := orElse_found found
  have short : digits.length ≠ (digits ++ first :: rest).length := by simp
  rw [ofText, Entry.readDatum, Entry.read, Entry.readChars, String.toList_ofList, whole]
  simp only [Entry.conclude, true_and, if_pos short]
  rfl

/-- What a strict reading says of digits with something behind them.  If that is neither a digit nor
a mark, the error is right behind the digits and names each mark, and the end, as what could stand
there.  If it is a mark that makes no number of the digits, the error lies further on. -/
theorem ofText_digits (digits rest : List Char) (first : Char) (composites : Bool) (maxDepth : Int)
    (run : IsRun Char.isDigit digits) :
    let source := digits ++ first :: rest
    let reading := Datum.ofText (String.ofList source) { strict := true, composites, maxDepth }
    (first.isDigit = false → first ∉ ['.', '/', '+'] → ∃ error, reading = .error error ∧
      error.offset = digits.length ∧ error.found = some first ∧
      let wanted := [Text.quoted "+", Text.quoted ".", Text.quoted "/", Entry.endOfInput]
      error.fault = .unexpected (.ofList wanted) ∧ error.expected = wanted) ∧
    (first ∈ ['.', '/', '+'] →
      (∀ kind ∈ Literal.longerNumbers, Misses (kind.reader : Reader Furthest Datum) source) →
      ∃ offset expected, reading = .error ⟨source, offset, .unexpected expected⟩ ∧
        digits.length < offset) := by
  intro source reading
  constructor
  · intro noDigit noMark
    have stops : Stops goesOnDigits (first :: rest) := by
      refine Stops.cons ?_
      simp only [List.mem_cons, List.not_mem_nil, or_false, not_or] at noMark
      simp [goesOnDigits, noDigit, noMark]
    have wanted := wantedBehind_of_stops run stops
    have length : 0 < digits.length := List.length_pos_iff.mpr run.1
    have further : 0 < (wantedBehind (digits ++ first :: rest)).offset := by rwa [wanted]
    refine ⟨_, ofText_of_digits run noDigit (misses_longer_of_stops run stops) further, ?_⟩
    rw [wanted, Furthest.missedAt, Furthest.join_of_eq]
    exact ⟨rfl, by simp [ReadError.found, ReadError.ofFurthest, Furthest.offset], rfl, rfl⟩
  · intro mark missing
    have noDigit : first.isDigit = false := by
      simp only [List.mem_cons, List.not_mem_nil, or_false] at mark
      rcases mark with rfl | rfl | rfl <;> rfl
    have further := lt_offset_wantedBehind run mark missing
    refine ⟨_, _, ofText_of_digits run noDigit missing (Nat.zero_lt_of_lt further), ?_⟩
    rw [Furthest.offset_join]
    exact Nat.lt_of_lt_of_le further (Nat.le_max_left _ _)

/-- A letter behind digits is an error on the letter, whatever is allowed; a slash behind them is
one behind the slash if the denominator is zero. -/
theorem ofText_digits_letter :
    (∃ error, Datum.ofText "42xyz" ⟨true, true, 0⟩ =
      .error error ∧ error.offset = 2 ∧ error.found = some 'x' ∧
      error.expected = ["'+'", "'.'", "'/'", "end of input"]) ∧
    ∃ offset expected, Datum.ofText "1/0" ⟨true, false, -1⟩ =
      .error ⟨"1/0".toList, offset, .unexpected expected⟩ ∧ 1 < offset := by
  have run : IsRun Char.isDigit ['4', '2'] :=
    (IsRun.singleton rfl).append (List.forall_mem_singleton.mpr rfl)
  constructor
  · obtain ⟨error, reading, offset, found, -, wanted⟩ :=
      (ofText_digits ['4', '2'] ['y', 'z'] 'x' true 0 run).1 rfl (by decide)
    exact ⟨error, reading, offset, found, wanted⟩
  · refine (ofText_digits ['1'] ['0'] '/' false (-1) (.singleton rfl)).2 (by decide) ?_
    simp only [Literal.longerNumbers, List.forall_mem_cons]
    exact ⟨rfl, rfl, rfl, List.forall_mem_nil _⟩

end Datum

end SExpr
