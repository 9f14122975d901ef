import SExpr.Proofs.Acceptance
import SExpr.Proofs.Parallel.Basic
import SExpr.Proofs.Reader.Furthest

/-!
# The plain reader, and what it says of a text that it does not read

Without composite expressions the first character of a text decides nearly everything.  A digit
starts an integer, if no longer number.  A letter or a symbol starts an atom, or else one of the
literals that atoms make room for.  No other character starts anything except a quotation mark,
which promises more than may be there: the text behind it may end too early, or hold a backslash
without a code.

**Where nothing starts.**  Every kind of literal misses its first character, so all of them fail at
one place and the error names what each of them wanted: `Literal.reader_of_stops`.

**Behind a quotation mark.**  The reader of texts gets further than all the others, so of the error
it alone is left: `text_uncoded` and `text_unclosed` say where its scan ends.

* `firstOf_append_of_misses`, `firstOf_of_misses` — what alternatives that miss leave is joined.
* `misses_literal_iff` — where no literal is found.
* `Entry.read_plain` — which texts the plain reader reads, and its error in all the others.
-/

namespace SExpr

open Grammar

/-- A whole text in quotation marks stands in front. -/
def StartsQuotation (source : List Char) : Prop :=
  ∃ body content rest, source = '"' :: (body ++ '"' :: rest) ∧ TextBody body content

/-- What a kind of literal wants where it starts. -/
def Literal.openings : Literal → Expected
  | .atom => .singleton "letter or symbol"
  | .text => .singleton "'\"'"
  | .character => .singleton "'#\\\\'"
  | .complex => .singleton "digit"
  | .float => .singleton "digit"
  | .ratio => .singleton "digit"
  | .integer => .ofList ["digit", "'#'"]
  | .boolean => .singleton "'#'"

namespace Reader

/-! ## Alternatives that all miss -/

section

variable {L α : Type} {ahead : List Char}

lemma Misses.outcome_eq {p : Reader L α} (missing : Misses p ahead) :
    p ahead = ⟨.missing, (p ahead).log⟩ := by
  rw [Misses] at missing
  rw [← missing]

variable [Log L]

lemma map_missing {β : Type} {p : Reader L α} {f : α → β} {log : L}
    (first : p ahead = ⟨.missing, log⟩) : (f <$> p) ahead = ⟨.missing, log⟩ := by
  show mapped f p ahead = _
  simp [mapped, first, Verdict.map]

/-- Alternatives that miss leave what they wanted, and it is up to the others what is found. -/
lemma firstOf_append_of_misses {readers : List (Reader L α)}
    (missing : ∀ p ∈ readers, Misses p ahead) (others : List (Reader L α)) :
    firstOf (readers ++ others) ahead = ⟨(firstOf others ahead).verdict,
      (readers.map fun p => (p ahead).log).foldr Log.join (firstOf others ahead).log⟩ := by
  induction readers with
  | nil => rfl
  | cons p readers ih =>
      obtain ⟨first, rest⟩ := List.forall_mem_cons.mp missing
      rw [List.cons_append, firstOf, orElse_missing first.outcome_eq, ih rest, List.map_cons,
        List.foldr_cons]

/-- Where all alternatives miss, what they leave is joined. -/
lemma firstOf_of_misses {readers : List (Reader L α)} (missing : ∀ p ∈ readers, Misses p ahead) :
    firstOf readers ahead =
      ⟨.missing, (readers.map fun p => (p ahead).log).foldr Log.join Log.nothing⟩ := by
  have joined := firstOf_append_of_misses missing []
  rw [List.append_nil] at joined
  exact joined

end

/-! ## Readers that miss their first character -/

section

variable {ahead : List Char}

@[simp] lemma failAt_apply {α : Type} (distance : Nat) (what : String) (ahead : List Char) :
    (failAt distance what ahead : Outcome Furthest α) = ⟨.missing, .missedAt distance what⟩ := rfl

lemma token_of_stops {text : String} {accept : Char → Bool} {first : Char} {others : List Char}
    (stops : Stops accept ahead) (start : text.toList = first :: others)
    (taken : accept first = true) :
    (token text ahead : Outcome Furthest Unit) = ⟨.missing, .missedAt 0 (Text.quoted text)⟩ := by
  have missing : Misses (token text : Reader Furthest Unit) ahead :=
    misses_token_of_stops stops start taken
  rw [misses_token, ← List.isPrefixOf_iff_prefix] at missing
  simp [token, missing]

lemma satisfy_of_stops {accept : Char → Bool} {what : String} (stops : Stops accept ahead) :
    (satisfy accept what ahead : Outcome Furthest Char) = ⟨.missing, .missedAt 0 what⟩ := by
  cases ahead with
  | nil => simp [satisfy, pick]
  | cons c rest =>
      have refused : accept c = false := Stops.cons_iff.mp stops
      simp [satisfy, pick, refused]

lemma digits_of_stops (stops : Stops Char.isDigit ahead) :
    (digits ahead : Outcome Furthest (List Char)) = ⟨.missing, .missedAt 0 "digit"⟩ := by
  have noRun : ahead.takeWhile Char.isDigit = [] :=
    (@takeWhile_append_eq_iff Char.isDigit [] ahead).mpr ⟨by simp, stops⟩
  simp [digits, many, noRun]

lemma decimal_of_stops (stops : Stops Char.isDigit ahead) :
    (decimal ahead : Outcome Furthest Binary64) = ⟨.missing, .missedAt 0 "digit"⟩ :=
  bind_missing (digits_of_stops stops)

lemma natural_of_stops (stops : Stops Char.isDigit ahead) :
    (natural ahead : Outcome Furthest Nat) = ⟨.missing, .missedAt 0 "digit"⟩ :=
  bind_missing (digits_of_stops stops)

/-- A part of a complex number wants a digit, whichever way it is written. -/
lemma part_of_stops (stops : Stops Char.isDigit ahead) :
    (part ahead : Outcome Furthest Part) = ⟨.missing, .missedAt 0 "digit"⟩ := by
  have noDecimal : (Part.decimal <$> decimal : Reader Furthest Part) ahead =
      ⟨.missing, .missedAt 0 "digit"⟩ := map_missing (decimal_of_stops stops)
  have noWhole : (Part.whole <$> natural : Reader Furthest Part) ahead =
      ⟨.missing, .missedAt 0 "digit"⟩ := map_missing (natural_of_stops stops)
  rw [part, firstOf, orElse_missing noDecimal, firstOf, orElse_missing noWhole]
  rfl

/-- Where no atom starts, none of the literals that atoms make room for is looked for either. -/
lemma atom_of_stops (stops : Stops isAtomStart ahead) :
    (atom ahead : Outcome Furthest Datum) = ⟨.missing, .missedAt 0 "letter or symbol"⟩ := by
  have passed : (checkWhen looksTagged (notAhead taggedLiteral) ahead : Outcome Furthest Unit) =
      ⟨.found () 0, none⟩ := by
    rw [checkWhen, looksTagged_of_stops stops]
    rfl
  refine (bind_found passed).trans ?_
  rw [List.drop_zero, bind_missing (satisfy_of_stops stops)]
  rfl

/-- Where no letter, symbol or digit is ahead, each kind of literal fails for want of what it starts
with; so does the text, if no quotation mark is ahead either. -/
lemma reader_of_stops {kind : Literal} (other : Stops isAtomChar ahead)
    (noMark : kind = .text → Stops (fun c => c == '"') ahead) :
    (kind.reader ahead : Outcome Furthest Datum) = ⟨.missing, some ⟨0, kind.openings⟩⟩ := by
  have noDigit : Stops Char.isDigit ahead := other.mono fun _ => isAtomChar_of_isDigit
  have noSign : Stops (fun c => c == '#') ahead :=
    other.mono fun c sign => by rw [beq_iff_eq.mp sign]; rfl
  have token_sign : (token "#" ahead : Outcome Furthest Unit) = ⟨.missing, .missedAt 0 "'#'"⟩ :=
    token_of_stops noSign rfl rfl
  cases kind with
  | atom => exact atom_of_stops (other.mono fun _ => isAtomChar_of_isAtomStart)
  | text => exact bind_missing (token_of_stops (noMark rfl) rfl rfl)
  | character => exact bind_missing (token_of_stops noSign rfl rfl)
  | complex => exact bind_missing (part_of_stops noDigit)
  | float => exact bind_missing (decimal_of_stops noDigit)
  | ratio => exact bind_missing (natural_of_stops noDigit)
  | integer =>
      have noPlain : (plainInteger ahead : Outcome Furthest Datum) =
          ⟨.missing, .missedAt 0 "digit"⟩ := bind_missing (natural_of_stops noDigit)
      have noTagged : (radixInteger ahead : Outcome Furthest Datum) =
          ⟨.missing, .missedAt 0 "'#'"⟩ := bind_missing token_sign
      show firstOf [plainInteger, radixInteger] ahead = _
      rw [firstOf, orElse_missing noPlain, firstOf, orElse_missing noTagged]
      rfl
  | boolean => exact bind_missing token_sign

/-- There are no composite expressions, so the plain reader tries the literals and nothing else. -/
lemma expression_plain (room : Nat) :
    (expression false room ahead : Outcome Furthest Datum) =
      Literal.firstIn Literal.inOrder ahead := by
  show ((Literal.firstIn Literal.inOrder <|> nowhere : Reader Furthest Datum) ahead) = _
  cases literal : (Literal.firstIn Literal.inOrder ahead : Outcome Furthest Datum) with
  | mk verdict log =>
      cases verdict with
      | found datum length => exact orElse_found literal
      | missing =>
          rw [orElse_missing literal]
          exact congrArg (Outcome.mk .missing) (Furthest.join_none log)
      | tooDeep offset => exact orElse_tooDeep literal

/-- Where no letter, symbol or digit is ahead, the outcome is what the reader of texts leaves
joined with what all others wanted here. -/
lemma firstIn_of_stops {log : Furthest} (other : Stops isAtomChar ahead)
    (missing : (text ahead : Outcome Furthest Datum) = ⟨.missing, log⟩) :
    (Literal.firstIn Literal.inOrder ahead : Outcome Furthest Datum) =
      ⟨.missing, log.join (some ⟨0, .ofList ["'#'", "'#\\\\'", "digit", "letter or symbol"]⟩)⟩ := by
  have outcome (kind : Literal) : (kind.reader ahead : Outcome Furthest Datum) =
      ⟨.missing, if kind = .text then log else some ⟨0, kind.openings⟩⟩ := by
    split
    · next same => rw [same]; exact missing
    · next different => exact reader_of_stops other fun same => absurd same different
  have misses : ∀ p ∈ Literal.inOrder.map Literal.reader,
      Misses (p : Reader Furthest Datum) ahead :=
    List.forall_mem_map.mpr fun kind _ => congrArg Outcome.verdict (outcome kind)
  rw [Literal.firstIn, firstOf_of_misses misses, List.map_map]
  simp only [Function.comp_def, outcome]
  -- Atoms are tried before texts; for the joined failures that makes no difference.
  show (⟨.missing, Furthest.join (some ⟨0, .singleton "letter or symbol"⟩)
    (log.join (some ⟨0, .ofList ["'#'", "'#\\\\'", "digit"]⟩))⟩ : Outcome Furthest Datum) = _
  rw [← Furthest.join_assoc, Furthest.join_comm _ log, Furthest.join_assoc]
  rfl

end

/-! ## Behind a quotation mark -/

section

variable {ahead body content after : List Char}

lemma token_mark (inside : List Char) :
    (token "\"" ('"' :: inside) : Outcome Furthest Unit) = ⟨.found () 1, none⟩ := by rfl

/-- What misses behind a thing that left no failure misses that much further on. -/
lemma bind_found_missing {α β : Type} {p : Reader Furthest α} {f : α → Reader Furthest β}
    {ahead : List Char} {a : α} {length : Nat} {log : Furthest}
    (first : p ahead = ⟨.found a length, none⟩)
    (second : f a (ahead.drop length) = ⟨.missing, log⟩) :
    (p >>= f) ahead = ⟨.missing, log.shift length⟩ := by
  rw [bind_found first, second]
  rfl

/-- What misses its first character right behind a thing wants it there. -/
lemma bind_missedAt {α β : Type} {p : Reader Furthest α} {f : α → Reader Furthest β}
    {ahead : List Char} {a : α} {length : Nat} {what : String}
    (first : p ahead = ⟨.found a length, none⟩)
    (second : f a (ahead.drop length) = ⟨.missing, .missedAt 0 what⟩) :
    (p >>= f) ahead = ⟨.missing, .missedAt length what⟩ :=
  bind_found_missing first second

/-- A text whose body runs into a backslash without a code fails behind the backslash. -/
lemma text_uncoded (inside : TextBody body content) (uncoded : Uncoded after) :
    (text ('"' :: (body ++ '\\' :: after)) : Outcome Furthest Datum) =
      ⟨.missing, .missedAt (body.length + 2) "escape code"⟩ := by
  have scanned : (textBody (body ++ '\\' :: after) : Outcome Furthest (List Char)) =
      ⟨.missing, .missedAt (body.length + 1) "escape code"⟩ := by
    simp [textBody, scanTextBody_uncoded inside uncoded]
  refine (bind_found_missing (token_mark _) (bind_missing scanned)).trans ?_
  simp [Nat.add_comm 1]

/-- A text whose body runs into the end of everything fails there. -/
lemma text_unclosed (inside : TextBody body content) :
    (text ('"' :: body) : Outcome Furthest Datum) =
      ⟨.missing, .missedAt (body.length + 1) "'\"'"⟩ := by
  have scanned : (textBody body : Outcome Furthest (List Char)) =
      ⟨.found content body.length, none⟩ := by
    have scan := scanTextBody_append inside Stops.nil
    rw [List.append_nil] at scan
    rw [textBody, scan]
    rfl
  have unclosed : (token "\"" (body.drop body.length) : Outcome Furthest Unit) =
      ⟨.missing, .missedAt 0 "'\"'"⟩ := by
    rw [List.drop_length]
    exact token_of_stops (Stops.nil : Stops (fun _ => true) []) rfl rfl
  refine (bind_found_missing (token_mark _)
    (bind_found_missing scanned (bind_missing unclosed))).trans ?_
  simp [Nat.add_comm 1]

/-- What fails behind a quotation mark is further on than what all others wanted in its place. -/
lemma firstIn_of_text {n : Nat} {what : String} (other : Stops isAtomChar ahead)
    (missing : (text ahead : Outcome Furthest Datum) = ⟨.missing, .missedAt (n + 1) what⟩) :
    (Literal.firstIn Literal.inOrder ahead : Outcome Furthest Datum) =
      ⟨.missing, .missedAt (n + 1) what⟩ := by
  rw [firstIn_of_stops other missing, Furthest.missedAt, Furthest.join_of_gt (Nat.succ_pos n)]

end

/-! ## What starts a literal -/

/-- Where no whole text stands behind a quotation mark, its body runs into a backslash without a
code or into the end. -/
lemma textBody_of_not_startsQuotation {inside : List Char}
    (noText : ¬ StartsQuotation ('"' :: inside)) :
    (∃ body content after, inside = body ++ '\\' :: after ∧ TextBody body content ∧
      Uncoded after) ∨ ∃ content, TextBody inside content := by
  rcases scanTextBody_cases inside with ⟨body, rest, content, rfl, inBody, stops, -⟩ |
    ⟨body, after, content, rfl, inBody, uncoded, -⟩
  · cases rest with
    | nil => exact .inr ⟨content, by simpa using inBody⟩
    | cons c rest =>
        obtain rfl : c = '"' := by simpa using Stops.cons_iff.mp stops
        exact absurd ⟨body, content, rest, rfl, inBody⟩ noText
  · exact .inl ⟨body, content, after, rfl, inBody, uncoded⟩

/-- A letter, a symbol or a digit starts a literal.  A digit starts an integer at least; what starts
an atom does so, unless a literal with a number sign is there instead. -/
lemma not_misses_literal {c : Char} (member : isAtomChar c = true) (rest : List Char) :
    ¬ Misses (Literal.firstIn Literal.inOrder : Reader Furthest Datum) (c :: rest) := by
  intro missing
  have noKind (kind : Literal) : Misses (kind.reader : Reader Furthest Datum) (c :: rest) :=
    misses_kind missing kind
  rw [isAtomChar, Bool.or_eq_true] at member
  rcases member with start | digit
  · have noTagged : Misses (taggedLiteral : Reader Furthest Datum) (c :: rest) := by
      have noBoolean : Misses (boolean : Reader Furthest Datum) (c :: rest) := noKind .boolean
      have noCharacter : Misses (character : Reader Furthest Datum) (c :: rest) := noKind .character
      have noInteger : Misses (radixInteger : Reader Furthest Datum) (c :: rest) :=
        misses_firstOf.mp (noKind .integer) _ (by simp)
      rw [taggedLiteral, misses_firstOf]
      simp [noBoolean, noCharacter, noInteger]
    obtain ⟨more, behind, rfl, chars, stops⟩ := exists_run isAtomChar rest
    have found : Reads (atom : Reader Furthest Datum) (c :: more) behind _ :=
      reads_atom.mpr ⟨c, more, rfl, start, chars, stops, fun _ => noTagged, rfl⟩
    exact found.not_misses (noKind .atom)
  · obtain ⟨more, behind, rfl, digits, stops⟩ := exists_run Char.isDigit rest
    have run : IsRun Char.isDigit (c :: more) := (IsRun.singleton digit).append digits
    exact (reads_integer run stops).not_misses (noKind .integer)

/-- A literal is found just if a letter, a symbol or a digit is ahead, or a whole text. -/
lemma misses_literal_iff {ahead : List Char} :
    Misses (Literal.firstIn Literal.inOrder : Reader Furthest Datum) ahead ↔
      Stops isAtomChar ahead ∧ ¬ StartsQuotation ahead := by
  constructor
  · intro missing
    refine ⟨?_, ?_⟩
    · intro c first
      obtain ⟨rest, rfl⟩ := List.head?_eq_some_iff.mp first
      by_contra member
      exact not_misses_literal (by simpa using member) rest missing
    · rintro ⟨body, content, rest, rfl, inside⟩
      have found : Reads (Literal.firstIn Literal.inOrder : Reader Furthest Datum)
          ('"' :: (body ++ ['"'])) rest _ := .of_textBody inside
      exact found.not_misses (by simpa using missing)
  · rintro ⟨other, noText⟩
    by_cases noMark : Stops (fun c => c == '"') ahead
    · exact misses_literal fun c first => by simp [other c first, noMark c first]
    -- With a mark in front it is the reader of texts that fails furthest on, in one of two ways.
    · obtain ⟨inside, rfl⟩ : ∃ inside, ahead = '"' :: inside := by
        cases ahead with
        | nil => exact absurd Stops.nil noMark
        | cons c inside =>
            obtain rfl : c = '"' := by simpa [Stops.cons_iff] using noMark
            exact ⟨inside, rfl⟩
      rcases textBody_of_not_startsQuotation noText with
        ⟨body, content, after, rfl, inBody, uncoded⟩ | ⟨content, inBody⟩
      · exact congrArg Outcome.verdict (firstIn_of_text other (text_uncoded inBody uncoded))
      · exact congrArg Outcome.verdict (firstIn_of_text other (text_unclosed inBody))

end Reader

/-! ## The plain reader -/

namespace Entry

open Reader

variable {source : String} {maxDepth : Int}

/-- The plain reader comes to what its literals come to. -/
lemma read_plain_eq : Entry.expression.read ⟨false, false, maxDepth⟩ source =
    conclude ⟨false, false, maxDepth⟩ source.toList
      (Literal.firstIn Literal.inOrder source.toList) := by
  rw [← expression_plain (Options.room ⟨false, false, maxDepth⟩ 0)]
  rfl

lemma read_plain_of_missing {log : Furthest}
    (missing : (Literal.firstIn Literal.inOrder source.toList : Outcome Furthest Datum) =
      ⟨.missing, log⟩) :
    Entry.expression.read ⟨false, false, maxDepth⟩ source =
      .error (.ofFurthest source.toList log) := by
  simp [read_plain_eq, missing, conclude]

lemma exists_read_plain_iff : (∃ datum length,
      Entry.expression.read ⟨false, false, maxDepth⟩ source = .ok (datum, length)) ↔
    ¬ Misses (Literal.firstIn Literal.inOrder : Reader Furthest Datum) source.toList := by
  constructor
  · rintro ⟨datum, length, found⟩ missing
    rw [read_plain_of_missing missing.outcome_eq] at found
    cases found
  · intro present
    rcases Shallow.verdict_cases (Literal.firstIn Literal.inOrder : Reader Furthest Datum)
      source.toList with ⟨front, rest, datum, split, found⟩ | missing
    · rw [Reads, ← split] at found
      exact ⟨datum, front.length, by simp [read_plain_eq, conclude, found]⟩
    · exact absurd missing present

/-- What the plain reader reads, and what it says of all other texts.  It reads a text that starts
with a letter, a symbol or a digit or with a whole text in quotation marks.  Where another
character or none is in front, five things were wanted there.  Behind a quotation mark that starts
no whole text, an escape code was wanted behind the first backslash that has none, or else a
quotation mark at the end. -/
theorem read_plain (source : String) (maxDepth : Int) :
    ((∃ datum length, Entry.expression.read ⟨false, false, maxDepth⟩ source = .ok (datum, length)) ↔
      (∃ c ∈ source.toList.head?, isAtomChar c = true) ∨ StartsQuotation source.toList) ∧
    ((∀ c ∈ source.toList.head?, isAtomChar c = false ∧ c ≠ '"') →
      Entry.expression.read ⟨false, false, maxDepth⟩ source = .error ⟨source.toList, 0,
        .unexpected (.ofList ["'\"'", "'#'", "'#\\\\'", "digit", "letter or symbol"])⟩) ∧
    ∀ inside, source.toList = '"' :: inside → ¬ StartsQuotation source.toList →
      (∀ body content after, inside = body ++ '\\' :: after → TextBody body content →
        Uncoded after →
        Entry.expression.read ⟨false, false, maxDepth⟩ source = .error ⟨source.toList,
          body.length + 2, .unexpected (.singleton "escape code")⟩) ∧
      ((¬ ∃ body content after, inside = body ++ '\\' :: after ∧ TextBody body content ∧
          Uncoded after) →
        Entry.expression.read ⟨false, false, maxDepth⟩ source = .error ⟨source.toList,
          source.length, .unexpected (.singleton "'\"'")⟩) := by
  refine ⟨?_, ?_, ?_⟩
  · rw [exists_read_plain_iff, misses_literal_iff, not_and_or, not_not]
    simp [Stops]
  · intro other
    have noMark : Stops (fun c => c == '"') source.toList :=
      fun c first => by simp [(other c first).2]
    have noAtomChar : Stops isAtomChar source.toList := fun c first => (other c first).1
    have noText : (Literal.text.reader source.toList : Outcome Furthest Datum) =
        ⟨.missing, .missedAt 0 "'\"'"⟩ := reader_of_stops noAtomChar fun _ => noMark
    rw [read_plain_of_missing (firstIn_of_stops noAtomChar noText)]
    rfl
  · intro inside split noText
    have noAtomChar : Stops isAtomChar ('"' :: inside) := Stops.cons rfl
    rw [split] at noText
    constructor
    · rintro body content after rfl inBody uncoded
      have missing := firstIn_of_text noAtomChar (text_uncoded inBody uncoded)
      rw [← split] at missing
      exact read_plain_of_missing missing
    · intro coded
      rcases textBody_of_not_startsQuotation noText with bad | ⟨content, inBody⟩
      · exact absurd bad coded
      · have missing := firstIn_of_text noAtomChar (text_unclosed inBody)
        have length : source.length = inside.length + 1 := by
          rw [← String.length_toList, split, List.length_cons]
        rw [← split] at missing
        rw [read_plain_of_missing missing, length]
        rfl

/-- A truth value starts `#true`, the form `(a)` is not read, the code of `"\q` is none, and `"ab`
misses its end. -/
theorem read_plain_texts :
    (∃ datum length, Entry.expression.read ⟨false, false, 3⟩ "#true" = .ok (datum, length)) ∧
      Entry.expression.read ⟨false, false, 3⟩ "(a)" = .error ⟨"(a)".toList, 0,
        .unexpected (.ofList ["'\"'", "'#'", "'#\\\\'", "digit", "letter or symbol"])⟩ ∧
      Entry.expression.read ⟨false, false, 3⟩ "\"\\q" =
        .error ⟨"\"\\q".toList, 2, .unexpected (.singleton "escape code")⟩ ∧
      Entry.expression.read ⟨false, false, 3⟩ "\"ab" =
        .error ⟨"\"ab".toList, 3, .unexpected (.singleton "'\"'")⟩ := by
  have noText {inside : List Char} (noMark : '"' ∉ inside) : ¬ StartsQuotation ('"' :: inside) := by
    rintro ⟨body, content, rest, same, -⟩
    obtain ⟨-, rfl⟩ := List.cons.inj same
    simp at noMark
  have uncoded : Uncoded ['q'] := by
    rintro code first c escape
    obtain rfl : 'q' = code := Option.some.inj first
    cases escape
  refine ⟨(read_plain "#true" 3).1.mpr (.inl ⟨'#', rfl, rfl⟩), ?_, ?_, ?_⟩
  · refine (read_plain "(a)" 3).2.1 fun c first => ?_
    obtain rfl : '(' = c := Option.some.inj first
    exact ⟨rfl, by decide⟩
  · have behind := (read_plain "\"\\q" 3).2.2 ['\\', 'q'] rfl (noText (by decide))
    exact behind.1 [] [] ['q'] rfl .nil uncoded
  · refine ((read_plain "\"ab" 3).2.2 ['a', 'b'] rfl (noText (by decide))).2 ?_
    rintro ⟨body, content, after, same, -⟩
    have member : '\\' ∈ ['a', 'b'] := by
      rw [same]
      simp
    revert member
    decide

end Entry

end SExpr
