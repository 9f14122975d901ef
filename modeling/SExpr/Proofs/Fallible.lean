import SExpr.Fallible
import SExpr.Proofs.Binary64
import SExpr.Proofs.Reader.Runs

/-!
# Reading never breaks down

Every conversion is given what it takes, and every constructor gets parts that it accepts.  A reader
finds runs of digits only, so what is converted is a numeral, and a long one is cut before any piece
is too long; a number that is too large for a double counts as infinite; a character has one code
point because its name is looked up first; a denominator is compared with zero before a ratio is
built; and what stands inside a list is a datum, because every expression is one.

So each of the fallible readers is the reader that it goes back to, with the same logs.  The proofs
follow the readers: one lemma says this of a sequence, one of a choice, one of a loop, and the only
facts about characters are those about what may be converted.

* `Conversion.decimal_eq`, `tagged_eq`, `double_eq`, `part_eq` — the conversions.
* `Value.mapM_toDatum`, `list_eq`, `dotted_eq` — the constructors.
* `Fallible.sure f p` — what `p` finds, made into something else by `f`, and no breakdown.
* `Fallible.bind_sure`, `orElse_sure`, `loop_sure`, `refine_sure`, `notAhead_sure` — the
  combinators.
* `Fallible.expression_eq` — an expression is read without a breakdown.
* `Fallible.report_eq` — so is a whole text.
-/

namespace SExpr

/-! ## Conversions -/

lemma Binary64.eq_infinity {x : Binary64} (infinite : x.isInfinite = true) :
    x = infinity x.negative := by
  obtain ⟨negative, magnitude, magnitude_lt⟩ := x
  rw [isInfinite, beq_iff_eq] at infinite
  subst infinite
  rfl

namespace Conversion

open Numeral

/-- A run of digits is converted in one piece unless it is too long for that. -/
lemma inOnePiece_eq {radix : Radix} {text : List Char} (run : IsRun radix.isDigit text)
    (short : radix = .decimal → text.length ≤ pieceWidth) :
    inOnePiece radix text = .ok (value radix.base text) := by
  have numeral : ¬ (text = [] ∨ ¬ text.all radix.isDigit) := by
    rw [not_or, Decidable.not_not]
    exact ⟨run.1, List.all_eq_true.mpr run.2⟩
  have fits : ¬ (radix = .decimal ∧ pieceWidth < text.length) := by
    rintro ⟨decimal, long⟩
    exact absurd (short decimal) (Nat.not_le.mpr long)
  rw [inOnePiece, if_neg numeral, if_neg fits]

/-- Decimal digits are converted however many there are: both halves of a long run are shorter runs,
and the two numbers make up the whole one. -/
lemma decimal_eq {text : List Char} (run : IsRun Char.isDigit text) :
    decimal text = .ok (decimalValue text) := by
  rw [decimalValue_eq_value]
  fun_induction decimal text with
  | case1 text short => exact inOnePiece_eq run fun _ => short
  | case2 text long rest ihHigh ihLow =>
      have enough : 2 ≤ text.length := by
        rw [pieceWidth] at long
        omega
      have high : IsRun Char.isDigit (text.take (text.length / 2)) :=
        ⟨List.ne_nil_of_length_pos (by rw [List.length_take]; omega),
          fun c member => run.2 c (List.mem_of_mem_take member)⟩
      have low : IsRun Char.isDigit rest :=
        ⟨List.ne_nil_of_length_pos (by rw [List.length_drop]; omega),
          fun c member => run.2 c (List.mem_of_mem_drop member)⟩
      have whole : value 10 text =
          value 10 (text.take (text.length / 2)) * 10 ^ rest.length + value 10 rest := by
        rw [← value_append, List.take_append_drop]
      rw [ihHigh high, ihLow low, whole]
      rfl

lemma tagged_eq {radix : Radix} {text : List Char} (run : IsRun radix.isDigit text) :
    tagged radix text = .ok (radix.value text) := by
  cases radix with
  | decimal => exact decimal_eq run
  | binary => exact inOnePiece_eq run nofun
  | octal => exact inOnePiece_eq run nofun
  | hexadecimal => exact inOnePiece_eq run nofun

lemma double_eq {whole fraction : List Char} (wholeRun : IsRun Char.isDigit whole)
    (fractionRun : IsRun Char.isDigit fraction) :
    double (whole ++ '.' :: fraction) = .ok (.ofDecimal whole fraction) := by
  have front : (whole ++ '.' :: fraction).takeWhile Char.isDigit = whole :=
    takeWhile_append_eq_iff.mpr ⟨wholeRun.2, .cons rfl⟩
  have back : (whole ++ '.' :: fraction).dropWhile Char.isDigit = '.' :: fraction :=
    dropWhile_append_of_stops wholeRun.2 (.cons rfl)
  simp only [double, front, back]
  exact if_pos ⟨wholeRun.1, fractionRun.1, List.all_eq_true.mpr fractionRun.2⟩

/-- A part that is too large for a double is the infinity that it would be rounded to. -/
lemma part_eq (p : Reader.Part) : part p = .ok p.toBinary64 := by
  cases p with
  | decimal value => rfl
  | whole value =>
      rw [part, doubleOfNat, Reader.Part.toBinary64]
      by_cases infinite : (Binary64.ofNat value).isInfinite = true
      · rw [if_pos infinite, orInfinity, Binary64.eq_infinity infinite]
        rfl
      · rw [if_neg infinite, orInfinity]
        nofun

end Conversion

/-! ## Constructors -/

namespace Value

lemma mapM_toDatum (items : List Datum) : (items.map datum).mapM toDatum = .ok items := by
  induction items with
  | nil => rfl
  | cons first rest ih =>
      rw [List.map_cons, List.mapM_cons, ih]
      rfl

lemma list_eq (items : List Datum) : list (items.map datum) = .ok (.datum (.list items)) := by
  rw [list, mapM_toDatum]
  rfl

lemma dotted_eq (items : List Datum) (tail : Datum) :
    dotted (items.map datum) (.datum tail) = .ok (.datum (.dotted items tail)) := by
  rw [dotted, mapM_toDatum]
  rfl

lemma character_eq (c : Char) : character (String.singleton c) = .ok (.datum (.character c)) := by
  rw [character, String.toList_singleton]

lemma ratio_eq (numerator : Int) (denominator : { n : Int // n ≠ 0 }) :
    ratio numerator denominator =
      .ok (.datum (.ratio ⟨numerator, denominator, denominator.property⟩)) :=
  dif_pos denominator.property

end Value

/-! ## Combinators -/

lemma Verdict.map_shift {α β : Type} (f : α → β) (verdict : Verdict α) (distance : Nat) :
    (verdict.shift distance).map f = (verdict.map f).shift distance := by
  cases verdict <;> rfl

/-- The reader finds the value in some text. -/
def Reader.CanFind {L α : Type} (p : Reader L α) (a : α) : Prop :=
  ∃ ahead length, (p ahead).verdict = .found a length

namespace Fallible

variable {L α β γ δ : Type}

/-- What a reader finds, made into something else; nothing breaks down. -/
def sure (f : α → β) (p : Reader L α) : Fallible L β := Reader.mapped (fun a => .ok (f a)) p

lemma sure_apply (f : α → β) (p : Reader L α) (ahead : List Char) :
    sure f p ahead = ⟨(p ahead).verdict.map fun a => .ok (f a), (p ahead).log⟩ := rfl

lemma plain_refine {p : Reader L α} {value? : α → Option β} {g : β → γ} {what : String} [Log L] :
    plain (Reader.refine p (fun a => (value? a).map g) what) =
      sure g (Reader.refine p value? what) := by
  funext ahead
  simp only [plain, Reader.mapped, Reader.refine, sure_apply]
  cases outcome : p ahead with
  | mk verdict log =>
    cases verdict with
    | found a length => cases taken : value? a <;> simp [taken, Verdict.map]
    | missing => rfl
    | tooDeep offset => rfl

/-- Looking ahead breaks down only where the reader does that looks. -/
lemma notAhead_sure (f : α → β) (p : Reader L α) :
    notAhead (sure f p) = sure id (Reader.notAhead p) := by
  funext ahead
  simp only [notAhead, Reader.notAhead, sure_apply]
  cases outcome : p ahead with
  | mk verdict log => cases verdict <;> rfl

variable [Log L]

lemma build_ok {result : Except DraftError Value} {d : Datum} (built : result = .ok (.datum d)) :
    (build result : Fallible L Value) = sure .datum (pure d) := by
  rw [built]
  rfl

lemma map_plain (f : α → β) (p : Reader L α) : f <$> plain p = sure f p := by
  funext ahead
  show Reader.mapped (Except.map f) (Reader.mapped .ok p) ahead = _
  rw [sure_apply, Reader.mapped, Reader.mapped]
  cases (p ahead).verdict <;> rfl

/-- It makes no difference whether a value is made into something else as it is found or later. -/
lemma map_sure {f : α → β} {g : β → δ} {h : α → γ} {k : γ → δ} (same : ∀ a, g (f a) = k (h a))
    (p : Reader L α) : g <$> sure f p = sure k (h <$> p) := by
  funext ahead
  show Reader.mapped (Except.map g) (sure f p) ahead = sure k (Reader.mapped h p) ahead
  simp only [Reader.mapped, sure_apply]
  cases (p ahead).verdict with
  | found a length => simp only [Verdict.map, Except.map, same]
  | missing => rfl
  | tooDeep offset => rfl

/-- A sequence is sure if its first part is and the rest is, behind all that the first part can
find. -/
lemma bind_sure {f : α → β} {p : Reader L α} {next : β → Fallible L δ} {q : α → Reader L γ}
    {g : γ → δ} (rest : ∀ a, p.CanFind a → next (f a) = sure g (q a)) :
    (sure f p >>= next) = sure g (p >>= q) := by
  funext ahead
  show Reader.andThen (sure f p) _ ahead = sure g (Reader.andThen p q) ahead
  simp only [Reader.andThen, sure_apply]
  cases outcome : p ahead with
  | mk verdict log =>
    cases verdict with
    | found a length =>
        show (⟨(next (f a) _).verdict.shift length,
          Log.join log (Log.shift length (next (f a) _).log)⟩ : Outcome L _) = _
        rw [rest a ⟨ahead, length, by rw [outcome]⟩, sure_apply, Verdict.map_shift]
    | missing => rfl
    | tooDeep offset => rfl

/-- The value goes on unchanged to the rest, which is sure behind whatever is found. -/
lemma plain_bind {p : Reader L α} {next : α → Fallible L δ} {q : α → Reader L γ} {g : γ → δ}
    (rest : ∀ a, p.CanFind a → next a = sure g (q a)) : (plain p >>= next) = sure g (p >>= q) :=
  bind_sure rest

lemma orElse_sure (f : α → β) (p q : Reader L α) : (sure f p <|> sure f q) = sure f (p <|> q) := by
  funext ahead
  show Reader.orElse (sure f p) (fun _ => sure f q) ahead =
    sure f (Reader.orElse p fun _ => q) ahead
  simp only [Reader.orElse, sure_apply]
  cases outcome : p ahead with
  | mk verdict log => cases verdict <;> rfl

lemma firstOf_sure (f : α → β) (readers : List (Reader L α)) :
    firstOf (readers.map (sure f)) = sure f (Reader.firstOf readers) := by
  induction readers with
  | nil => rfl
  | cons p others ih =>
      show (sure f p <|> firstOf (others.map (sure f))) = sure f (p <|> Reader.firstOf others)
      rw [ih, orElse_sure]

lemma loop_sure {f : α → β} {step : Reader L α → Reader L α} {step' : Fallible L β → Fallible L β}
    (each : ∀ p, step' (sure f p) = sure f (step p)) : loop step' = sure f (Reader.loop step) := by
  have unrolling : ∀ times, (Reader.unrolled step' times : Reader L (Except Breakdown β)) =
      sure f (Reader.unrolled step times) := by
    intro times
    induction times with
    | zero => rfl
    | succ times ih => exact (congrArg step' ih).trans (each _)
  funext ahead
  exact congrFun (unrolling _) ahead

lemma nested_sure (f : α → β) (p : Reader L α) :
    Reader.nested (sure f p) = sure f (Reader.nested p) := rfl

lemma refine_sure {f : α → β} {p : Reader L α} {value? : α → Option γ}
    {value?' : β → Except Breakdown (Option δ)} {g : γ → δ} {what : String}
    (rest : ∀ a, p.CanFind a → value?' (f a) = .ok ((value? a).map g)) :
    refine (sure f p) value?' what = sure g (Reader.refine p value? what) := by
  funext ahead
  simp only [refine, Reader.refine, sure_apply]
  cases outcome : p ahead with
  | mk verdict log =>
    cases verdict with
    | found a length =>
        have same := rest a ⟨ahead, length, by rw [outcome]⟩
        simp only [Verdict.map, bind, Except.bind, same]
        cases value? a <;> rfl
    | missing => rfl
    | tooDeep offset => rfl

lemma checkWhen_sure (called : List Char → Bool) (check : Reader L Unit) :
    checkWhen called (sure id check) = sure id (Reader.checkWhen called check) := by
  funext ahead
  simp only [checkWhen, Reader.checkWhen, sure_apply]
  cases called ahead <;> rfl

/-! ## What can be found -/

lemma isRun_of_canFind {accept : Char → Bool} {what : String} {run : List Char}
    (found : (Reader.many accept what 1 : Reader L (List Char)).CanFind run) :
    IsRun accept run := by
  obtain ⟨ahead, length, found⟩ := found
  obtain ⟨rfl, isRun, -⟩ := Reader.reads_run.mp (Reader.Bounded.reads found)
  exact isRun

/-! ## Literals -/

lemma natural_eq : (natural : Fallible L Nat) = sure id Reader.natural :=
  plain_bind fun numeral found => by
    rw [Conversion.decimal_eq (isRun_of_canFind found)]
    rfl

lemma plainInteger_eq : (plainInteger : Fallible L Value) = sure .datum Reader.plainInteger := by
  rw [plainInteger, natural_eq]
  exact bind_sure fun value _ => rfl

lemma radixInteger_eq : (radixInteger : Fallible L Value) = sure .datum Reader.radixInteger :=
  plain_bind fun _ _ => plain_bind fun radix _ => plain_bind fun numeral found => by
    rw [Conversion.tagged_eq (isRun_of_canFind found)]
    rfl

lemma decimal_eq : (decimal : Fallible L Binary64) = sure id Reader.decimal :=
  plain_bind fun whole foundWhole => plain_bind fun _ _ => plain_bind fun fraction found => by
    rw [Conversion.double_eq (isRun_of_canFind foundWhole) (isRun_of_canFind found)]
    rfl

lemma float_eq : (float : Fallible L Value) = sure .datum Reader.float := by
  rw [float, decimal_eq]
  exact bind_sure fun value _ => rfl

lemma denominator?_eq {numeral : List Char} (run : IsRun Char.isDigit numeral) :
    denominator? numeral = .ok ((Reader.denominator? numeral).map Subtype.val) := by
  rw [denominator?, Conversion.decimal_eq run, Reader.denominator?]
  refine congrArg Except.ok ?_
  by_cases nonzero : (Numeral.decimalValue numeral : Int) ≠ 0
  · rw [if_pos nonzero, dif_pos nonzero]
    rfl
  · rw [if_neg nonzero, dif_neg nonzero]
    rfl

lemma ratio_eq : (ratio : Fallible L Value) = sure .datum Reader.ratio := by
  have denominator : refine (plain Reader.digits : Fallible L _) denominator?
      "non-zero denominator" = sure Subtype.val
        (Reader.refine Reader.digits Reader.denominator? "non-zero denominator") :=
    refine_sure fun numeral found => denominator?_eq (isRun_of_canFind found)
  rw [ratio, natural_eq, denominator]
  refine bind_sure fun numerator _ => plain_bind fun _ _ => bind_sure fun denominator _ => ?_
  exact build_ok (Value.ratio_eq _ denominator)

lemma part_eq : (part : Fallible L Reader.Part) = sure id Reader.part := by
  have decimal : Reader.Part.decimal <$> sure id (Reader.decimal : Reader L Binary64) =
      sure id (Reader.Part.decimal <$> Reader.decimal) := by
    refine map_sure ?_ _
    exact fun _ => rfl
  have whole : Reader.Part.whole <$> sure id (Reader.natural : Reader L Nat) =
      sure id (Reader.Part.whole <$> Reader.natural) := by
    refine map_sure ?_ _
    exact fun _ => rfl
  rw [part, decimal_eq, natural_eq, decimal, whole]
  exact firstOf_sure id
    [Reader.Part.decimal <$> Reader.decimal, Reader.Part.whole <$> Reader.natural]

lemma complex_eq : (complex : Fallible L Value) = sure .datum Reader.complex := by
  rw [complex, part_eq]
  refine bind_sure fun real _ => plain_bind fun _ _ => bind_sure fun imaginary _ =>
    plain_bind fun _ _ => ?_
  rw [Conversion.part_eq, Conversion.part_eq]
  rfl

lemma content?_eq (name : List Char) :
    content? name = (Reader.namedCharacter? name).map String.singleton := by
  dsimp only [content?, Reader.namedCharacter?]
  split
  · rfl
  split
  · rfl
  match name with
  | [] => rfl
  | [c] => rfl
  | _ :: _ :: _ => rfl

lemma character_eq : (character : Fallible L Value) = sure .datum Reader.character := by
  have name : plain (Reader.refine (Reader.many Unicode.isLetter "letter" 1) content?
      "character name" : Reader L String) = sure String.singleton
        (Reader.refine (Reader.many Unicode.isLetter "letter" 1) Reader.namedCharacter?
          "character name") := by
    rw [funext content?_eq, plain_refine]
  rw [character, name]
  exact plain_bind fun _ _ => bind_sure fun c _ => build_ok (Value.character_eq c)

lemma taggedLiteral_eq : (taggedLiteral : Fallible L Value) = sure .datum Reader.taggedLiteral := by
  rw [taggedLiteral, map_plain, character_eq, radixInteger_eq]
  exact firstOf_sure (L := L) Value.datum [Reader.boolean, Reader.character, Reader.radixInteger]

lemma atom_eq : (atom : Fallible L Value) = sure .datum Reader.atom := by
  rw [atom, taggedLiteral_eq, notAhead_sure, checkWhen_sure]
  exact bind_sure fun _ _ => plain_bind fun first _ => plain_bind fun rest _ => rfl

lemma literal_eq (kind : Literal) :
    (literal kind : Fallible L Value) = sure .datum kind.reader := by
  cases kind with
  | atom => exact atom_eq
  | text => exact map_plain _ _
  | character => exact character_eq
  | complex => exact complex_eq
  | float => exact float_eq
  | ratio => exact ratio_eq
  | integer =>
      rw [literal, plainInteger_eq, radixInteger_eq]
      exact firstOf_sure _ [Reader.plainInteger, Reader.radixInteger]
  | boolean => exact map_plain _ _

/-! ## Composite expressions -/

variable (item : Reader L Datum)

lemma quoted_eq : quoted (sure .datum item) = sure .datum (Reader.quoted item) :=
  plain_bind fun _ _ => bind_sure fun datum _ => build_ok (Value.list_eq [.atom "quote", datum])

lemma dottedTail_eq : dottedTail (sure .datum item) = sure .datum (Reader.dottedTail item) :=
  plain_bind fun _ _ => plain_bind fun _ _ => rfl

/-- The parts of a form as values. -/
def parts (form : Reader.Form) : List Value × Option Value :=
  (form.items.map .datum, form.tail.map .datum)

lemma form_eq : form (sure .datum item) = sure parts (Reader.form item) := by
  -- one use of the step, with a reader behind it that is sure
  refine loop_sure fun p => ?_
  have tail : (fun tail => ([], some tail)) <$> sure .datum (Reader.dottedTail item) =
      sure parts (Reader.Form.ofTail <$> Reader.dottedTail item) := by
    refine map_sure ?_ _
    exact fun _ => rfl
  have further : (do plain Reader.gap; sure parts p) = sure parts (do Reader.gap; p) :=
    plain_bind fun _ _ => rfl
  have rest : ((do plain Reader.gap; sure parts p) <|> pure ([], none) : Fallible L _) =
      sure parts ((do Reader.gap; p) <|> pure Reader.Form.empty) := by
    rw [further]
    exact orElse_sure parts (do Reader.gap; p) (pure Reader.Form.empty)
  rw [dottedTail_eq, tail, rest]
  have more : (do
      let first ← sure .datum item
      let rest ← sure parts ((do Reader.gap; p) <|> pure Reader.Form.empty)
      return (first :: rest.1, rest.2)) = sure parts (do
      let first ← item
      let rest ← (do Reader.gap; p) <|> pure Reader.Form.empty
      return rest.cons first) :=
    bind_sure fun first _ => bind_sure fun rest _ => rfl
  rw [more]
  exact orElse_sure parts (Reader.Form.ofTail <$> Reader.dottedTail item) _

lemma ofForm_eq (form : Reader.Form) : ofForm (parts form) = .ok (.datum form.toDatum) := by
  obtain ⟨items, tail⟩ := form
  cases tail with
  | none => exact Value.list_eq items
  | some tail => exact Value.dotted_eq items tail

lemma formBody_eq : formBody (sure .datum item) = sure .datum (Reader.formBody item) := by
  have body : (form (sure .datum item) <|> pure ([], none)) =
      sure parts (Reader.form item <|> pure Reader.Form.empty) := by
    rw [form_eq]
    exact orElse_sure parts (Reader.form item) (pure Reader.Form.empty)
  rw [formBody, body]
  exact bind_sure fun form _ => build_ok (ofForm_eq form)

lemma parenthesized_eq :
    parenthesized (sure .datum item) = sure .datum (Reader.parenthesized item) := by
  rw [parenthesized, formBody_eq]
  exact plain_bind fun _ _ => bind_sure fun _ _ => plain_bind fun _ _ => plain_bind fun _ _ => rfl

/-! ## Expressions -/

lemma dispatch_eq (composites : Bool) : dispatch composites (sure .datum item) =
    sure .datum (Reader.dispatch Literal.inOrder composites item) := by
  have literals : firstOf (Literal.inOrder.map literal) =
      sure .datum (Literal.firstIn Literal.inOrder : Reader L Datum) := by
    rw [List.map_congr_left fun kind _ => literal_eq kind, Literal.firstIn, ← firstOf_sure,
      List.map_map]
    rfl
  have composite : composite composites (sure .datum item) =
      sure .datum (Reader.composite composites item) := by
    cases composites with
    | false => rfl
    | true =>
        show firstOf [quoted (sure .datum item), parenthesized (sure .datum item)] = _
        rw [quoted_eq, parenthesized_eq]
        exact firstOf_sure _ [Reader.quoted item, Reader.parenthesized item]
  rw [dispatch, literals, composite, orElse_sure]
  rfl

/-- Expressions inside others are read without a breakdown, by induction on the levels that are
left. -/
lemma item_eq (composites : Bool) (room : Nat) :
    (Fallible.item composites room : Fallible L Value) =
      sure .datum (Reader.item composites room) := by
  induction room with
  | zero => rfl
  | succ room ih =>
      show Reader.nested (dispatch composites (Fallible.item composites room)) = _
      rw [ih, dispatch_eq, nested_sure]
      rfl

/-- What is read as an expression is what is read where nothing can break down. -/
lemma expression_eq (composites : Bool) (room : Nat) :
    (expression composites room : Fallible L Value) =
      sure .datum (Reader.expression composites room) := by
  rw [expression, item_eq, dispatch_eq]
  rfl

/-! ## Whole texts -/

omit [Log L] in
lemma settle_sure (p : Reader L Datum) (ahead : List Char) :
    settle (sure .datum p ahead) = .ok (p ahead) := by
  rw [sure_apply]
  cases p ahead with
  | mk verdict log => cases verdict <;> rfl

lemma read_eq (options : Options) (source : String) :
    read options source = .ok (Entry.expression.read options source) := by
  rw [read, expression_eq, settle_sure]
  rfl

/-- The report about a text is given without a breakdown. -/
lemma report_eq (source : String) (options : Options) :
    report source options = .ok (SExpr.report source options) := by
  rw [report, read_eq]
  rfl

end Fallible

end SExpr
