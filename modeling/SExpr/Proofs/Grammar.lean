import SExpr.Datum.Basic
import SExpr.Entry
import SExpr.Proofs.Reader.Runs

/-!
# The grammar of expressions

Which text stands for which datum, said without a reader: no order in which kinds of literals are
tried, no look-ahead, no depth.  The one condition that is not about the shape of a text is that of
atoms, which make room for the literals that start with a number sign.

* `Lexeme` — a text that is one literal.
* `Separated`, `Terminated`, `Sequence`, `DottedSequence` — items with white space between them
  or behind each, over any relation between texts and data.
* `Derives` — a text that is one expression.
* `Entry.Derives` — a text that is what an entry reads.

The sequences are relations of their own rather than part of a mutual definition, so that what
holds of them is proved once, by induction on the sequence alone.
-/

namespace SExpr

namespace Grammar

/-! ## Literals -/

/-- The codes that may follow a backslash, and the character that each stands for. -/
inductive Escape : Char → Char → Prop
  | backslash : Escape '\\' '\\'
  | quotationMark : Escape '"' '"'
  | lineFeed : Escape 'n' '\n'
  | carriageReturn : Escape 'r' '\r'
  | tab : Escape 't' '\t'

/-- What may stand between double quotation marks, and the characters that are meant. -/
inductive TextBody : List Char → List Char → Prop
  | nil : TextBody [] []
  | plain {c : Char} {body content : List Char} : c ≠ '\\' → c ≠ '"' → TextBody body content →
      TextBody (c :: body) (c :: content)
  | escape {code c : Char} {body content : List Char} : Escape code c → TextBody body content →
      TextBody ('\\' :: code :: body) (c :: content)

/-- The two truth values. -/
inductive Boolean : List Char → Bool → Prop
  | yes : Boolean ['#', 't'] true
  | no : Boolean ['#', 'f'] false

/-- A letter, or the name of one of the two characters that have names, in capitals or not. -/
inductive Character : List Char → Char → Prop
  | letter {c : Char} : Unicode.isLetter c = true → Character ['#', '\\', c] c
  | space {name : List Char} : name.map Char.toLower = "space".toList →
      Character ('#' :: '\\' :: name) ' '
  | newline {name : List Char} : name.map Char.toLower = "newline".toList →
      Character ('#' :: '\\' :: name) '\n'

/-- The letter that announces a radix. -/
def tag : Numeral.Radix → Char
  | .binary => 'b'
  | .octal => 'o'
  | .decimal => 'd'
  | .hexadecimal => 'x'

/-- An integer in the base that its tag tells. -/
inductive RadixInteger : List Char → Nat → Prop
  | mk (radix : Numeral.Radix) {digits : List Char} : IsRun radix.isDigit digits →
      RadixInteger ('#' :: tag radix :: digits) (Numeral.value radix.base digits)

/-- The literals that start with a number sign. -/
inductive Tagged : List Char → Datum → Prop
  | boolean {text : List Char} {value : Bool} : Boolean text value → Tagged text (.boolean value)
  | character {text : List Char} {c : Char} : Character text c → Tagged text (.character c)
  | radixInteger {text : List Char} {n : Nat} : RadixInteger text n → Tagged text (.integer n)

/-- A part of a complex number. -/
inductive Part : List Char → Binary64 → Prop
  | whole {digits : List Char} : IsRun Char.isDigit digits →
      Part digits (.ofNat (Numeral.value 10 digits))
  | decimal {whole fraction : List Char} : IsRun Char.isDigit whole →
      IsRun Char.isDigit fraction →
      Part (whole ++ '.' :: fraction) (.ofDecimal whole fraction)

/-- A text that is one literal. -/
inductive Lexeme : List Char → Datum → Prop
  /-- A run of atom characters, no beginning of which is a literal with a number sign. -/
  | atom {first : Char} {others : List Char} : isAtomStart first = true →
      (∀ c ∈ others, isAtomChar c = true) →
      (∀ (beginning : List Char) (datum : Datum), beginning <+: first :: others →
        ¬ Tagged beginning datum) →
      Lexeme (first :: others) (.atom (String.ofList (first :: others)))
  | text {body content : List Char} : TextBody body content →
      Lexeme ('"' :: (body ++ ['"'])) (.text (String.ofList content))
  | tagged {text : List Char} {datum : Datum} : Tagged text datum → Lexeme text datum
  | integer {digits : List Char} : IsRun Char.isDigit digits →
      Lexeme digits (.integer (Numeral.value 10 digits))
  | float {whole fraction : List Char} : IsRun Char.isDigit whole →
      IsRun Char.isDigit fraction →
      Lexeme (whole ++ '.' :: fraction) (.float (.ofDecimal whole fraction))
  /-- The ratio is as written; that it has a denominator at all excludes zero. -/
  | ratio {upper lower : List Char} {value : Ratio} : IsRun Char.isDigit upper →
      IsRun Char.isDigit lower → value.numerator = Numeral.value 10 upper →
      value.denominator = Numeral.value 10 lower →
      Lexeme (upper ++ '/' :: lower) (.ratio value)
  | complex {left right : List Char} {real imaginary : Binary64} : Part left real →
      Part right imaginary →
      Lexeme (left ++ '+' :: (right ++ ['i'])) (.complex real imaginary)

/-! ## White space and sequences -/

/-- At least one white space character. -/
abbrev Gap (text : List Char) : Prop := IsRun Unicode.isSpace text

/-- Any number of white space characters. -/
def Blank (text : List Char) : Prop := ∀ c ∈ text, Unicode.isSpace c = true

/-- One item or more with white space between them. -/
inductive Separated (R : List Char → Datum → Prop) : List Char → List Datum → Prop
  | single {text : List Char} {datum : Datum} : R text datum → Separated R text [datum]
  | cons {text space others : List Char} {datum : Datum} {data : List Datum} : R text datum →
      Gap space → Separated R others data →
      Separated R (text ++ (space ++ others)) (datum :: data)

/-- Any number of items with white space between them. -/
inductive Sequence (R : List Char → Datum → Prop) : List Char → List Datum → Prop
  | nil : Sequence R [] []
  | separated {text : List Char} {data : List Datum} : Separated R text data →
      Sequence R text data

/-- Any number of items with white space behind each. -/
inductive Terminated (R : List Char → Datum → Prop) : List Char → List Datum → Prop
  | nil : Terminated R [] []
  | cons {text space others : List Char} {datum : Datum} {data : List Datum} : R text datum →
      Gap space → Terminated R others data →
      Terminated R (text ++ (space ++ others)) (datum :: data)

/-- A point, white space and one item. -/
inductive PointedTail (R : List Char → Datum → Prop) : List Char → Datum → Prop
  | mk {space last : List Char} {tail : Datum} : Gap space → R last tail →
      PointedTail R ('.' :: (space ++ last)) tail

/-- Any number of items with white space behind each, and a tail behind a point. -/
inductive DottedSequence (R : List Char → Datum → Prop) : List Char → List Datum → Datum → Prop
  | mk {text pointed : List Char} {data : List Datum} {tail : Datum} : Terminated R text data →
      PointedTail R pointed tail → DottedSequence R (text ++ pointed) data tail

/-! ## Expressions -/

/-- A text that is one expression; without composite expressions only the literals are. -/
inductive Derives (composites : Bool) : List Char → Datum → Prop
  | lexeme {text : List Char} {datum : Datum} : Lexeme text datum → Derives composites text datum
  | quoted {text : List Char} {datum : Datum} : composites = true → Derives composites text datum →
      Derives composites ('\'' :: text) datum.quote
  | list {text blank : List Char} {data : List Datum} : composites = true →
      Sequence (Derives composites) text data → Blank blank →
      Derives composites ('(' :: (text ++ (blank ++ [')']))) (.list data)
  | dotted {text blank : List Char} {data : List Datum} {tail : Datum} : composites = true →
      DottedSequence (Derives composites) text data tail → Blank blank →
      Derives composites ('(' :: (text ++ (blank ++ [')']))) (.dotted data tail)

end Grammar

/-- A text that is what an entry reads.  All but the first read something composite themselves,
whether or not composite expressions are allowed inside. -/
inductive Entry.Derives (composites : Bool) : Entry → List Char → Datum → Prop
  | expression {text : List Char} {datum : Datum} : Grammar.Derives composites text datum →
      Entry.Derives composites .expression text datum
  | list {text : List Char} {data : List Datum} :
      Grammar.Sequence (Grammar.Derives composites) text data →
      Entry.Derives composites .list text (.list data)
  | dottedList {text : List Char} {data : List Datum} {tail : Datum} :
      Grammar.DottedSequence (Grammar.Derives composites) text data tail →
      Entry.Derives composites .dottedList text (.dotted data tail)
  | quoted {text : List Char} {datum : Datum} : Grammar.Derives composites text datum →
      Entry.Derives composites .quoted ('\'' :: text) datum.quote

namespace Grammar

/-- A leaf is derived as a lexeme only. -/
lemma Derives.lexeme_of_leaf {composites : Bool} {text : List Char} {leaf : Datum}
    (derives : Derives composites text leaf) (isLeaf : leaf.isLeaf = true) : Lexeme text leaf := by
  cases derives with
  | lexeme lexeme => exact lexeme
  | quoted _ _ => cases isLeaf
  | list _ _ _ => cases isLeaf
  | dotted _ _ _ => cases isLeaf

/-- A lexeme has nothing inside. -/
lemma Lexeme.height_eq {text : List Char} {datum : Datum} (lexeme : Lexeme text datum) :
    datum.height = 0 := by
  cases lexeme with
  | tagged literal => cases literal <;> rfl
  | _ => rfl

/-- Induction on a derivation: what holds of lexemes and is passed on from the items to what they
are in holds of all that is derived. -/
theorem Derives.induction {composites : Bool} {P : List Char → Datum → Prop}
    (lexeme : ∀ {text datum}, Lexeme text datum → P text datum)
    (quoted : ∀ {text datum}, composites = true → P text datum → P ('\'' :: text) datum.quote)
    (list : ∀ {text blank data}, composites = true → Sequence P text data → Blank blank →
      P ('(' :: (text ++ (blank ++ [')']))) (.list data))
    (dotted : ∀ {text blank data tail}, composites = true → DottedSequence P text data tail →
      Blank blank → P ('(' :: (text ++ (blank ++ [')']))) (.dotted data tail))
    {text : List Char} {datum : Datum} (derives : Derives composites text datum) :
    P text datum :=
  @Derives.rec composites (fun text datum _ => P text datum)
    (fun text data _ => Sequence P text data)
    (fun text data tail _ => DottedSequence P text data tail)
    (fun text data _ => Separated P text data) (fun text data _ => Terminated P text data)
    (fun text tail _ => PointedTail P text tail) lexeme (fun allowed _ => quoted allowed)
    (fun allowed _ space items => list allowed items space)
    (fun allowed _ space items => dotted allowed items space) .nil (fun _ => .separated)
    (fun _ _ => .mk) (fun _ => .single) (fun _ gap _ => fun first => .cons first gap) .nil
    (fun _ gap _ => fun first => .cons first gap) (fun gap _ => .mk gap) _ _ derives

/-- Whatever is derived is derived where composite expressions are allowed. -/
lemma Derives.allowing {composites : Bool} {text : List Char} {datum : Datum}
    (derives : Derives composites text datum) : Derives true text datum :=
  derives.induction (fun lexeme => .lexeme lexeme) (fun _ inside => .quoted rfl inside)
    (fun _ items space => .list rfl items space) (fun _ items space => .dotted rfl items space)

/-! ## Sequences over related relations -/

variable {R S : List Char → Datum → Prop} {text : List Char} {data : List Datum} {tail : Datum}

lemma Separated.mono (weaker : ∀ text datum, R text datum → S text datum)
    (separated : Separated R text data) : Separated S text data := by
  induction separated with
  | single item => exact .single (weaker _ _ item)
  | cons item gap _ ih => exact .cons (weaker _ _ item) gap ih

lemma Sequence.mono (weaker : ∀ text datum, R text datum → S text datum)
    (sequence : Sequence R text data) : Sequence S text data := by
  cases sequence with
  | nil => exact .nil
  | separated items => exact .separated (items.mono weaker)

lemma Terminated.mono (weaker : ∀ text datum, R text datum → S text datum)
    (terminated : Terminated R text data) : Terminated S text data := by
  induction terminated with
  | nil => exact .nil
  | cons item gap _ ih => exact .cons (weaker _ _ item) gap ih

lemma DottedSequence.mono (weaker : ∀ text datum, R text datum → S text datum)
    (dotted : DottedSequence R text data tail) : DottedSequence S text data tail := by
  obtain ⟨items, gap, last⟩ := dotted
  exact ⟨items.mono weaker, gap, weaker _ _ last⟩

/-- The items of a sequence are derived one by one. -/
lemma Separated.forall_mem {P : Datum → Prop} (each : ∀ text datum, R text datum → P datum)
    (separated : Separated R text data) : ∀ datum ∈ data, P datum := by
  induction separated with
  | single item => simpa using each _ _ item
  | cons item _ _ ih => exact List.forall_mem_cons.mpr ⟨each _ _ item, ih⟩

lemma Sequence.forall_mem {P : Datum → Prop} (each : ∀ text datum, R text datum → P datum)
    (sequence : Sequence R text data) : ∀ datum ∈ data, P datum := by
  cases sequence with
  | nil => simp
  | separated items => exact items.forall_mem each

lemma Terminated.forall_mem {P : Datum → Prop} (each : ∀ text datum, R text datum → P datum)
    (terminated : Terminated R text data) : ∀ datum ∈ data, P datum := by
  induction terminated with
  | nil => simp
  | cons item _ _ ih => exact List.forall_mem_cons.mpr ⟨each _ _ item, ih⟩

end Grammar

end SExpr
