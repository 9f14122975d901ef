import SExpr.Proofs.Expression
import SExpr.Proofs.Parallel.Basic
import SExpr.Proofs.Printable

/-!
# What readers write

A reader can only add to a log, and only in a few ways.  So what each of these keeps holds of all
that readers leave behind, in every text and whatever they come to.  What holds of a log may depend
on how many characters are ahead of the reader that leaves it; further on there are fewer, and
readers go no further than the end of the text.

* `Wanted what` — a description that a reader of characters may note: it is printable, and it is
  not the end of the text, which no reader wants.
* `Log.Kept P` — all that readers of characters do with logs keeps `P`.
* `Log.KeptNested P` — and so does entering and leaving a nested expression.
* `Writes P p` — `P` holds of every log that `p` leaves.

What is built from the readers of characters is followed by looking at how it is built, so an
instance is all that has to be named.
-/

namespace SExpr

/-! ## Descriptions -/

/-- A description of something that a reader of characters may want. -/
class Wanted (what : String) : Prop extends Printable what where
  ne_endOfInput : what ≠ Entry.endOfInput

namespace Wanted

/-- The end of the text is not in quotation marks. -/
instance (text : String) : Wanted (Text.quoted text) where
  ne_endOfInput same := by
    have first := congrArg (fun what => what.toList.head?) same
    simp only [Text.quoted, Text.quotedChars, Text.quoteMark, String.toList_ofList] at first
    split at first <;> cases first

lemma of_all {what : String} (prints : what.toList.all Unicode.isPrintable = true)
    (text : what ≠ Entry.endOfInput) : Wanted what where
  isPrintable := List.all_eq_true.mp prints
  ne_endOfInput := text

instance : Wanted "digit" := .of_all rfl (by decide)

instance : Wanted "letter" := .of_all rfl (by decide)

instance : Wanted "character name" := .of_all rfl (by decide)

instance : Wanted "'t' or 'f'" := .of_all rfl (by decide)

instance : Wanted "radix tag" := .of_all rfl (by decide)

instance (radix : Numeral.Radix) : Wanted radix.digitName := by
  cases radix <;> exact .of_all rfl (by decide)

instance : Wanted "letter or symbol" := .of_all rfl (by decide)

instance : Wanted "letter, digit or symbol" := .of_all rfl (by decide)

instance : Wanted "escape code" := .of_all rfl (by decide)

instance : Wanted "non-zero denominator" := .of_all rfl (by decide)

instance : Wanted "whitespace" := .of_all rfl (by decide)

end Wanted

/-! ## Properties of logs -/

/-- A property of logs, given how many characters are ahead, that all that readers of characters do
with logs keeps. -/
class Log.Kept {L : Type} [Log L] (P : Nat → L → Prop) : Prop where
  nothing (left : Nat) : P left Log.nothing
  join {left : Nat} {a b : L} : P left a → P left b → P left (Log.join a b)
  shift {left : Nat} {a : L} (distance : Nat) :
    P left a → P (distance + left) (Log.shift distance a)
  missed (left : Nat) (what : String) [Wanted what] : P left (Log.missed what)

/-- One that entering and leaving a nested expression keeps as well. -/
class Log.KeptNested {L : Type} [Log L] (P : Nat → L → Prop) : Prop extends Log.Kept P where
  nested {left : Nat} {a : L} : P left a → P left (Log.join Log.opened (Log.join a Log.closed))
  refused (left : Nat) : P left (Log.join Log.opened Log.closed)

namespace Reader

variable {L α β : Type}

/-- The property holds of every log that the reader leaves. -/
class Writes (P : Nat → L → Prop) (p : Reader L α) : Prop where
  log : ∀ ahead, P ahead.length (p ahead).log

variable {P : Nat → L → Prop} [Log L]

/-! ## Sequence and choice -/

section

variable [kept : Log.Kept P]
include kept

/-- Further on fewer characters are ahead. -/
lemma shifted {ahead : List Char} {distance : Nat} {log : L} (inside : distance ≤ ahead.length)
    (written : P (ahead.drop distance).length log) : P ahead.length (Log.shift distance log) := by
  have moved := kept.shift distance written
  rwa [List.length_drop, Nat.add_sub_cancel' inside] at moved

/-- A failure lies no further on than the end of the text. -/
lemma log_failAt {ahead : List Char} {distance : Nat} (what : String) [Wanted what]
    (inside : distance ≤ ahead.length) :
    P ahead.length (failAt distance what ahead : Outcome L α).log :=
  shifted inside (kept.missed _ what)

instance (a : α) : Writes P (pure a : Reader L α) := ⟨fun _ => kept.nothing _⟩

instance (p : Reader L α) (f : α → Reader L β) [Bounded p] [first : Writes P p]
    [second : ∀ a, Writes P (f a)] : Writes P (p >>= f) where
  log ahead := by
    have written := first.log ahead
    cases outcome : p ahead with
    | mk verdict log =>
      rw [outcome] at written
      cases verdict with
      | found a length =>
          have inside := Bounded.length_le (congrArg Outcome.verdict outcome)
          rw [bind_found outcome]
          exact kept.join written (shifted inside ((second a).log _))
      | missing => rw [bind_missing outcome]; exact written
      | tooDeep offset => rw [bind_tooDeep outcome]; exact written

instance (p : Reader L α) (f : α → β) [inside : Writes P p] : Writes P (f <$> p) :=
  ⟨inside.log⟩

instance (p q : Reader L α) [first : Writes P p] [second : Writes P q] : Writes P (p <|> q) where
  log ahead := by
    have written := first.log ahead
    cases outcome : p ahead with
    | mk verdict log =>
      rw [outcome] at written
      cases verdict with
      | found a length => rw [orElse_found outcome]; exact written
      | missing => rw [orElse_missing outcome]; exact kept.join written (second.log ahead)
      | tooDeep offset => rw [orElse_tooDeep outcome]; exact written

instance : Writes P (nowhere : Reader L α) := ⟨fun _ => kept.nothing _⟩

instance : Writes P (firstOf [] : Reader L α) := inferInstanceAs (Writes P nowhere)

instance (p : Reader L α) (others : List (Reader L α)) [Writes P p]
    [Writes P (firstOf others)] : Writes P (firstOf (p :: others)) :=
  inferInstanceAs (Writes P (p <|> firstOf others))

omit kept in
lemma writes_loop {step : Reader L α → Reader L α} [Log.Kept P]
    (keeps : ∀ p : Reader L α, Bounded p → Writes P p → Bounded (step p) ∧ Writes P (step p)) :
    Writes P (loop step) where
  log ahead := by
    have unrolling : ∀ times, Bounded (unrolled step times : Reader L α) ∧
        Writes P (unrolled step times : Reader L α) := by
      intro times
      induction times with
      | zero => exact ⟨inferInstanceAs (Bounded nowhere), inferInstanceAs (Writes P nowhere)⟩
      | succ times ih => exact keeps _ ih.1 ih.2
    exact (unrolling _).2.log ahead

/-! ## Readers of characters -/

instance (text : String) : Writes P (token text : Reader L Unit) where
  log ahead := by
    rw [token]
    split
    · exact kept.nothing _
    · exact log_failAt _ (Nat.zero_le _)

instance (value? : Char → Option α) (what : String) [Wanted what] :
    Writes P (pick value? what : Reader L α) where
  log ahead := by
    rw [pick]
    split
    · exact kept.nothing _
    · exact log_failAt what (Nat.zero_le _)

instance (accept : Char → Bool) (what : String) [Wanted what] :
    Writes P (satisfy accept what : Reader L Char) :=
  inferInstanceAs (Writes P (pick _ _))

instance (accept : Char → Bool) (what : String) (atLeast : Nat) [Wanted what] :
    Writes P (many accept what atLeast : Reader L (List Char)) where
  log ahead := by
    simp only [many]
    split
    · exact log_failAt what (List.takeWhile_prefix accept).length_le
    · exact kept.nothing _

instance : Writes P (digits : Reader L (List Char)) := inferInstanceAs (Writes P (many _ _ _))

instance : Writes P (gap : Reader L Unit) := by
  unfold gap
  infer_instance

instance : Writes P (textBody : Reader L (List Char)) where
  log ahead := by
    rw [textBody]
    rcases scanTextBody_cases ahead with ⟨body, rest, meant, rfl, -, -, scan⟩ |
      ⟨body, rest, meant, rfl, -, -, scan⟩
    · rw [scan]
      exact kept.nothing _
    · rw [scan]
      exact log_failAt _ (by simp)

instance (p : Reader L α) (value? : α → Option β) (what : String) [Wanted what]
    [first : Writes P p] : Writes P (refine p value? what) where
  log ahead := by
    have written := first.log ahead
    rw [Reader.refine]
    cases outcome : p ahead with
    | mk verdict log =>
      rw [outcome] at written
      cases verdict with
      | missing => exact written
      | tooDeep offset => exact written
      | found raw length =>
          cases taken : value? raw with
          | some value => simp only [taken]; exact written
          | none => simp only [taken]; exact kept.join written (kept.missed _ what)

instance (p : Reader L α) [first : Writes P p] : Writes P (notAhead p) where
  log ahead := by
    rw [log_notAhead]
    exact first.log ahead

instance (called : List Char → Bool) (p : Reader L Unit) [first : Writes P p] :
    Writes P (checkWhen called p) where
  log ahead := by
    rw [checkWhen]
    split
    · exact first.log ahead
    · exact kept.nothing _

/-! ## Literals -/

instance : Writes P (boolean : Reader L Datum) := by unfold boolean; infer_instance

instance : Writes P (character : Reader L Datum) := by unfold character; infer_instance

instance : Writes P (radixInteger : Reader L Datum) := by unfold radixInteger; infer_instance

instance : Writes P (taggedLiteral : Reader L Datum) := by unfold taggedLiteral; infer_instance

instance : Writes P (atom : Reader L Datum) := by unfold atom; infer_instance

instance : Writes P (text : Reader L Datum) := by unfold text; infer_instance

instance : Writes P (natural : Reader L Nat) := by unfold natural; infer_instance

instance : Writes P (plainInteger : Reader L Datum) := by unfold plainInteger; infer_instance

instance : Writes P (integer : Reader L Datum) := by unfold integer; infer_instance

instance : Writes P (decimal : Reader L Binary64) := by unfold decimal; infer_instance

instance : Writes P (float : Reader L Datum) := by unfold float; infer_instance

instance : Writes P (ratio : Reader L Datum) := by unfold ratio; infer_instance

instance : Writes P (part : Reader L Part) := by unfold part; infer_instance

instance : Writes P (complex : Reader L Datum) := by unfold complex; infer_instance

instance (kind : Literal) : Writes P (kind.reader : Reader L Datum) := by
  cases kind <;> unfold Literal.reader <;> infer_instance

instance (order : List Literal) : Writes P (Literal.firstIn order : Reader L Datum) := by
  unfold Literal.firstIn
  induction order with
  | nil => exact inferInstanceAs (Writes P (firstOf []))
  | cons kind others ih => exact inferInstanceAs (Writes P (firstOf (kind.reader :: _)))

/-! ## Composite expressions -/

variable (item : Reader L Datum) [Bounded item] [Writes P item]

instance : Writes P (quoted item) := by unfold quoted; infer_instance

instance : Writes P (items item) := writes_loop fun _ _ _ => ⟨inferInstance, inferInstance⟩

instance : Writes P (list item) := by unfold list; infer_instance

instance : Writes P (spacedItems item) := writes_loop fun _ _ _ => ⟨inferInstance, inferInstance⟩

instance : Writes P (dottedTail item) := by unfold dottedTail; infer_instance

instance : Writes P (dottedPair item) := by unfold dottedPair; infer_instance

instance : Writes P (form item) := writes_loop fun _ _ _ => ⟨inferInstance, inferInstance⟩

instance : Writes P (formBody item) := by unfold formBody; infer_instance

instance : Writes P (parenthesized item) := by unfold parenthesized; infer_instance

instance (allowed : Bool) : Writes P (composite allowed item) := by
  unfold composite
  split <;> infer_instance

instance (order : List Literal) (allowed : Bool) : Writes P (dispatch order allowed item) := by
  unfold dispatch
  infer_instance

end

/-! ## All levels -/

variable [kept : Log.KeptNested P]

instance (p : Reader L α) [inside : Writes P p] : Writes P (nested p) :=
  ⟨fun ahead => kept.nested (inside.log ahead)⟩

instance : Writes P (refuse : Reader L α) := ⟨fun _ => kept.refused _⟩

instance (composites : Bool) (room : Nat) :
    Writes P (Reader.item composites room : Reader L Datum) := by
  induction room with
  | zero => exact inferInstanceAs (Writes P refuse)
  | succ room ih =>
      exact inferInstanceAs
        (Writes P (nested (dispatch Literal.inOrder composites (Reader.item composites room))))

instance (composites : Bool) (room : Nat) :
    Writes P (expression composites room : Reader L Datum) :=
  inferInstanceAs (Writes P (dispatch Literal.inOrder composites (Reader.item composites room)))

end Reader

namespace Entry

open Reader

variable {L : Type} [Log L] {P : Nat → L → Prop} [Log.KeptNested P]

instance (entry : Entry) (composites : Bool) (room : Nat) :
    Writes P (entry.reader composites room : Reader L Datum) := by
  cases entry <;> unfold Entry.reader <;> infer_instance

end Entry

end SExpr
