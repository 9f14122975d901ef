import SExpr.Counting
import SExpr.Proofs.Advances
import SExpr.Proofs.Expression
import SExpr.Proofs.Session.Attempt
import SExpr.Proofs.Session.Noting

/-!
# Counting comes to the same

A reader that counts its level on the spot comes to what the reader with room comes to, and is back
at its level when it does.  As many times as there are characters ahead and one more are enough for
that, whatever the limit is: a loop goes on only behind white space, and a nested expression has a
mark in front of it, so that less text is ahead at each turn and at each level.

The proofs follow the readers.  What has to be seen of each is where it uses itself or another one
less time: behind something that takes up text.

* `Counting.Settles bound depth q p` — on texts shorter than the bound `q` comes to what `p` comes
  to, and is back at its level.
* `Settles.bind`, `Settles.behind` — a sequence; behind what takes up text one character more is
  allowed.
* `Settles.loop` — a loop, from the equation that the reader satisfies.
* `settles_item` — nested expressions, by induction on the number of times.
* `Session.attemptCounting_recognizer`, `performAllCounting_eq` — an attempt, and some steps, with
  the counter of the session.
-/

namespace SExpr

namespace Counting

variable {L α β : Type} {bound bound' times : Nat} {depth : Int} {p : Reader L α}
  {q : Counting L α}

/-- On every text that is shorter than the bound the counting reader comes to what the other one
comes to, and leaves the counter where it found it. -/
def Settles (bound : Nat) (depth : Int) (q : Counting L α) (p : Reader L α) : Prop :=
  ∀ ahead : List Char, ahead.length < bound → q depth ahead = some ⟨p ahead, depth⟩

lemma Settles.mono (settles : Settles bound depth q p) (fewer : bound' ≤ bound) :
    Settles bound' depth q p :=
  fun ahead short => settles ahead (Nat.lt_of_lt_of_le short fewer)

lemma settles_plain (p : Reader L α) : Settles bound depth (plain p) p := fun _ _ => rfl

/-- A reader that is its own step settles with the loop of the step, if each turn allows one
character more than the turn after it. -/
lemma Settles.loop {step : Counting L α → Counting L α}
    (keeps : ∀ turns < times, ∀ again, Settles turns depth again p →
      Settles (turns + 1) depth (step again) p) : Settles times depth (loop step times) p := by
  induction times with
  | zero => exact fun ahead short => absurd short (Nat.not_lt_zero _)
  | succ times ih =>
      exact keeps times (Nat.lt_succ_self times) _
        (ih fun turns fewer => keeps turns (Nat.lt_succ_of_lt fewer))

variable [Log L]

/-! ## Sequence and choice -/

/-- A sequence settles where its first part does, if the second does behind that. -/
lemma andThen_eq {g : α → Counting L β} {f : α → Reader L β} {ahead : List Char}
    (first : q depth ahead = some ⟨p ahead, depth⟩)
    (next : ∀ a length, (p ahead).verdict = .found a length →
      g a depth (ahead.drop length) = some ⟨f a (ahead.drop length), depth⟩) :
    (q >>= g) depth ahead = some ⟨(p >>= f) ahead, depth⟩ := by
  show andThen q g depth ahead = some ⟨Reader.andThen p f ahead, depth⟩
  simp only [andThen, Reader.andThen, first]
  cases outcome : p ahead with
  | mk verdict log =>
    rw [outcome] at next
    cases verdict with
    | found a length =>
        simp only [Option.bind_eq_bind, Option.bind_some, next a length rfl]
        rfl
    | missing => rfl
    | tooDeep offset => rfl

lemma Settles.bind {g : α → Counting L β} {f : α → Reader L β} (first : Settles bound depth q p)
    (next : ∀ a, Settles bound depth (g a) (f a)) : Settles bound depth (q >>= g) (p >>= f) := by
  intro ahead short
  refine andThen_eq (first ahead short) fun a length _ => next a _ ?_
  rw [List.length_drop]
  omega

/-- Behind what takes up text there is less of it. -/
lemma Settles.behind [Reader.Bounded p] [Reader.Advances p] {g : α → Counting L β}
    {f : α → Reader L β} (next : ∀ a, Settles bound depth (g a) (f a)) :
    Settles (bound + 1) depth (plain p >>= g) (p >>= f) := by
  intro ahead short
  refine andThen_eq rfl fun a length found => next a _ ?_
  have inside := Reader.Bounded.length_le found
  have some := List.length_pos_iff.mpr (Reader.Advances.nonempty (Reader.Bounded.reads found))
  rw [List.length_take] at some
  rw [List.length_drop]
  omega

lemma Settles.map (settles : Settles bound depth q p) (f : α → β) :
    Settles bound depth (f <$> q) (f <$> p) := by
  intro ahead short
  show mapped f q depth ahead = _
  simp only [mapped, settles ahead short]
  rfl

lemma Settles.orElse {r : Reader L α} {s : Counting L α} (first : Settles bound depth q p)
    (second : Settles bound depth s r) : Settles bound depth (q <|> s) (p <|> r) := by
  intro ahead short
  show Counting.orElse q (fun _ => s) depth ahead = some ⟨Reader.orElse p (fun _ => r) ahead, depth⟩
  simp only [Counting.orElse, Reader.orElse, first ahead short]
  cases p ahead with
  | mk verdict log =>
    cases verdict with
    | found a length => rfl
    | missing =>
        simp only [Option.bind_eq_bind, Option.bind_some, second ahead short]
        rfl
    | tooDeep offset => rfl

/-! ## One level further down -/

/-- Where the limit is reached there is no room, and the counter goes back at once. -/
lemma settles_refuse {maxDepth : Int} (full : maxDepth < depth + 1) :
    Settles bound depth (inside maxDepth q) Reader.refuse := by
  intro ahead _
  simp only [inside, if_pos full, Int.add_sub_cancel]

/-- Elsewhere it goes back when the reader comes back to the level below, whatever it came to. -/
lemma Settles.nested {maxDepth : Int} (free : ¬ maxDepth < depth + 1)
    (settles : Settles bound (depth + 1) q p) :
    Settles bound depth (inside maxDepth q) (Reader.nested p) := by
  intro ahead short
  simp only [inside, if_neg free, settles ahead short, Option.bind_eq_bind, Option.bind_some,
    Int.add_sub_cancel]
  rfl

/-! ## Composite expressions -/

section

variable {item : Reader L Datum} {counting : Counting L Datum}

lemma Settles.quoted (inside : Settles bound depth counting item) :
    Settles (bound + 1) depth (quoted counting) (Reader.quoted item) :=
  .behind fun _ => inside.bind fun _ => settles_plain _

/-- White space and more, or nothing more. -/
lemma Settles.more {none : α} (again : Settles bound depth q p) :
    Settles (bound + 1) depth ((do plain Reader.gap; q) <|> pure none)
      ((do Reader.gap; p) <|> pure none) :=
  .orElse (.behind fun _ => again) (settles_plain _)

lemma Settles.items (inside : Settles times depth counting item) :
    Settles times depth (items times counting) (Reader.items item) := by
  refine .loop fun turns fewer again settles => ?_
  rw [Reader.items_eq]
  exact (inside.mono fewer).bind fun _ => settles.more.bind fun _ => settles_plain _

lemma Settles.list (inside : Settles times depth counting item) :
    Settles times depth (list times counting) (Reader.list item) :=
  (inside.items.orElse (settles_plain _)).bind fun _ => settles_plain _

lemma Settles.spacedItems (inside : Settles times depth counting item) :
    Settles times depth (spacedItems times counting) (Reader.spacedItems item) := by
  refine .loop fun turns fewer again settles => ?_
  rw [Reader.spacedItems_eq]
  refine .orElse ((inside.mono fewer).bind fun _ => ?_) (settles_plain _)
  exact .behind fun _ => settles.bind fun _ => settles_plain _

lemma Settles.dottedTail (inside : Settles bound depth counting item) :
    Settles bound depth (dottedTail counting) (Reader.dottedTail item) :=
  (settles_plain _).bind fun _ => (settles_plain _).bind fun _ => inside

lemma Settles.dottedPair (inside : Settles times depth counting item) :
    Settles times depth (dottedPair times counting) (Reader.dottedPair item) :=
  inside.spacedItems.bind fun _ => inside.dottedTail.bind fun _ => settles_plain _

lemma Settles.form (inside : Settles times depth counting item) :
    Settles times depth (form times counting) (Reader.form item) := by
  refine .loop fun turns fewer again settles => ?_
  rw [Reader.form_eq]
  refine ((inside.mono fewer).dottedTail.map _).orElse ((inside.mono fewer).bind fun _ => ?_)
  exact settles.more.bind fun _ => settles_plain _

lemma Settles.formBody (inside : Settles times depth counting item) :
    Settles times depth (formBody times counting) (Reader.formBody item) :=
  (inside.form.orElse (settles_plain _)).bind fun _ => settles_plain _

lemma Settles.parenthesized (inside : Settles times depth counting item) :
    Settles (times + 1) depth (parenthesized times counting) (Reader.parenthesized item) :=
  .behind fun _ => inside.formBody.bind fun _ => (settles_plain _).bind fun _ =>
    (settles_plain _).bind fun _ => settles_plain _

lemma Settles.composite (allowed : Bool) (inside : Settles times depth counting item) :
    Settles (times + 1) depth (composite times allowed counting)
      (Reader.composite allowed item) := by
  cases allowed with
  | false => exact settles_plain _
  | true => exact inside.quoted.orElse (inside.parenthesized.orElse (settles_plain _))

lemma Settles.dispatch (composites : Bool) (inside : Settles times depth counting item) :
    Settles (times + 1) depth (dispatch times composites counting)
      (Reader.dispatch Literal.inOrder composites item) :=
  (settles_plain _).orElse (inside.composite composites)

end

/-! ## All levels -/

/-- Nested expressions settle: a turn less is left one level further down, where there is room for
one level less. -/
lemma settles_item (options : Options) (times : Nat) (depth : Int) :
    Settles times depth (item options.composites options.maxDepth times : Counting L Datum)
      (Reader.item options.composites (options.room depth)) := by
  induction times generalizing depth with
  | zero => exact fun ahead short => absurd short (Nat.not_lt_zero _)
  | succ times ih =>
      -- the counter is too high just where no room is left
      by_cases full : options.maxDepth < depth + 1
      · have none : options.room depth = 0 := by
          rw [Options.room]
          omega
        rw [none]
        exact settles_refuse full
      · have less : options.room depth = options.room (depth + 1) + 1 := by
          rw [Options.room, Options.room]
          omega
        rw [less]
        exact .nested full ((ih (depth + 1)).dispatch options.composites)

end Counting

namespace Recognizer

open Counting

variable {L : Type} [Log L]

lemma settles (recognizer : Recognizer) (options : Options) (times : Nat) (depth : Int) :
    Settles times depth
      (recognizer.counting options.composites options.maxDepth times : Counting L Datum)
      (recognizer.reader options.composites (options.room depth)) := by
  have inside : Settles times depth _ _ := settles_item (L := L) options times depth
  cases recognizer with
  | expression => exact (inside.dispatch options.composites).mono (Nat.le_succ times)
  | item => exact inside
  | list => exact inside.list
  | dottedPair => exact inside.dottedPair
  | quoted => exact inside.quoted.mono (Nat.le_succ times)
  | dottedTail => exact inside.dottedTail
  | formBody => exact inside.formBody
  | parenthesized => exact inside.parenthesized.mono (Nat.le_succ times)
  | _ => exact settles_plain _

end Recognizer

/-! ## Sessions -/

namespace Session

open Counting

variable {session : Session} {times : Nat}

/-- The counter of the session and the trace of a reader tell the same. -/
lemma attemptCounting_eq {α : Type} {p : Reader Trace α} {r : Reader Furthest α}
    {q : Counting Furthest α} {offset : Nat} (follows : Reader.Follows False Trace.Balanced p r)
    (settles : Settles times session.depth q r)
    (enough : session.source.length - offset < times) :
    session.attemptCounting q offset = some (session.attempt p offset) := by
  have short : (session.source.drop offset).length < times := by rwa [List.length_drop]
  rcases follows.agree (session.source.drop offset) with ⟨⟨⟩, -⟩ | ⟨verdicts, balanced⟩
  simp only [attemptCounting, attempt, settles _ short, Option.bind_eq_bind, Option.bind_some,
    verdicts, balanced.nesting_eq, Int.add_zero]
  rw [balanced]
  rfl

lemma attemptCounting_recognizer (recognizer : Recognizer) {offset : Nat}
    (enough : session.source.length - offset < times) :
    session.attemptCounting (recognizer.counting session.options.composites
        session.options.maxDepth times) offset =
      some (session.attempt (session.reader recognizer) offset) :=
  attemptCounting_eq (recognizer.follows _ _)
    (recognizer.settles session.options times session.depth) enough

lemma performCounting_eq (enough : session.source.length < times) (step : Step) :
    session.performCounting times step = some (session.perform step) := by
  have short (offset : Nat) : session.source.length - offset < times :=
    Nat.lt_of_le_of_lt (Nat.sub_le _ _) enough
  cases step with
  | recognize recognizer offset =>
      rw [performCounting, attemptCounting_recognizer recognizer (short offset)]
      rfl
  | scan primitive offset =>
      rw [performCounting, attemptCounting_eq (session.follows_scanner primitive offset)
        (settles_plain _) (short offset)]
      rfl
  | fail offset what => rfl
  | describe => rfl

/-- With as many times as there are characters and one more, some steps settle. -/
lemma performAllCounting_eq (enough : session.source.length < times) (steps : List Step) :
    session.performAllCounting times steps = some (session.performAll steps) := by
  induction steps generalizing session with
  | nil => rfl
  | cons step steps ih =>
      have same : (session.perform step).2.source = session.source := by rw [perform_snd]; rfl
      have others : (session.perform step).2.performAllCounting times steps =
          some ((session.perform step).2.performAll steps) := ih (by rwa [same])
      rw [performAllCounting, performCounting_eq enough]
      simp only [Option.bind_eq_bind, Option.bind_some, others]
      rfl

end Session

end SExpr
