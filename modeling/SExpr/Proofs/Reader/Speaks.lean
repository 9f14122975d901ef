import SExpr.Proofs.Expression
import SExpr.Proofs.Parallel.Basic
import SExpr.Proofs.Reader.Furthest

/-!
# Nothing is missed in silence

A reader that finds nothing should have said what it wanted, or a message would have nothing to
name. Not each reader does: one that makes sure that a thing is not ahead finds nothing where the
thing is, and has nothing to say about it.  So in front of `#t` the reader of atoms finds nothing
and leaves no failure.  But a choice has something to say as soon as one of its alternatives does,
and wherever literals are tried the reader of texts says that it wanted a quotation mark.

* `Speaks p` — where `p` finds nothing it leaves a failure.
* Each part of a sequence has to speak, and one alternative of a choice.
* What may be missing altogether, as the items of a dotted pair may, is never missed.
-/

namespace SExpr

namespace Reader

variable {α β : Type}

/-- Where the reader finds nothing it leaves a failure. -/
class Speaks (p : Reader Furthest α) : Prop where
  log_ne_none : ∀ {ahead}, Misses p ahead → (p ahead).log ≠ none

/-! ## Sequence and choice -/

/-- What never finds nothing has nothing to say. -/
lemma Speaks.of_not_misses {p : Reader Furthest α} (never : ∀ ahead, ¬ Misses p ahead) :
    Speaks p where
  log_ne_none missing := absurd missing (never _)

instance (a : α) : Speaks (pure a : Reader Furthest α) := .of_not_misses nofun

/-- Whichever part of a sequence finds nothing says so. -/
instance (p : Reader Furthest α) (f : α → Reader Furthest β) [Bounded p] [first : Speaks p]
    [second : ∀ a, Speaks (f a)] : Speaks (p >>= f) where
  log_ne_none {ahead} missing := by
    rcases Bounded.verdict_cases p ahead with ⟨front, rest, a, rfl, found⟩ | absent | refused
    · have later : Misses (f a) rest := found.misses_bind_iff.mp missing
      rw [log_bind_of_reads found]
      exact Furthest.join_ne_none_right _ (Furthest.shift_ne_none ((second a).log_ne_none later) _)
    · rw [log_bind_of_fails (.inl absent)]
      exact first.log_ne_none absent
    · exact absurd refused.bind missing.not_refuses

instance (p : Reader Furthest α) (f : α → β) [inside : Speaks p] : Speaks (f <$> p) where
  log_ne_none missing := inside.log_ne_none (misses_map.mp missing)

/-- Of two alternatives that both find nothing it is enough that the first says so. -/
instance (p q : Reader Furthest α) [first : Speaks p] : Speaks (p <|> q) where
  log_ne_none {ahead} missing := by
    have absent := (misses_orElse.mp missing).1
    rw [log_orElse_of_misses absent]
    exact Furthest.join_ne_none (first.log_ne_none absent) _

/-- Or that the second does. -/
instance (p q : Reader Furthest α) [second : Speaks q] : Speaks (p <|> q) where
  log_ne_none {ahead} missing := by
    obtain ⟨absent, absent'⟩ := misses_orElse.mp missing
    rw [log_orElse_of_misses absent]
    exact Furthest.join_ne_none_right _ (second.log_ne_none absent')

/-- One level further down the same is said. -/
instance (p : Reader Furthest α) [inside : Speaks p] : Speaks (nested p) where
  log_ne_none missing :=
    Furthest.join_ne_none_right none (Furthest.join_ne_none (inside.log_ne_none missing) none)

instance : Speaks (refuse : Reader Furthest α) := .of_not_misses nofun

/-! ## Readers of characters -/

instance (text : String) : Speaks (token text : Reader Furthest Unit) where
  log_ne_none {ahead} missing := by
    have noPrefix := mt List.isPrefixOf_iff_prefix.mp (misses_token.mp missing)
    rw [token, if_neg noPrefix]
    exact Option.some_ne_none _

instance (accept : Char → Bool) (what : String) (atLeast : Nat) :
    Speaks (many accept what atLeast : Reader Furthest (List Char)) where
  log_ne_none {ahead} missing := by
    simp only [Misses, many] at missing ⊢
    split at missing
    · next short =>
        rw [if_pos short]
        exact Option.some_ne_none _
    · cases missing

instance : Speaks (digits : Reader Furthest (List Char)) := inferInstanceAs (Speaks (many _ _ _))

/-- What is found and not taken is missing where it starts. -/
instance (p : Reader Furthest α) (value? : α → Option β) (what : String) [inside : Speaks p] :
    Speaks (refine p value? what) where
  log_ne_none {ahead} missing := by
    cases outcome : p ahead with
    | mk verdict log =>
      simp only [Misses, Reader.refine, outcome] at missing ⊢
      cases verdict with
      | missing =>
          have said := inside.log_ne_none (congrArg Outcome.verdict outcome)
          rwa [outcome] at said
      | tooDeep offset => cases missing
      | found raw length =>
          cases taken : value? raw with
          | some value =>
              simp only [taken] at missing
              cases missing
          | none =>
              simp only [taken]
              exact Furthest.join_ne_none_right log (Option.some_ne_none _)

instance : Speaks (gap : Reader Furthest Unit) := by
  unfold gap
  infer_instance

instance : Speaks (textBody : Reader Furthest (List Char)) where
  log_ne_none {ahead} missing := by
    rw [Misses, textBody] at missing
    rw [textBody]
    split at missing
    · cases missing
    · exact Option.some_ne_none _

/-! ## Numbers -/

instance : Speaks (natural : Reader Furthest Nat) := by unfold natural; infer_instance

instance : Speaks (decimal : Reader Furthest Binary64) := by unfold decimal; infer_instance

instance : Speaks (part : Reader Furthest Part) :=
  inferInstanceAs (Speaks (Part.decimal <$> decimal <|> firstOf _))

/-! ## Expressions -/

instance : Speaks (text : Reader Furthest Datum) := by
  unfold text
  infer_instance

/-- The reader of texts speaks for all literals. -/
instance : Speaks (Literal.firstIn Literal.inOrder : Reader Furthest Datum) :=
  inferInstanceAs (Speaks (atom <|> (text <|> firstOf _)))

instance (allowed : Bool) (item : Reader Furthest Datum) :
    Speaks (dispatch Literal.inOrder allowed item) := by
  unfold dispatch
  infer_instance

instance (composites : Bool) (room : Nat) :
    Speaks (Reader.item composites room : Reader Furthest Datum) := by
  cases room with
  | zero => exact inferInstanceAs (Speaks refuse)
  | succ room =>
      exact inferInstanceAs
        (Speaks (nested (dispatch Literal.inOrder composites (Reader.item composites room))))

/-! ## Composite expressions -/

variable (item : Reader Furthest Datum) [Bounded item] [Speaks item]

instance : Speaks (quoted item) := by unfold quoted; infer_instance

instance : Speaks (dottedTail item) := by unfold dottedTail; infer_instance

instance : Speaks (list item) := by unfold list; infer_instance

instance : Speaks (spacedItems item) := by rw [spacedItems_eq]; infer_instance

instance : Speaks (dottedPair item) := by unfold dottedPair; infer_instance

instance : Speaks (formBody item) := by unfold formBody; infer_instance

instance : Speaks (parenthesized item) := by unfold parenthesized; infer_instance

end Reader

open Reader

instance (entry : Entry) (composites : Bool) (room : Nat) :
    Speaks (entry.reader composites room : Reader Furthest Datum) := by
  cases entry <;> unfold Entry.reader
  · exact inferInstanceAs
      (Speaks (dispatch Literal.inOrder composites (Reader.item composites room)))
  all_goals infer_instance

end SExpr
