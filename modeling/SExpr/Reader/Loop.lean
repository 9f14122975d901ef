import SExpr.Reader.Basic

/-!
# Readers that use themselves

A sequence is an item and, behind white space, a sequence again.  Such a reader is given by a
*step* that says how it uses itself.  It is run by unrolling the step: once for every character
ahead and once more, which is as often as it can be needed if every use of itself lies behind at
least one character.

* `loop_eq` — the reader of a guarded step satisfies the equation that defines it.
* `bind_congr`, `orElse_congr` — what a reader comes to depends on its parts only through what
  they come to where it uses them; this is how a step is seen to be guarded.
-/

namespace SExpr.Reader

variable {L α : Type} [Log L]

/-- A reader that uses itself at most the given number of times, one inside the other. -/
def unrolled (step : Reader L α → Reader L α) : (times : Nat) → List Char → Outcome L α
  | 0, ahead => nowhere ahead
  | times + 1, ahead => step (unrolled step times) ahead

/-- The reader that uses itself in the way of a step. -/
def loop (step : Reader L α → Reader L α) : Reader L α := fun ahead =>
  unrolled step (ahead.length + 1) ahead

/-- A step is guarded if it uses the reader only where less text is ahead. -/
def Guarded (step : Reader L α → Reader L α) : Prop :=
  ∀ (p q : Reader L α) (ahead : List Char),
    (∀ later : List Char, later.length < ahead.length → p later = q later) →
      step p ahead = step q ahead

/-- Unrolling more often than there are characters ahead changes nothing. -/
theorem unrolled_eq {step : Reader L α → Reader L α} (guarded : Guarded step) :
    ∀ (m n : Nat) (ahead : List Char), ahead.length < m → ahead.length < n →
      unrolled step m ahead = unrolled step n ahead := by
  intro m
  induction m with
  | zero => intro n ahead enough _; exact absurd enough (Nat.not_lt_zero _)
  | succ m ih =>
    intro n ahead enough enough'
    cases n with
    | zero => exact absurd enough' (Nat.not_lt_zero _)
    | succ n =>
      exact guarded _ _ _ fun later shorter => ih n later (by omega) (by omega)

theorem loop_eq {step : Reader L α → Reader L α} (guarded : Guarded step) :
    loop step = step (loop step) := by
  funext ahead
  exact guarded _ _ _ fun later shorter =>
    unrolled_eq guarded _ _ later shorter (Nat.lt_succ_self _)

/-! ## Guarded steps -/

variable {β : Type}

theorem bind_congr {p q : Reader L α} {f g : α → Reader L β} {ahead : List Char}
    (first : p ahead = q ahead)
    (next : ∀ (value : α) (later : List Char), later.length ≤ ahead.length →
      f value later = g value later) :
    (p >>= f) ahead = (q >>= g) ahead := by
  show andThen p f ahead = andThen q g ahead
  simp only [andThen, first]
  split
  · rw [next _ _ (by rw [List.length_drop]; omega)]
  · rfl
  · rfl

theorem orElse_congr {p q r s : Reader L α} {ahead : List Char} (first : p ahead = q ahead)
    (second : r ahead = s ahead) : (p <|> r) ahead = (q <|> s) ahead := by
  show orElse p (fun _ => r) ahead = orElse q (fun _ => s) ahead
  simp only [orElse, first, second]

end SExpr.Reader
