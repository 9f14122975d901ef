import SExpr.Proofs.Reader.Furthest
import SExpr.Proofs.Reader.Writes

/-!
# What a record points at

The furthest failure that readers leave lies in the text or at its end, something was wanted there,
and all that was wanted is what readers of characters want.  The end of the text is not among it: a
strict reading adds that itself, and only where it found something that goes no further.

* `Furthest.offset_join`, `offset_shift`, `mem_expected_join` — where two failures come to, where one
  lies that is seen from further left, and what is wanted there.
* `Furthest.Filled` — where there was a failure, something was wanted.
* `Furthest.Grounded left` — a record as readers leave it with `left` characters ahead.
* `Furthest.mem_join_missedAt` — when one more description is among those at the furthest place.
-/

namespace SExpr

namespace Furthest

variable {left : Nat} {a b : Furthest} {what : String}

/-! ## The furthest of two failures -/

lemma offset_join (a b : Furthest) : (a.join b).offset = max a.offset b.offset := by
  rcases a with _ | ⟨m, d⟩
  · exact (Nat.zero_max b.offset).symm
  rcases b with _ | ⟨n, e⟩
  · exact (Nat.max_zero m).symm
  show _ = max m n
  rcases Nat.lt_trichotomy m n with before | rfl | behind
  · rw [join_of_lt before, Nat.max_eq_right (Nat.le_of_lt before)]
    rfl
  · rw [join_of_eq, Nat.max_self]
    rfl
  · rw [join_of_gt behind, Nat.max_eq_left (Nat.le_of_lt behind)]
    rfl

/-- A failure that there is lies further on when it is seen from further left. -/
lemma offset_shift (failed : a ≠ none) (distance : Nat) :
    (a.shift distance).offset = distance + a.offset := by
  cases a with
  | none => exact absurd rfl failed
  | some failure => rfl

lemma mem_expected_join (member : what ∈ (a.join b).expected.descriptions) :
    what ∈ a.expected.descriptions ∨ what ∈ b.expected.descriptions := by
  rcases join_cases a b with same | same | ⟨n, d, e, rfl, rfl, same⟩
  · exact .inl (same ▸ member)
  · exact .inr (same ▸ member)
  · rw [same] at member
    exact Expected.mem_union.mp member

/-- A description that was not wanted before is among those at the furthest place if that is where
it is noted. -/
lemma mem_join_missedAt (new : what ∉ a.expected.descriptions) (offset : Nat) :
    what ∈ (a.join (missedAt offset what)).expected.descriptions ↔
      (a.join (missedAt offset what)).offset = offset := by
  have itself : what ∈ (Expected.singleton what).descriptions := List.mem_singleton_self what
  rcases a with _ | ⟨n, d⟩
  · exact iff_of_true itself rfl
  rw [missedAt]
  rcases Nat.lt_trichotomy n offset with before | rfl | behind
  · rw [join_of_lt before]
    exact iff_of_true itself rfl
  · rw [join_of_eq]
    exact iff_of_true (Expected.mem_union.mpr (.inr itself)) rfl
  · rw [join_of_gt behind]
    exact iff_of_false new (Nat.ne_of_gt behind)

/-! ## Something is wanted -/

/-- Where there was a failure, something was wanted. -/
def Filled (furthest : Furthest) : Prop := furthest ≠ none → furthest.expected.descriptions ≠ []

lemma filled_none : Filled none := fun failed => absurd rfl failed

lemma filled_missedAt (offset : Nat) (what : String) : Filled (missedAt offset what) :=
  fun _ => List.cons_ne_nil what []

lemma Filled.join (first : a.Filled) (second : b.Filled) : (a.join b).Filled := by
  rcases join_cases a b with same | same | ⟨n, d, e, rfl, rfl, same⟩
  · rwa [same]
  · rwa [same]
  · intro _
    obtain ⟨what, member⟩ := List.exists_mem_of_ne_nil _ (first (Option.some_ne_none _))
    rw [same]
    exact List.ne_nil_of_mem (Expected.mem_union.mpr (.inl member))

lemma Filled.shift (filled : a.Filled) (distance : Nat) : (a.shift distance).Filled := by
  rcases a with _ | failure
  · exact filled_none
  · exact fun _ => filled (Option.some_ne_none _)

/-! ## Grounded records -/

/-- With so many characters ahead the furthest failure is in the text or at its end, something was
wanted there, and nothing but what readers of characters may note. -/
structure Grounded (left : Nat) (furthest : Furthest) : Prop where
  offset_le : furthest.offset ≤ left
  filled : furthest.Filled
  wanted : ∀ what ∈ furthest.expected.descriptions, Wanted what

lemma grounded_none : Grounded left none where
  offset_le := Nat.zero_le left
  filled := filled_none
  wanted := nofun

lemma Grounded.join (first : a.Grounded left) (second : b.Grounded left) :
    (a.join b).Grounded left where
  offset_le := by
    rw [offset_join]
    exact Nat.max_le.mpr ⟨first.offset_le, second.offset_le⟩
  filled := first.filled.join second.filled
  wanted what member := (mem_expected_join member).elim (first.wanted what) (second.wanted what)

lemma Grounded.shift (grounded : a.Grounded left) (distance : Nat) :
    (a.shift distance).Grounded (distance + left) where
  offset_le := by
    rcases a with _ | failure
    · exact Nat.zero_le _
    · exact Nat.add_le_add_left grounded.offset_le distance
  filled := grounded.filled.shift distance
  wanted := by
    rcases a with _ | failure
    · exact nofun
    · exact grounded.wanted

lemma grounded_missed (what : String) [wanted : Wanted what] :
    (missedAt 0 what).Grounded left where
  offset_le := Nat.zero_le left
  filled := filled_missedAt 0 what
  wanted := List.forall_mem_singleton.mpr wanted

instance : Log.KeptNested Grounded where
  nothing _ := grounded_none
  join := Grounded.join
  shift distance grounded := grounded.shift distance
  missed _ what := grounded_missed what
  nested grounded := grounded_none.join (grounded.join grounded_none)
  refused _ := grounded_none.join grounded_none

/-- The end of the text is not among what is wanted. -/
lemma Grounded.endOfInput_notMem (grounded : a.Grounded left) :
    Entry.endOfInput ∉ a.expected.descriptions :=
  fun member => (grounded.wanted _ member).ne_endOfInput rfl

end Furthest

/-- What a reading of a text leaves is grounded in the text. -/
lemma Entry.grounded_log (entry : Entry) (options : Options) (source : List Char) :
    Furthest.Grounded source.length
      (entry.reader options.composites (options.room 0) source : Outcome Furthest Datum).log :=
  Reader.Writes.log source

end SExpr
