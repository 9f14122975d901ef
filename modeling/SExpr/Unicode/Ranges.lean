/-!
# Sets of code points given by ranges

A property of characters is written down as the list of the ranges of code points that have it,
in increasing order.  Order is what makes a lookup stop early: the first range that does not end
before the code point decides.

* `Ranges.contains_iff` — a lookup in an ordered list is membership in one of its ranges.
-/

namespace SExpr.Unicode

/-- Ranges of code points, each given by its first and its last member. -/
abbrev Ranges := List (Nat × Nat)

namespace Ranges

/-- Whether a code point lies in one of the ranges; the first range that reaches it decides. -/
def contains : Ranges → Nat → Bool
  | [], _ => false
  | (first, last) :: rest, n => if n ≤ last then decide (first ≤ n) else contains rest n

/-- Whether the ranges are nonempty, disjoint and in increasing order, none of them below the
code point `least`. -/
def orderedFrom (least : Nat) : Ranges → Bool
  | [] => true
  | (first, last) :: rest => decide (least ≤ first ∧ first ≤ last) && orderedFrom (last + 1) rest

/-- No member of ranges ordered from `least` is below `least`. -/
theorem le_of_orderedFrom {least n : Nat} :
    ∀ {ranges : Ranges}, orderedFrom least ranges = true →
      ∀ {range : Nat × Nat}, range ∈ ranges → range.1 ≤ n → least ≤ n
  | [], _, _, member, _ => by simp at member
  | (first, last) :: rest, ordered, range, member, below => by
    simp only [orderedFrom, Bool.and_eq_true, decide_eq_true_eq] at ordered
    rcases List.mem_cons.mp member with rfl | inRest
    · exact Nat.le_trans ordered.1.1 below
    · have later := le_of_orderedFrom ordered.2 inRest below
      omega

/-- In an ordered list the early decision is the right one. -/
theorem contains_iff {n : Nat} :
    ∀ {ranges : Ranges} {least : Nat}, orderedFrom least ranges = true →
      (contains ranges n = true ↔ ∃ range ∈ ranges, range.1 ≤ n ∧ n ≤ range.2)
  | [], _, _ => by simp [contains]
  | (first, last) :: rest, least, ordered => by
    have tail := ordered
    simp only [orderedFrom, Bool.and_eq_true, decide_eq_true_eq] at tail
    by_cases reached : n ≤ last
    · simp only [contains, reached, if_true, decide_eq_true_eq, List.mem_cons]
      constructor
      · exact fun below => ⟨(first, last), .inl rfl, below, reached⟩
      · rintro ⟨range, rfl | inRest, below, _⟩
        · exact below
        · have later := le_of_orderedFrom tail.2 inRest below
          omega
    · simp only [contains, reached, if_false, contains_iff tail.2, List.mem_cons]
      constructor
      · exact fun ⟨range, member, bounds⟩ => ⟨range, .inr member, bounds⟩
      · rintro ⟨range, rfl | inRest, below, above⟩
        · exact absurd above reached
        · exact ⟨range, inRest, below, above⟩

end Ranges

end SExpr.Unicode
