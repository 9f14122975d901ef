import Mathlib.Data.List.Sort
import Mathlib.Tactic.Lemma
import SExpr.Reader.Furthest

/-!
# Failures are joined in any order

Of several failures the furthest counts, and those at one place are united.  It makes no difference
in which order they are met: joining is commutative and associative, and no failure at all changes
nothing.

* `Expected.ext` — a set of descriptions is determined by its members, because the list is kept in
  order.
* `Furthest.join_comm`, `join_assoc` — the laws of the join.
* `Furthest.join_right_comm` — what two joined failures come to does not depend on their order; the
  form in which a sequence of steps needs it.
* `Furthest.shift_join`, `shift_shift` — failures seen from further left.
* `Furthest.note_eq_join` — noting one failure in a record joins the two; `note_shift`, that it makes
  no difference how far on the two are.
-/

namespace SExpr

namespace Expected

variable {a b c : Expected} {what : String}

/-! ## Sets of descriptions -/

/-- Sets with the same members are equal. -/
lemma ext (same : ∀ what, what ∈ a.descriptions ↔ what ∈ b.descriptions) : a = b := by
  obtain ⟨descriptions, increasing⟩ := a
  obtain ⟨descriptions', increasing'⟩ := b
  obtain rfl : descriptions = descriptions' := increasing.eq_of_mem_iff increasing' same
  rfl

lemma mem_insert {other : String} :
    what ∈ (a.insert other).descriptions ↔ what = other ∨ what ∈ a.descriptions :=
  mem_insertSorted

lemma mem_foldl_insert {descriptions : List String} :
    what ∈ (descriptions.foldl insert a).descriptions ↔
      what ∈ a.descriptions ∨ what ∈ descriptions := by
  induction descriptions generalizing a with
  | nil => simp
  | cons first rest ih =>
      rw [List.foldl_cons, ih, mem_insert, List.mem_cons]
      tauto

lemma mem_union : what ∈ (a.union b).descriptions ↔
    what ∈ a.descriptions ∨ what ∈ b.descriptions :=
  mem_foldl_insert

lemma mem_singleton {other : String} : what ∈ (singleton other).descriptions ↔ what = other :=
  List.mem_singleton

lemma mem_ofList {descriptions : List String} :
    what ∈ (ofList descriptions).descriptions ↔ what ∈ descriptions :=
  mem_foldl_insert.trans (by simp [empty])

lemma union_comm (a b : Expected) : a.union b = b.union a :=
  ext fun what => by rw [mem_union, mem_union, or_comm]

lemma union_assoc (a b c : Expected) : (a.union b).union c = a.union (b.union c) :=
  ext fun what => by rw [mem_union, mem_union, mem_union, mem_union, or_assoc]

end Expected

namespace Furthest

variable {a b c : Furthest}

/-! ## The laws of the join -/

lemma join_none (a : Furthest) : a.join none = a := by
  cases a <;> rfl

lemma none_join (a : Furthest) : join none a = a := rfl

section

variable {m n : Nat} {d e : Expected}

lemma join_of_lt (before : m < n) : join (some ⟨m, d⟩) (some ⟨n, e⟩) = some ⟨n, e⟩ := if_pos before

lemma join_of_gt (behind : n < m) : join (some ⟨m, d⟩) (some ⟨n, e⟩) = some ⟨m, d⟩ := by
  rw [join, if_neg (Nat.lt_asymm behind), if_pos behind]

lemma join_of_eq : join (some ⟨n, d⟩) (some ⟨n, e⟩) = some ⟨n, d.union e⟩ := by
  rw [join, if_neg (Nat.lt_irrefl n), if_neg (Nat.lt_irrefl n)]

end

/-- What was wanted at the beginning is of no account once anything was wanted further on. -/
lemma join_of_offset_pos (further : 0 < a.offset) (expected : Expected) :
    join (some ⟨0, expected⟩) a = a := by
  cases a with
  | none => exact absurd further (Nat.lt_irrefl 0)
  | some failure => exact join_of_lt further

lemma join_comm (a b : Furthest) : a.join b = b.join a := by
  rcases a with _ | ⟨m, d⟩
  · exact (join_none b).symm
  rcases b with _ | ⟨n, e⟩
  · rfl
  rcases Nat.lt_trichotomy m n with before | rfl | behind
  · rw [join_of_lt before, join_of_gt before]
  · rw [join_of_eq, join_of_eq, Expected.union_comm]
  · rw [join_of_gt behind, join_of_lt behind]

/-- Of three failures the furthest counts, and of those at its place all that was wanted does. -/
lemma join_assoc (a b c : Furthest) : (a.join b).join c = a.join (b.join c) := by
  rcases a with _ | ⟨l, d⟩
  · rfl
  rcases b with _ | ⟨m, e⟩
  · rfl
  rcases c with _ | ⟨n, f⟩
  · rw [join_none, join_none]
  rcases Nat.lt_trichotomy l m with first | rfl | first
  · rw [join_of_lt first]
    rcases Nat.lt_trichotomy m n with second | rfl | second
    · rw [join_of_lt second, join_of_lt (Nat.lt_trans first second)]
    · rw [join_of_eq, join_of_lt first]
    · rw [join_of_gt second, join_of_lt first]
  · rw [join_of_eq]
    rcases Nat.lt_trichotomy l n with second | rfl | second
    · rw [join_of_lt second, join_of_lt second, join_of_lt second]
    · rw [join_of_eq, join_of_eq, join_of_eq, Expected.union_assoc]
    · rw [join_of_gt second, join_of_gt second, join_of_eq]
  · rw [join_of_gt first]
    rcases Nat.lt_trichotomy m n with second | rfl | second
    · rw [join_of_lt second]
    · rw [join_of_eq, join_of_gt first, join_of_gt first]
    · rw [join_of_gt second, join_of_gt first, join_of_gt (Nat.lt_trans second first)]

/-- A record that holds a failure goes on holding one. -/
lemma join_ne_none (failed : a ≠ none) (b : Furthest) : a.join b ≠ none := by
  rcases a with _ | a
  · exact absurd rfl failed
  rcases b with _ | b
  · simp [join]
  rw [join]
  split_ifs <;> simp

lemma join_ne_none_right (a : Furthest) (failed : b ≠ none) : a.join b ≠ none := by
  rw [join_comm]
  exact join_ne_none failed a

/-- Two failures come to one of them or, at one place, to what both want there. -/
lemma join_cases (a b : Furthest) : a.join b = a ∨ a.join b = b ∨ ∃ n d e,
    a = some ⟨n, d⟩ ∧ b = some ⟨n, e⟩ ∧ a.join b = some ⟨n, d.union e⟩ := by
  rcases a with _ | ⟨m, d⟩
  · exact .inr (.inl rfl)
  rcases b with _ | ⟨n, e⟩
  · exact .inl rfl
  rcases Nat.lt_trichotomy m n with before | rfl | behind
  · exact .inr (.inl (join_of_lt before))
  · exact .inr (.inr ⟨m, d, e, rfl, rfl, join_of_eq⟩)
  · exact .inl (join_of_gt behind)

/-- What two failures leave of a record does not depend on which is met first. -/
lemma join_right_comm (a b c : Furthest) : (a.join b).join c = (a.join c).join b := by
  rw [join_assoc, join_comm b, join_assoc]

/-! ## Failures seen from further left -/

lemma shift_ne_none (failed : a ≠ none) (distance : Nat) : a.shift distance ≠ none := by
  cases a with
  | none => exact absurd rfl failed
  | some failure => exact Option.some_ne_none _

lemma shift_shift (m n : Nat) (a : Furthest) : (a.shift n).shift m = a.shift (m + n) := by
  rcases a with _ | ⟨offset, expected⟩
  · rfl
  · simp [shift, Nat.add_assoc]

lemma shift_join (distance : Nat) (a b : Furthest) :
    (a.join b).shift distance = (a.shift distance).join (b.shift distance) := by
  rcases a with _ | ⟨m, d⟩
  · rfl
  rcases b with _ | ⟨n, e⟩
  · rfl
  simp only [shift]
  rcases Nat.lt_trichotomy m n with before | rfl | behind
  · rw [join_of_lt before, join_of_lt (Nat.add_lt_add_left before distance)]
  · rw [join_of_eq, join_of_eq]
  · rw [join_of_gt behind, join_of_gt (Nat.add_lt_add_left behind distance)]

@[simp] lemma shift_missedAt (distance offset : Nat) (what : String) :
    (missedAt offset what).shift distance = missedAt (distance + offset) what := rfl

/-! ## One failure more -/

lemma note_eq_join (record : Furthest) (offset : Nat) (what : String) :
    record.note offset what = record.join (missedAt offset what) := by
  rcases record with _ | ⟨n, expected⟩
  · rfl
  rw [note, missedAt]
  rcases Nat.lt_trichotomy n offset with before | rfl | behind
  · rw [if_pos before, join_of_lt before]
  · rw [if_neg (Nat.lt_irrefl n), if_pos rfl, join_of_eq]
    rfl
  · rw [if_neg (Nat.lt_asymm behind), if_neg (Nat.ne_of_lt behind), join_of_gt behind]

/-- A failure is noted further on as it is noted here. -/
lemma note_shift (record : Furthest) (distance offset : Nat) (what : String) :
    (record.shift distance).note (distance + offset) what =
      (record.note offset what).shift distance := by
  rw [note_eq_join, note_eq_join, shift_join, shift_missedAt]

end Furthest

end SExpr
