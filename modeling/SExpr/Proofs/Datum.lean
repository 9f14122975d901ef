import Mathlib.Tactic.Lemma
import SExpr.Datum.Equality

/-!
# Data as trees

What the height of a datum, its equality and the infinities in it come to for a list or a dotted
pair, by what they are for the data inside.

* `heights_lt_iff`, `height_list_le_iff`, `height_dotted_le_iff` — a limit on the height of a tree
  is a limit on the heights of what is inside.
* `holdsInfinity` — whether some double in a datum is infinite.
* `induction` — what holds of leaves and is passed on from the data inside holds of all data.
-/

namespace SExpr.Datum

/-- Induction on a datum, where all items of a list or a dotted pair may be assumed of. -/
theorem induction {P : Datum → Prop} (leaf : ∀ datum, datum.isLeaf = true → P datum)
    (list : ∀ items, (∀ item ∈ items, P item) → P (.list items))
    (dotted : ∀ items tail, (∀ item ∈ items, P item) → P tail → P (.dotted items tail))
    (datum : Datum) : P datum :=
  @Datum.rec P (fun items => ∀ item ∈ items, P item) (fun name => leaf (.atom name) rfl) list dotted
    (fun value => leaf (.integer value) rfl) (fun value => leaf (.text value) rfl)
    (fun value => leaf (.boolean value) rfl) (fun value => leaf (.character value) rfl)
    (fun value => leaf (.float value) rfl) (fun value => leaf (.ratio value) rfl)
    (fun real imaginary => leaf (.complex real imaginary) rfl) (fun _ none => nomatch none)
    (fun _ _ first rest => List.forall_mem_cons.mpr ⟨first, rest⟩) datum

/-! ## Heights -/

lemma heights_lt_iff {data : List Datum} {n : Nat} :
    heights data < n ↔ 0 < n ∧ ∀ datum ∈ data, datum.height < n := by
  induction data with
  | nil => simp [heights]
  | cons first rest ih =>
      rw [heights, Nat.max_lt, ih, List.forall_mem_cons]
      constructor
      · rintro ⟨low, positive, others⟩
        exact ⟨positive, low, others⟩
      · rintro ⟨positive, low, others⟩
        exact ⟨low, positive, others⟩

lemma height_list_le_iff {data : List Datum} {n : Nat} :
    (Datum.list data).height ≤ n ↔ heights data < n := by
  rw [height]
  omega

lemma height_dotted_le_iff {data : List Datum} {tail : Datum} {n : Nat} :
    (Datum.dotted data tail).height ≤ n ↔ heights data < n ∧ tail.height < n := by
  rw [height]
  omega

lemma height_quote_le_iff {datum : Datum} {n : Nat} :
    datum.quote.height ≤ n ↔ datum.height < n := by
  simp only [quote, height, heights]
  omega

/-! ## Equality -/

lemma sameAll_self_iff {data : List Datum} :
    sameAll data data = true ↔ ∀ datum ∈ data, datum.same datum = true := by
  induction data with
  | nil => simp [sameAll]
  | cons first rest ih => rw [sameAll, Bool.and_eq_true, ih, List.forall_mem_cons]

/-! ## Infinities -/

mutual

/-- Whether some double in a datum is infinite: a float, or a part of a complex number. -/
def holdsInfinity : Datum → Bool
  | .list items => anyHoldsInfinity items
  | .dotted items tail => anyHoldsInfinity items || tail.holdsInfinity
  | .float value => value.isInfinite
  | .complex real imaginary => real.isInfinite || imaginary.isInfinite
  | _ => false

/-- Whether some double in some data is infinite. -/
def anyHoldsInfinity : List Datum → Bool
  | [] => false
  | first :: rest => first.holdsInfinity || anyHoldsInfinity rest

end

lemma anyHoldsInfinity_eq_false_iff {data : List Datum} :
    anyHoldsInfinity data = false ↔ ∀ datum ∈ data, datum.holdsInfinity = false := by
  induction data with
  | nil => simp [anyHoldsInfinity]
  | cons first rest ih => rw [anyHoldsInfinity, Bool.or_eq_false_iff, ih, List.forall_mem_cons]

end SExpr.Datum
