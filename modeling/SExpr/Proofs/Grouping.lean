import Mathlib.Order.Bounds.Basic
import Mathlib.Tactic.Lemma
import Std.Data.HashMap.Lemmas
import SExpr.Grouping

/-!
# Looking among few finds what looking among all does

Whoever compares each thing with all those before it finds the first that is the same.  Among the
earlier ones with the same code only those were kept that were the same as none before them, so what
is found there is the same thing only under two conditions: things that are the same have to share
their code, or the first one may be in another bucket, and sameness has to be transitive, or the
first one may not have been kept.  It need be neither reflexive nor symmetric.

* `scannedGroups` — each thing compared with all those before it.
* `Buckets.Serves` — the invariant: the buckets find what a look at all things met so far would.
  `Serves.found` and `Serves.missed` are its two steps.
* `groups_eq_scannedGroups` — the induction over the things.
* `isLeast_of_scannedGroups` — what the comparison of all with all comes to.
-/

namespace SExpr

/-- For each thing the index of the first one before it that is the same, its own if none is, found
by comparing it with all of them. -/
def scannedGroups {α : Type} (same : α → α → Bool) (things : List α) : List Nat :=
  things.mapIdx fun index x => (things.take index).findIdx fun earlier => same earlier x

section

/- The things are of a type of their own and are seen as `view x` by sameness and code, of which
nothing is asked where there is no such thing. -/
variable {α β : Type} {same : β → β → Bool} {code : β → UInt64} {view : α → β}
  {buckets : Buckets β} {seen : List α} {x : α}

/-- What the bucket of a thing has for it. -/
abbrev Buckets.lookup (buckets : Buckets β) (same : β → β → Bool) (code : β → UInt64) (x : β) :
    Option (β × Nat) :=
  (buckets.getD (code x) []).find? fun entry => same entry.1 x

/-- Buckets serve for the things met so far if each thing finds in its bucket the index of the first
one that is the same. -/
def Buckets.Serves (same : β → β → Bool) (code : β → UInt64) (view : α → β) (buckets : Buckets β)
    (seen : List α) : Prop :=
  ∀ x, (buckets.lookup same code (view x)).map Prod.snd =
    seen.findIdx? fun earlier => same (view earlier) (view x)

namespace Buckets.Serves

lemma empty : Buckets.Serves same code view ∅ ([] : List α) := fun x => by
  simp [Buckets.lookup]

/-- A thing that was found need not be kept: what is the same as it is the same as what was
found. -/
lemma found (transitive : ∀ x y z, same (view x) (view y) = true →
      same (view y) (view z) = true → same (view x) (view z) = true)
    (serves : Buckets.Serves same code view buckets seen) {index : Nat}
    (first : seen.findIdx? (fun earlier => same (view earlier) (view x)) = some index) :
    Buckets.Serves same code view buckets (seen ++ [x]) := by
  intro y
  rw [serves y, List.findIdx?_append]
  cases earlier : seen.findIdx? (fun earlier => same (view earlier) (view y)) with
  | some place => simp
  | none =>
      have apart : same (view x) (view y) = false := by
        by_contra alike
        obtain ⟨within, before, -⟩ := List.findIdx?_eq_some_iff_getElem.mp first
        have whole := transitive _ _ _ before (Bool.of_not_eq_false alike)
        rw [List.findIdx?_eq_none_iff.mp earlier _ (List.getElem_mem within)] at whole
        cases whole
      simp [apart]

/-- A thing that was not found is kept in its own bucket, where all that are the same as it look. -/
lemma missed (coherent : ∀ x y, same (view x) (view y) = true → code (view x) = code (view y))
    (serves : Buckets.Serves same code view buckets seen) :
    Buckets.Serves same code view
      (buckets.insert (code (view x)) (buckets.getD (code (view x)) [] ++ [(view x, seen.length)]))
      (seen ++ [x]) := by
  intro y
  have before := serves y
  rw [Buckets.lookup] at before
  rw [Buckets.lookup, Std.HashMap.getD_insert, List.findIdx?_append, ← before]
  by_cases shared : code (view x) = code (view y)
  · rw [if_pos (beq_iff_eq.mpr shared), shared, List.find?_append, Option.map_or]
    by_cases alike : same (view x) (view y) = true <;> simp [alike]
  · have apart : same (view x) (view y) = false :=
      Bool.eq_false_iff.mpr fun alike => shared (coherent x y alike)
    simp [shared, apart]

end Buckets.Serves

/-- From buckets that serve for those met so far, the rest is grouped as if each thing were compared
with all before it.  The induction is on the rest, while what was met grows. -/
lemma groupsFrom_eq (transitive : ∀ x y z, same (view x) (view y) = true →
      same (view y) (view z) = true → same (view x) (view z) = true)
    (coherent : ∀ x y, same (view x) (view y) = true → code (view x) = code (view y))
    (serves : Buckets.Serves same code view buckets seen) (rest : List α) :
    groupsFrom same code seen.length buckets (rest.map view) = rest.mapIdx fun index x =>
      (seen ++ rest.take index).findIdx fun earlier => same (view earlier) (view x) := by
  induction rest generalizing seen buckets with
  | nil => rfl
  | cons x rest ih =>
      have looked := serves x
      have whole (index : Nat) : seen ++ (x :: rest).take (index + 1) =
          seen ++ [x] ++ rest.take index := by simp
      rw [List.map_cons, groupsFrom, List.mapIdx_cons]
      cases entry : buckets.lookup same code (view x) with
      | some entry' =>
          rw [entry, Option.map_some] at looked
          have first := (List.findIdx?_eq_some_iff_findIdx_eq.mp looked.symm).2
          have after := ih (serves.found transitive looked.symm)
          rw [List.length_append, List.length_singleton] at after
          simp only [Buckets.lookup] at entry
          simp only [entry, after, whole, List.take_zero, List.append_nil, first]
      | none =>
          rw [entry, Option.map_none] at looked
          have first : seen.findIdx (fun earlier => same (view earlier) (view x)) =
              seen.length := by
            rw [List.findIdx_eq_getD_findIdx?, ← looked, Option.getD_none]
          have after := ih (serves.missed coherent (x := x))
          rw [List.length_append, List.length_singleton] at after
          simp only [Buckets.lookup] at entry
          simp only [entry, after, whole, List.take_zero, List.append_nil, first]

/-- Grouping by codes is comparing all with all, if sameness is transitive and what is the same
shares its code. -/
lemma groups_eq_scannedGroups (view : α → β) (transitive : ∀ x y z, same (view x) (view y) = true →
      same (view y) (view z) = true → same (view x) (view z) = true)
    (coherent : ∀ x y, same (view x) (view y) = true → code (view x) = code (view y))
    (things : List α) : groups same code (things.map view) =
      scannedGroups (fun x y => same (view x) (view y)) things :=
  groupsFrom_eq transitive coherent .empty things

end

/-- Comparing all with all gives each thing the least index of one that is the same, or its own if
there is none before it. -/
lemma isLeast_of_scannedGroups {α : Type} {same : α → α → Bool} {things : List α} {index : Nat}
    {x : α} (here : things[index]? = some x) : ∃ first,
      (scannedGroups same things)[index]? = some first ∧
        IsLeast {place | place = index ∨ ∃ y ∈ things[place]?, same y x = true} first := by
  refine ⟨min index (things.findIdx fun y => same y x), ?_, ?_, ?_⟩
  · simp [scannedGroups, here, List.findIdx_take]
  · obtain ⟨inside, -⟩ := List.getElem?_eq_some_iff.mp here
    rcases Nat.le_total index (things.findIdx fun y => same y x) with own | earlier
    · exact .inl (Nat.min_eq_left own)
    · rw [Nat.min_eq_right earlier]
      have within := Nat.lt_of_le_of_lt earlier inside
      exact .inr ⟨_, List.getElem?_eq_getElem within, List.findIdx_getElem (w := within)⟩
  · rintro place (rfl | ⟨y, there, alike⟩)
    · exact Nat.min_le_left _ _
    · obtain ⟨inside, rfl⟩ := List.getElem?_eq_some_iff.mp there
      refine Nat.le_trans (Nat.min_le_right _ _) (Nat.le_of_not_lt fun before => ?_)
      rw [List.not_of_lt_findIdx before] at alike
      cases alike

end SExpr
