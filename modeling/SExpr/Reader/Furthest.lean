import SExpr.Reader.Log

/-!
# The furthest failure

A message about a text that cannot be read speaks of the furthest place that any alternative
reached, and names all that was wanted there.  So of two failures the one further on is kept, and
two at the same place are united.

* `Expected` — a set of descriptions, kept in increasing order and without repetition, so that
  equal sets are equal lists.
* `Furthest` — no failure yet, or the furthest one.
* `Furthest.join` — two failures together; `Furthest.note`, a record with one more in it.
-/

namespace SExpr

/-- Descriptions of what was wanted at one place, in increasing order. -/
structure Expected where
  descriptions : List String
  increasing : descriptions.Pairwise (· < ·)
  deriving DecidableEq, Repr

namespace Expected

/-- A description put in its place among others. -/
def insertSorted (what : String) : List String → List String
  | [] => [what]
  | first :: rest =>
    if what < first then what :: first :: rest
    else if what = first then first :: rest
    else first :: insertSorted what rest

theorem mem_insertSorted {what other : String} {descriptions : List String} :
    other ∈ insertSorted what descriptions ↔ other = what ∨ other ∈ descriptions := by
  induction descriptions with
  | nil => simp [insertSorted]
  | cons first rest ih =>
    simp only [insertSorted]
    split
    · simp
    · split
      · next same => simp [same]
      · simp only [List.mem_cons, ih]
        exact or_left_comm

theorem pairwise_insertSorted {what : String} {descriptions : List String}
    (increasing : descriptions.Pairwise (· < ·)) :
    (insertSorted what descriptions).Pairwise (· < ·) := by
  induction descriptions with
  | nil => simp [insertSorted]
  | cons first rest ih =>
    obtain ⟨least, tail⟩ := List.pairwise_cons.mp increasing
    simp only [insertSorted]
    split
    · next before =>
      refine List.pairwise_cons.mpr ⟨fun other member => ?_, increasing⟩
      rcases List.mem_cons.mp member with rfl | later
      · exact before
      · exact String.lt_trans before (least other later)
    · next notBefore =>
      split
      · exact increasing
      · next different =>
        refine List.pairwise_cons.mpr ⟨fun other member => ?_, ih tail⟩
        rcases mem_insertSorted.mp member with rfl | later
        · exact Std.lt_of_le_of_ne (String.not_lt.mp notBefore) (Ne.symm different)
        · exact least other later

/-- No description. -/
def empty : Expected := ⟨[], .nil⟩

/-- One description. -/
def singleton (what : String) : Expected := ⟨[what], List.pairwise_singleton _ _⟩

/-- One description more. -/
def insert (expected : Expected) (what : String) : Expected :=
  ⟨insertSorted what expected.descriptions, pairwise_insertSorted expected.increasing⟩

/-- The descriptions of either set. -/
def union (a b : Expected) : Expected := b.descriptions.foldl insert a

/-- The set of some descriptions in any order. -/
def ofList (descriptions : List String) : Expected := descriptions.foldl insert empty

end Expected

/-- A place where nothing that was wanted stood, and all that was wanted there. -/
structure Failure where
  offset : Nat
  expected : Expected
  deriving DecidableEq, Repr

/-- The furthest failure so far, if there was one. -/
abbrev Furthest := Option Failure

namespace Furthest

/-- The further one of two failures; two at the same place are united. -/
def join : Furthest → Furthest → Furthest
  | none, b => b
  | a, none => a
  | some a, some b =>
    if a.offset < b.offset then some b
    else if b.offset < a.offset then some a
    else some ⟨a.offset, a.expected.union b.expected⟩

/-- A failure seen from further left. -/
def shift (distance : Nat) : Furthest → Furthest
  | none => none
  | some failure => some { failure with offset := distance + failure.offset }

/-- A failure at an offset. -/
def missedAt (offset : Nat) (what : String) : Furthest := some ⟨offset, .singleton what⟩

/-- A record in which one more failure is noted: a further one takes its place, and one at the same
place is added. -/
def note (record : Furthest) (offset : Nat) (what : String) : Furthest :=
  match record with
  | none => some ⟨offset, .singleton what⟩
  | some failure =>
    if failure.offset < offset then some ⟨offset, .singleton what⟩
    else if offset = failure.offset then some ⟨offset, failure.expected.insert what⟩
    else some failure

/-- Where the failure is; the beginning if there was none. -/
def offset : Furthest → Nat
  | none => 0
  | some failure => failure.offset

/-- What was wanted there. -/
def expected : Furthest → Expected
  | none => .empty
  | some failure => failure.expected

instance : Log Furthest where
  nothing := none
  join := join
  shift := shift
  missed := missedAt 0
  opened := none
  closed := none

end Furthest

end SExpr
