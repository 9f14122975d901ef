import Std.Data.HashMap.Basic

/-!
# Grouping things that are the same

To find, for each of many things, the first one that is the same, not every two of them need be
compared.  If things that are the same share a code, it is enough to look among the earlier ones
with the same code.  Of those, only the first of each kind are kept, in the order in which they
came, so what is found is the first that there is.

Nothing is asked of sameness besides the shared code; a thing that is not even the same as itself
stays alone.
-/

namespace SExpr

/-- Things met so far that were the same as none before them, by their code, with their index. -/
abbrev Buckets (α : Type) := Std.HashMap UInt64 (List (α × Nat))

/-- For each thing the index of the first one that is the same; things are numbered from `index`,
and `buckets` holds those met before. -/
def groupsFrom {α : Type} (same : α → α → Bool) (code : α → UInt64) (index : Nat)
    (buckets : Buckets α) : List α → List Nat
  | [] => []
  | x :: rest =>
    let bucket := buckets.getD (code x) []
    match bucket.find? fun entry => same entry.1 x with
    | some entry => entry.2 :: groupsFrom same code (index + 1) buckets rest
    | none =>
      index :: groupsFrom same code (index + 1)
        (buckets.insert (code x) (bucket ++ [(x, index)])) rest

/-- For each thing of a sequence the index of the first one that is the same; its own index if no
earlier one is. -/
def groups {α : Type} (same : α → α → Bool) (code : α → UInt64) (things : List α) : List Nat :=
  groupsFrom same code 0 ∅ things

end SExpr
