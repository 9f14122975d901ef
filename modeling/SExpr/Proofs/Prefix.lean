import SExpr.Proofs.Acceptance

/-!
# What was read stands on its own

A reading that is not strict may leave a part of the text behind what it found.  The reader may have
looked into that part, to see that a run of characters does not go on or that no item follows, but
it has no share in the result: the part in front is read alone, strictly, and comes to the same.

That is no matter of course.  A text is cut where a reader gave something up: `1+2` is read as the
integer `1`, which is the only part of it that a strict reading would take.

* `Entry.read_take` — the part of the text that was read is read as the same datum.
-/

namespace SExpr.Entry

variable {entry : Entry} {options : Options} {source : String} {datum : Datum} {length : Nat}

/-- The part of the text where a datum was found is read strictly as the same datum, with the same
limit: nothing behind it took part in the result. -/
theorem read_take (found : entry.read options source = .ok (datum, length)) :
    entry.read { options with strict := true } (String.ofList (source.toList.take length)) =
      .ok (datum, length) := by
  obtain ⟨front, rest, split, rfl, -, reads⟩ := read_eq_ok_iff.mp found
  obtain ⟨derives, low⟩ := derives_of_reads reads
  rw [split, List.take_left]
  refine read_eq_ok_iff.mpr ⟨front, [], ?_, rfl, fun _ => rfl, ?_⟩
  · rw [String.toList_ofList, List.append_nil]
  · exact (answers derives Reader.Closes.nil).1 low

/-- A list ends where its last item does, even if that was read as the beginning of a complex number
and a further item was looked for. -/
theorem read_take_list :
    Entry.list.read { composites := true } "(a) 1+2 (b" =
        .ok (.list [.list [.atom "a"], .integer 1], 5) ∧
      Entry.list.read { strict := true, composites := true } "(a) 1" =
        .ok (.list [.list [.atom "a"], .integer 1], 5) := by
  have found : Entry.list.read { composites := true } "(a) 1+2 (b" =
      .ok (.list [.list [.atom "a"], .integer 1], 5) := by rfl
  exact ⟨found, read_take found⟩

end SExpr.Entry
