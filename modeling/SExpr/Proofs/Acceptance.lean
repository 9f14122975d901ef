import SExpr.Proofs.Expression

/-!
# The strict readings accept the grammar

A strict reading finds a datum in a text if the grammar derives the datum from the text as a whole
and the datum is no higher than the limit allows.  A limit below zero allows what zero does.

* `Entry.read_eq_ok_iff`, `Entry.readDatum_eq_ok_iff` — what any reading finds, strict or not, by
  the part of the text that was read.
* `Entry.read_eq_tooDeep_iff` — a reading is refused if its reader is.
* `Entry.readDatum_of_le`, `Entry.readDatum_of_lt` — what becomes of a derived text.
* `Datum.ofText_eq_ok_iff` — the strict reader of expressions accepts exactly the grammar.
-/

namespace SExpr

open Reader

/-- Levels are counted from the top. -/
lemma Options.room_zero (options : Options) : options.room 0 = options.maxDepth.toNat := by
  rw [Options.room, Int.sub_zero]

namespace Entry

variable {entry : Entry} {options : Options} {source : String} {datum : Datum}

/-- A reading finds a datum in the part of the text that the reader takes; a strict one wants
that to be the whole text. -/
lemma read_eq_ok_iff {length : Nat} : entry.read options source = .ok (datum, length) ↔
    ∃ front rest, source.toList = front ++ rest ∧ front.length = length ∧
      (options.strict = true → rest = []) ∧
      Reads (entry.reader options.composites (options.room 0) : Reader Furthest Datum) front rest
        datum := by
  rw [read, readChars, conclude]
  constructor
  · intro found
    cases verdict : (entry.reader options.composites (options.room 0) source.toList :
        Outcome Furthest Datum).verdict with
    | missing => simp [verdict] at found
    | tooDeep offset => simp [verdict] at found
    | found datum' length' =>
        simp only [verdict] at found
        split at found
        · cases found
        · next whole =>
            cases found
            have fits := Bounded.length_le verdict
            refine ⟨_, _, (List.take_append_drop length _).symm,
              List.length_take_of_le fits, fun strict => ?_, Bounded.reads verdict⟩
            rw [List.drop_eq_nil_iff]
            simp only [strict, true_and, ne_eq, Decidable.not_not] at whole
            omega
  · rintro ⟨front, rest, split, rfl, whole, found⟩
    rw [Reads, ← split] at found
    simp only [found]
    rw [if_neg]
    rintro ⟨strict, short⟩
    rw [split, whole strict, List.append_nil] at short
    exact short rfl

lemma readDatum_eq_ok_iff : entry.readDatum options source = .ok datum ↔
    ∃ front rest, source.toList = front ++ rest ∧ (options.strict = true → rest = []) ∧
      Reads (entry.reader options.composites (options.room 0) : Reader Furthest Datum) front rest
        datum := by
  constructor
  · intro found
    rw [readDatum] at found
    cases reading : entry.read options source with
    | error error => rw [reading] at found; cases found
    | ok result =>
        obtain ⟨datum', length⟩ := result
        rw [reading] at found
        cases found
        obtain ⟨front, rest, split, -, whole, reads⟩ := read_eq_ok_iff.mp reading
        exact ⟨front, rest, split, whole, reads⟩
  · rintro ⟨front, rest, split, whole, reads⟩
    rw [readDatum, read_eq_ok_iff.mpr ⟨front, rest, split, rfl, whole, reads⟩]
    rfl

/-- A literal is found at the front of a text; a strict reading wants nothing behind it. -/
lemma read_of_literal {front rest : List Char} (whole : options.strict = true → rest = [])
    (found : Reads (Literal.firstIn Literal.inOrder : Reader Furthest Datum) front rest datum) :
    Entry.expression.read options (String.ofList (front ++ rest)) = .ok (datum, front.length) :=
  read_eq_ok_iff.mpr
    ⟨front, rest, String.toList_ofList, rfl, whole, reads_orElse.mpr (.inl found)⟩

/-- What is found in a part of the text only is an error of a strict reading, though not one of the
limit. -/
lemma read_of_reads_part {front rest : List Char} (strict : options.strict = true)
    (split : source.toList = front ++ rest) (part : rest ≠ [])
    (found : Reads (entry.reader options.composites (options.room 0) : Reader Furthest Datum)
      front rest datum) :
    ∃ offset expected, entry.read options source =
      .error ⟨source.toList, offset, .unexpected expected⟩ := by
  have short : front.length ≠ source.toList.length := by simp [split, part]
  rw [Reads, ← split] at found
  simp [read, readChars, conclude, found, strict, short, ReadError.ofFurthest]

/-- A reading refuses a text by name of the limit just if its reader refuses it. -/
lemma read_eq_tooDeep_iff : (∃ offset, entry.read options source =
      .error ⟨source.toList, offset, .tooDeep options.maxDepth⟩) ↔
    Refuses (entry.reader options.composites (options.room 0) : Reader Furthest Datum)
      source.toList := by
  rw [read, readChars, conclude, Refuses]
  cases verdict : (entry.reader options.composites (options.room 0) source.toList :
      Outcome Furthest Datum).verdict with
  | missing => simp [ReadError.ofFurthest]
  | tooDeep offset => simp
  | found datum length =>
      simp only [reduceCtorEq, exists_const, iff_false, not_exists]
      intro offset
      split <;> simp [ReadError.ofFurthest]

/-- What is derived from a text and is not too high is found, by a strict reading and by others. -/
lemma readDatum_of_le (derives : entry.Derives options.composites source.toList datum)
    (low : datum.height ≤ options.maxDepth.toNat) :
    entry.readDatum options source = .ok datum := by
  refine readDatum_eq_ok_iff.mpr ⟨source.toList, [], by simp, fun _ => rfl, ?_⟩
  exact (answers derives Closes.nil).1 (by rw [Options.room_zero]; exact low)

/-- What is derived from a text and is too high is refused by name of the limit. -/
lemma readDatum_of_lt (derives : entry.Derives options.composites source.toList datum)
    (high : options.maxDepth.toNat < datum.height) :
    ∃ offset, entry.readDatum options source =
      .error ⟨source.toList, offset, .tooDeep options.maxDepth⟩ := by
  have refused : Refuses (entry.reader options.composites (options.room 0) :
      Reader Furthest Datum) (source.toList ++ []) :=
    (answers derives Closes.nil).2 (by rw [Options.room_zero]; omega)
  rw [List.append_nil] at refused
  obtain ⟨offset, reading⟩ := read_eq_tooDeep_iff.mpr refused
  exact ⟨offset, by rw [readDatum, reading]; rfl⟩

/-- What the strict reading finds is derived from the whole text and not too high. -/
lemma derives_of_readDatum (found : entry.readDatum options source = .ok datum)
    (strict : options.strict = true) :
    entry.Derives options.composites source.toList datum ∧
      datum.height ≤ options.maxDepth.toNat := by
  obtain ⟨front, rest, split, whole, reads⟩ := readDatum_eq_ok_iff.mp found
  rw [split, whole strict, List.append_nil, ← Options.room_zero]
  exact derives_of_reads reads

end Entry

lemma Entry.derives_expression_iff {composites : Bool} {text : List Char} {datum : Datum} :
    Entry.expression.Derives composites text datum ↔ Grammar.Derives composites text datum :=
  ⟨fun derives => by cases derives; assumption, .expression⟩

/-- The strict reader of expressions accepts exactly the grammar, up to the limit of nesting. -/
theorem Datum.ofText_eq_ok_iff (source : String) (composites : Bool) (maxDepth : Int)
    (datum : Datum) :
    Datum.ofText source { strict := true, composites, maxDepth } = .ok datum ↔
      Grammar.Derives composites source.toList datum ∧ datum.height ≤ maxDepth.toNat := by
  rw [← Entry.derives_expression_iff]
  constructor
  · intro found
    exact Entry.derives_of_readDatum found rfl
  · rintro ⟨derives, low⟩
    exact Entry.readDatum_of_le derives low

end SExpr
