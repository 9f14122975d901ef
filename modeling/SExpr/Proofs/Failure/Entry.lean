import SExpr.Proofs.Acceptance
import SExpr.Proofs.Failure.Expression

/-!
# Failures of the readings

A failed reading points at a place up to which the text can still be saved: what stands in front of
it begins a text that the same entry reads strictly, under the same limit.  A strict reading that
found something may add the end of what it found, and up to there the text is read as it stands.

There is one exception.  A quoted expression is one level deep already, so where the limit allows no
level none can be read; and the reader that is not even given an apostrophe says that it wants one.

* `Entry.viable` — the failures of every entry, given that there is room for something it reads.
* `Entry.exists_readDatum_iff` — the text up to a failure can be saved, but for the one exception.
-/

namespace SExpr

open Grammar Reader

namespace Entry

/-- What an entry reads if no more than so many levels are allowed. -/
def Fits (entry : Entry) (composites : Bool) (room : Nat) (text : List Char) (datum : Datum) :
    Prop :=
  entry.Derives composites text datum ∧ datum.height ≤ room

variable {entry : Entry} {composites : Bool} {room : Nat} {ahead : List Char}

/-- Unless it refuses every text, a sequence has room for an item. -/
lemma room_pos_of_sequence (sequence : entry = .list ∨ entry = .dottedList)
    (accepted : ¬ Refuses (entry.reader composites room : Reader Furthest Datum) ahead) :
    0 < room := by
  have serves := serves_item (L := Furthest) composites room
  rcases Nat.eq_zero_or_pos room with full | some
  · rcases sequence with rfl | rfl
    · have refused := serves.refuses_items full ahead
      exact absurd (refuses_orElse.mpr (.inl refused)).bind accepted
    · exact absurd (serves.refuses_spacedItems full ahead).bind accepted
  · exact some

lemma fits_quoted {text : List Char} {datum : Datum} (low : Low composites room text datum) :
    Fits .quoted composites room ('\'' :: text) datum.quote :=
  ⟨.quoted low.1, Datum.height_quote_le_iff.mpr low.2⟩

lemma fits_list {text : List Char} {data : List Datum}
    (items : Separated (Low composites room) text data) :
    Fits .list composites room text (.list data) := by
  have derived : Form.Derived (Low composites room) text ⟨data, none⟩ := items
  exact ⟨.list (.separated (items.mono Low.derives)), derived.height_le⟩

lemma fits_dottedList {text pointed : List Char} {data : List Datum} {tail : Datum}
    (items : Terminated (Low composites room) text data)
    (last : PointedTail (Low composites room) pointed tail) :
    Fits .dottedList composites room (text ++ pointed) (.dotted data tail) := by
  have derived : Form.Derived (Low composites room) (text ++ pointed) ⟨data, some tail⟩ :=
    .mk items last
  exact ⟨.dottedList (DottedSequence.mono Low.derives derived), derived.height_le⟩

/-- There is something that an entry reads, if there is room for it. -/
lemma begins_fits (possible : entry = .quoted → 0 < room)
    (accepted : ¬ Refuses (entry.reader composites room : Reader Furthest Datum) ahead) :
    Begins (entry.Fits composites room) [] := by
  cases entry with
  | expression =>
      obtain ⟨more, datum, lexeme⟩ := BeginsLexeme.nil
      exact ⟨more, datum, .expression (.lexeme lexeme), lexeme.height_eq ▸ Nat.zero_le room⟩
  | list =>
      have some := room_pos_of_sequence (.inl rfl) accepted
      exact .of_whole ⟨.list .nil, Datum.height_list_le_iff.mpr some⟩
  | dottedList =>
      have some := room_pos_of_sequence (.inr rfl) accepted
      obtain ⟨text, tail, pointed⟩ := exists_pointedTail (begins_low composites some)
      exact ⟨text, _, fits_dottedList .nil pointed⟩
  | quoted =>
      obtain ⟨more, datum, low⟩ := begins_low composites (possible rfl)
      exact ⟨_, _, fits_quoted low⟩

/-- Every entry fails only behind a text that begins something it reads. -/
lemma viable (possible : entry = .quoted → 0 < room) :
    Viable (Begins (entry.Fits composites room)) (entry.reader composites room) ahead := by
  intro accepted
  have serves := serves_item (L := Furthest) composites room
  have item := viable_item composites room
  have nothing := begins_fits possible accepted
  cases entry with
  | expression =>
      refine ((viable_dispatch serves item).mono ?_) accepted
      rintro text ⟨more, datum, derives, low⟩
      exact ⟨more, datum, .expression derives, Nat.le_of_lt_succ low⟩
  | list =>
      have items : Viable (Begins (Fits .list composites room))
          (Reader.list (Reader.item composites room)) ahead := by
        refine Viable.bind (Viable.orElse ((viable_items serves.sound item).mono ?_)
          fun _ => viable_pure) fun _ _ _ _ _ => viable_pure
        rintro text ⟨more, data, separated⟩
        exact ⟨more, _, fits_list separated⟩
      exact items accepted
  | dottedList =>
      have some := room_pos_of_sequence (.inr rfl) accepted
      have inhabited := begins_low composites some
      obtain ⟨last, tail, pointed⟩ := exists_pointedTail inhabited
      have pair : Viable (Begins (Fits .dottedList composites room))
          (dottedPair (Reader.item composites room)) ahead := by
        refine Viable.bind ((viable_spacedItems serves.sound item).mono ?_)
          fun front rest data _ found => ?_
        · rintro text ⟨more, data, items⟩
          refine ⟨more ++ last, .dotted data tail, ?_⟩
          rw [← List.append_assoc]
          exact fits_dottedList items pointed
        · have items := terminated_of_reads_spacedItems serves.sound found
          have behind : Viable (Begins (PointedTail (Low composites room)))
              (dottedTail (Reader.item composites room)) rest := viable_dottedTail item inhabited
          refine Viable.bind (behind.mono ?_) fun _ _ _ _ _ => viable_pure
          rintro text ⟨more, tail, pointed⟩
          refine ⟨more, .dotted data tail, ?_⟩
          rw [List.append_assoc]
          exact fits_dottedList items pointed
      exact pair accepted
  | quoted =>
      have quotation : Viable (Begins (Fits .quoted composites room))
          (Reader.quoted (Reader.item composites room)) ahead := by
        refine (viable_token nothing).bind fun front rest _ _ found => ?_
        obtain rfl := reads_token.mp found
        refine Viable.bind ((item rest).mono ?_) fun _ _ _ _ _ => viable_pure
        rintro text ⟨more, datum, low⟩
        exact ⟨more, _, fits_quoted low⟩
      exact quotation accepted

/-- Where a reading fails the text up to there begins something that the entry reads. -/
lemma begins_of_readDatum {options : Options} {source : String} {chars : List Char} {offset : Nat}
    {expected : Expected} (possible : entry = .quoted → 0 < options.maxDepth.toNat)
    (failed : entry.readDatum options source = .error ⟨chars, offset, .unexpected expected⟩) :
    Begins (entry.Fits options.composites options.maxDepth.toNat) (source.toList.take offset) := by
  rw [readDatum, read, readChars, conclude, Options.room_zero] at failed
  have begins : ¬ Refuses (entry.reader options.composites options.maxDepth.toNat :
      Reader Furthest Datum) source.toList →
      Begins (entry.Fits options.composites options.maxDepth.toNat) (source.toList.take 0) :=
    begins_fits possible
  cases verdict : (entry.reader options.composites options.maxDepth.toNat source.toList :
      Outcome Furthest Datum).verdict with
  | tooDeep offset => simp [verdict, Except.map] at failed
  | missing =>
      have accepted := Misses.not_refuses verdict
      simp only [verdict, Except.map, ReadError.ofFurthest, Except.error.injEq,
        ReadError.mk.injEq] at failed
      obtain ⟨-, rfl, -⟩ := failed
      exact (viable possible accepted).offset (begins accepted)
  | found datum length =>
      have reads := Bounded.reads verdict
      have accepted := reads.not_refuses
      rw [List.take_append_drop] at accepted
      have whole : Begins (entry.Fits options.composites options.maxDepth.toNat)
          (source.toList.take length) := .of_whole (derives_of_reads reads)
      simp only [verdict] at failed
      -- A strict reading wants the end of the text as well, right behind what it found.
      split at failed
      · simp only [Except.map, ReadError.ofFurthest, Except.error.injEq,
          ReadError.mk.injEq] at failed
        obtain ⟨-, rfl, -⟩ := failed
        have holds := (viable possible accepted).join (.missedAt whole endOfInput)
        exact holds.offset (begins accepted)
      · cases failed

/-- A quoted expression is one level deep at least. -/
lemma maxDepth_pos_of_quoted {options : Options} {source : String} {datum : Datum}
    (read : Entry.quoted.readDatum options source = .ok datum) : 0 < options.maxDepth := by
  obtain ⟨front, rest, -, -, found⟩ := readDatum_eq_ok_iff.mp read
  obtain ⟨derives, low⟩ := derives_of_reads found
  rw [Options.room_zero] at low
  cases derives with
  | quoted derives =>
      have some := Datum.height_quote_le_iff.mp low
      omega

/-- The text up to the place where a reading failed can be saved: something can be put behind it
that makes the strict reading succeed.  Only a quoted expression needs a limit that allows it. -/
theorem exists_readDatum_iff {options : Options} {source : String} {chars : List Char}
    {offset : Nat} {expected : Expected}
    (failed : entry.readDatum options source = .error ⟨chars, offset, .unexpected expected⟩) :
    (∃ more datum, entry.readDatum { options with strict := true }
        (String.ofList (source.toList.take offset ++ more)) = .ok datum) ↔
      (entry = .quoted → 0 < options.maxDepth) := by
  constructor
  · rintro ⟨more, datum, read⟩ rfl
    have allowed : 0 < ({ options with strict := true } : Options).maxDepth :=
      maxDepth_pos_of_quoted read
    exact allowed
  · intro possible
    have room : entry = .quoted → 0 < options.maxDepth.toNat := fun same => by
      have some := possible same
      omega
    obtain ⟨more, datum, derives, low⟩ := begins_of_readDatum room failed
    refine ⟨more, datum, readDatum_of_le ?_ low⟩
    rw [String.toList_ofList]
    exact derives

/-- Behind a plus that begins the imaginary part of a complex number, though what was found is the
integer in front of it. -/
theorem exists_readDatum_iff_plus :
    Entry.expression.readDatum { strict := true } "1+x" =
        .error ⟨"1+x".toList, 2, .unexpected (.singleton "digit")⟩ ∧
      ∃ more datum, Entry.expression.readDatum { strict := true }
        (String.ofList ("1+x".toList.take 2 ++ more)) = .ok datum := by
  have failed : Entry.expression.readDatum { strict := true } "1+x" =
      .error ⟨"1+x".toList, 2, .unexpected (.singleton "digit")⟩ := by rfl
  exact ⟨failed, (exists_readDatum_iff failed).mpr (by decide)⟩

/-- Where no level is allowed the reader of quoted expressions wants an apostrophe that would not
help. -/
theorem not_exists_readDatum_quoted :
    (∃ expected, Entry.quoted.readDatum { maxDepth := 0 } "a" =
        .error ⟨"a".toList, 0, .unexpected expected⟩) ∧
      ¬ ∃ more datum, Entry.quoted.readDatum { strict := true, maxDepth := 0 }
        (String.ofList ("a".toList.take 0 ++ more)) = .ok datum := by
  refine ⟨⟨_, rfl⟩, ?_⟩
  rintro ⟨more, datum, read⟩
  exact absurd (maxDepth_pos_of_quoted read) (by decide)

end Entry

end SExpr
