import Mathlib.Tactic.Lemma
import SExpr.Reader.Loop
import SExpr.Reader.Primitive

/-!
# What a reader finds

A verdict speaks of lengths; what is wanted of a reader is said about the text itself.  So the
text ahead is cut in two, `front ++ rest`, and a reader is described by which fronts it takes.

* `Reads p front rest value` — with `front ++ rest` ahead, `p` finds `value` in just `front`.
  That `rest` is mentioned is essential: a run of digits is read only if no digit follows.
* `Misses p ahead`, `Refuses p ahead` — the two other verdicts.
* `Answers p front rest value fits` — `p` reads `front` if `fits` holds and refuses otherwise.
  Along a sequence the conditions are collected by conjunction (`Answers.bind`), which is how the
  height of a datum comes out of the levels its parts were read at.
* `Bounded p` — `p` never speaks of more text than is ahead.
* `Shallow p` — `p` reads nothing nested, and so never refuses.

Each combinator has one lemma for each relation, so no proof about a reader speaks of verdicts.
Logs do not appear at all: what a reader finds is the same for every kind of log.
-/

namespace SExpr

namespace Verdict

variable {α β : Type}

/-- How far into the text ahead a verdict reaches: to the end of what was found, or to what is
nested too deeply. -/
def extent : Verdict α → Nat
  | .found _ length => length
  | .missing => 0
  | .tooDeep offset => offset

lemma extent_shift_le (v : Verdict α) (distance : Nat) :
    (v.shift distance).extent ≤ distance + v.extent := by
  cases v <;> simp [shift, extent]

lemma shift_shift (m n : Nat) (v : Verdict α) : (v.shift n).shift m = v.shift (m + n) := by
  cases v <;> simp [shift, Nat.add_assoc]

/-- Nothing is found further left if nothing is found here. -/
lemma shift_eq_missing_iff {v : Verdict α} {distance : Nat} :
    v.shift distance = .missing ↔ v = .missing := by
  cases v <;> simp [shift]

lemma extent_map (v : Verdict α) (f : α → β) : (v.map f).extent = v.extent := by
  cases v <;> rfl

end Verdict

namespace Reader

variable {L α β : Type}

/-! ## The relations -/

/-- With `front ++ rest` ahead the reader finds the value in just `front`. -/
def Reads (p : Reader L α) (front rest : List Char) (value : α) : Prop :=
  (p (front ++ rest)).verdict = .found value front.length

/-- What the reader wants is not ahead. -/
def Misses (p : Reader L α) (ahead : List Char) : Prop := (p ahead).verdict = .missing

/-- An expression ahead is nested too deeply for the reader. -/
def Refuses (p : Reader L α) (ahead : List Char) : Prop :=
  ∃ offset, (p ahead).verdict = .tooDeep offset

/-- The reader finds the value in `front` if it fits, and refuses the text otherwise. -/
def Answers (p : Reader L α) (front rest : List Char) (value : α) (fits : Prop) : Prop :=
  (fits → Reads p front rest value) ∧ (¬ fits → Refuses p (front ++ rest))

/-- The reader speaks of no more text than is ahead. -/
class Bounded (p : Reader L α) : Prop where
  extent_le : ∀ ahead, (p ahead).verdict.extent ≤ ahead.length

/-- The reader reads nothing nested. -/
class Shallow (p : Reader L α) : Prop where
  not_refuses : ∀ ahead, ¬ Refuses p ahead

lemma Bounded.length_le {p : Reader L α} [Bounded p] {ahead : List Char} {value : α} {length : Nat}
    (found : (p ahead).verdict = .found value length) : length ≤ ahead.length := by
  have inside := Bounded.extent_le (p := p) ahead
  rwa [found] at inside

lemma Bounded.offset_le {p : Reader L α} [Bounded p] {ahead : List Char} {offset : Nat}
    (refused : (p ahead).verdict = .tooDeep offset) : offset ≤ ahead.length := by
  have inside := Bounded.extent_le (p := p) ahead
  rwa [refused] at inside

/-- What a bounded reader finds is a part of the text ahead. -/
lemma Bounded.reads {p : Reader L α} [Bounded p] {ahead : List Char} {value : α} {length : Nat}
    (found : (p ahead).verdict = .found value length) :
    Reads p (ahead.take length) (ahead.drop length) value := by
  have fits := Bounded.length_le found
  rw [Reads, List.take_append_drop, List.length_take, Nat.min_eq_left fits, found]

/-- A bounded reader comes to one of three verdicts. -/
lemma Bounded.verdict_cases (p : Reader L α) [Bounded p] (ahead : List Char) :
    (∃ front rest value, ahead = front ++ rest ∧ Reads p front rest value) ∨
      Misses p ahead ∨ Refuses p ahead := by
  cases verdict : (p ahead).verdict with
  | found value length =>
      exact .inl ⟨_, _, value, (List.take_append_drop length ahead).symm, Bounded.reads verdict⟩
  | missing => exact .inr (.inl verdict)
  | tooDeep offset => exact .inr (.inr ⟨offset, verdict⟩)

/-- A shallow one comes to one of two. -/
lemma Shallow.verdict_cases (p : Reader L α) [Bounded p] [Shallow p] (ahead : List Char) :
    (∃ front rest value, ahead = front ++ rest ∧ Reads p front rest value) ∨ Misses p ahead := by
  rcases Bounded.verdict_cases p ahead with found | missing | refused
  · exact .inl found
  · exact .inr missing
  · exact absurd refused (Shallow.not_refuses ahead)

lemma Reads.not_misses {p : Reader L α} {front rest : List Char} {a : α}
    (found : Reads p front rest a) : ¬ Misses p (front ++ rest) := by
  intro missing
  rw [Reads, missing] at found
  cases found

lemma Reads.not_refuses {p : Reader L α} {front rest : List Char} {a : α}
    (found : Reads p front rest a) : ¬ Refuses p (front ++ rest) := by
  rintro ⟨offset, refused⟩
  rw [Reads, refused] at found
  cases found

lemma Misses.not_refuses {p : Reader L α} {ahead : List Char} (missing : Misses p ahead) :
    ¬ Refuses p ahead := by
  rintro ⟨offset, refused⟩
  rw [Misses, refused] at missing
  cases missing

lemma Reads.answers {p : Reader L α} {front rest : List Char} {a : α} {fits : Prop}
    (found : Reads p front rest a) (fit : fits) : Answers p front rest a fits :=
  ⟨fun _ => found, fun unfit => absurd fit unfit⟩

lemma Answers.congr {p : Reader L α} {front rest : List Char} {a : α} {fits fits' : Prop}
    (answer : Answers p front rest a fits) (same : fits ↔ fits') :
    Answers p front rest a fits' :=
  ⟨fun fit => answer.1 (same.mpr fit), fun unfit => answer.2 (mt same.mp unfit)⟩

variable [Log L]

/-! ## Sequence and choice -/

lemma reads_pure {a b : α} {front rest : List Char} :
    Reads (pure a : Reader L α) front rest b ↔ front = [] ∧ b = a := by
  have verdict : (pure a : Reader L α) (front ++ rest) = ⟨.found a 0, Log.nothing⟩ := rfl
  rw [Reads, verdict, Verdict.found.injEq]
  constructor
  · rintro ⟨rfl, empty⟩
    exact ⟨List.length_eq_zero_iff.mp empty.symm, rfl⟩
  · rintro ⟨rfl, rfl⟩
    exact ⟨rfl, rfl⟩

/-- The verdict of a sequence, by that of its first part. -/
lemma verdict_bind (p : Reader L α) (f : α → Reader L β) (ahead : List Char) :
    ((p >>= f) ahead).verdict = match (p ahead).verdict with
      | .found a length => (f a (ahead.drop length)).verdict.shift length
      | .missing => .missing
      | .tooDeep offset => .tooDeep offset := by
  show (andThen p f ahead).verdict = _
  rw [andThen]
  cases p ahead with
  | mk verdict log => cases verdict <;> rfl

lemma verdict_map (p : Reader L α) (f : α → β) (ahead : List Char) :
    ((f <$> p) ahead).verdict = (p ahead).verdict.map f := rfl

lemma verdict_bind_pure (p : Reader L α) (f : α → β) (ahead : List Char) :
    ((do let a ← p; pure (f a)) ahead).verdict = (p ahead).verdict.map f := by
  rw [verdict_bind]
  cases (p ahead).verdict <;> rfl

lemma reads_bind {p : Reader L α} {f : α → Reader L β} {front rest : List Char} {b : β} :
    Reads (p >>= f) front rest b ↔ ∃ a left right,
      front = left ++ right ∧ Reads p left (right ++ rest) a ∧ Reads (f a) right rest b := by
  constructor
  · intro found
    rw [Reads, verdict_bind] at found
    cases first : (p (front ++ rest)).verdict with
    | missing => simp [first] at found
    | tooDeep offset => simp [first] at found
    | found a length =>
        cases second : (f a ((front ++ rest).drop length)).verdict with
        | missing => simp [first, second, Verdict.shift] at found
        | tooDeep offset => simp [first, second, Verdict.shift] at found
        | found b' length' =>
            simp only [first, second, Verdict.shift, Verdict.found.injEq] at found
            obtain ⟨rfl, total⟩ := found
            have inside : length ≤ front.length := by omega
            refine ⟨a, front.take length, front.drop length,
              (List.take_append_drop length front).symm, ?_, ?_⟩
            · rw [Reads, ← List.append_assoc, List.take_append_drop, first, List.length_take,
                Nat.min_eq_left inside]
            · rw [Reads, ← List.drop_append_of_le_length inside, second, List.length_drop]
              congr 1
              omega
  · rintro ⟨a, left, right, rfl, first, second⟩
    rw [Reads] at first second
    rw [Reads, verdict_bind, List.append_assoc, first]
    simp only [List.drop_left, second, Verdict.shift, List.length_append]

lemma Reads.bind {p : Reader L α} {f : α → Reader L β} {left right rest : List Char} {a : α}
    {b : β} (first : Reads p left (right ++ rest) a) (second : Reads (f a) right rest b) :
    Reads (p >>= f) (left ++ right) rest b :=
  reads_bind.mpr ⟨a, left, right, rfl, first, second⟩

lemma Misses.bind {p : Reader L α} {f : α → Reader L β} {ahead : List Char}
    (missing : Misses p ahead) : Misses (p >>= f) ahead := by
  rw [Misses] at missing
  rw [Misses, verdict_bind, missing]

/-- Behind what the first part reads it is up to the second whether anything is found. -/
lemma Reads.misses_bind_iff {p : Reader L α} {f : α → Reader L β} {left rest : List Char} {a : α}
    (first : Reads p left rest a) : Misses (p >>= f) (left ++ rest) ↔ Misses (f a) rest := by
  rw [Reads] at first
  rw [Misses, verdict_bind, first]
  simp only [List.drop_left, Verdict.shift_eq_missing_iff, Misses]

lemma Reads.bind_misses {p : Reader L α} {f : α → Reader L β} {left rest : List Char} {a : α}
    (first : Reads p left rest a) (missing : Misses (f a) rest) :
    Misses (p >>= f) (left ++ rest) :=
  first.misses_bind_iff.mpr missing

lemma Refuses.bind {p : Reader L α} {f : α → Reader L β} {ahead : List Char}
    (refused : Refuses p ahead) : Refuses (p >>= f) ahead := by
  obtain ⟨offset, verdict⟩ := refused
  exact ⟨offset, by rw [verdict_bind, verdict]⟩

lemma Reads.bind_refuses {p : Reader L α} {f : α → Reader L β} {left rest : List Char} {a : α}
    (first : Reads p left rest a) (refused : Refuses (f a) rest) :
    Refuses (p >>= f) (left ++ rest) := by
  obtain ⟨offset, verdict⟩ := refused
  rw [Reads] at first
  refine ⟨left.length + offset, ?_⟩
  rw [verdict_bind, first]
  simp only [List.drop_left, verdict, Verdict.shift]

lemma reads_map {p : Reader L α} {f : α → β} {front rest : List Char} {b : β} :
    Reads (f <$> p) front rest b ↔ ∃ a, Reads p front rest a ∧ b = f a := by
  rw [Reads, verdict_map]
  cases first : (p (front ++ rest)).verdict with
  | found a length =>
      simp only [Reads, first, Verdict.map, Verdict.found.injEq]
      constructor
      · rintro ⟨rfl, rfl⟩
        exact ⟨a, ⟨rfl, rfl⟩, rfl⟩
      · rintro ⟨_, ⟨rfl, rfl⟩, rfl⟩
        exact ⟨rfl, rfl⟩
  | missing => simp [Reads, first, Verdict.map]
  | tooDeep offset => simp [Reads, first, Verdict.map]

lemma misses_map {p : Reader L α} {f : α → β} {ahead : List Char} :
    Misses (f <$> p) ahead ↔ Misses p ahead := by
  rw [Misses, Misses, verdict_map]
  cases (p ahead).verdict <;> simp [Verdict.map]

lemma refuses_map {p : Reader L α} {f : α → β} {ahead : List Char} :
    Refuses (f <$> p) ahead ↔ Refuses p ahead := by
  rw [Refuses, Refuses, verdict_map]
  cases (p ahead).verdict <;> simp [Verdict.map]

/-- The verdict of a choice, by that of its first alternative. -/
lemma verdict_orElse (p q : Reader L α) (ahead : List Char) :
    ((p <|> q) ahead).verdict = match (p ahead).verdict with
      | .missing => (q ahead).verdict
      | verdict => verdict := by
  show (orElse p (fun _ => q) ahead).verdict = _
  rw [orElse]
  cases p ahead with
  | mk verdict log => cases verdict <;> rfl

lemma reads_orElse {p q : Reader L α} {front rest : List Char} {a : α} :
    Reads (p <|> q) front rest a ↔
      Reads p front rest a ∨ Misses p (front ++ rest) ∧ Reads q front rest a := by
  rw [Reads, verdict_orElse]
  cases first : (p (front ++ rest)).verdict <;> simp [Reads, Misses, first]

lemma misses_orElse {p q : Reader L α} {ahead : List Char} :
    Misses (p <|> q) ahead ↔ Misses p ahead ∧ Misses q ahead := by
  rw [Misses, verdict_orElse]
  cases first : (p ahead).verdict <;> simp [Misses, first]

lemma refuses_orElse {p q : Reader L α} {ahead : List Char} :
    Refuses (p <|> q) ahead ↔ Refuses p ahead ∨ Misses p ahead ∧ Refuses q ahead := by
  rw [Refuses, verdict_orElse]
  cases first : (p ahead).verdict <;> simp [Refuses, Misses, first]

lemma not_reads_nowhere {front rest : List Char} {a : α} :
    ¬ Reads (nowhere : Reader L α) front rest a := by
  intro found
  cases found

lemma misses_nowhere (ahead : List Char) : Misses (nowhere : Reader L α) ahead := rfl

/-- A list of alternatives finds what one of them finds where all before it miss. -/
lemma reads_firstOf {readers : List (Reader L α)} {front rest : List Char} {a : α} :
    Reads (firstOf readers) front rest a ↔ ∃ before p after, readers = before ++ p :: after ∧
      (∀ q ∈ before, Misses q (front ++ rest)) ∧ Reads p front rest a := by
  induction readers with
  | nil => simp [firstOf, not_reads_nowhere]
  | cons reader others ih =>
      rw [firstOf, reads_orElse, ih]
      constructor
      · rintro (found | ⟨missing, before, p, after, rfl, missed, found⟩)
        · exact ⟨[], reader, others, rfl, by simp, found⟩
        · exact ⟨reader :: before, p, after, rfl, List.forall_mem_cons.mpr ⟨missing, missed⟩, found⟩
      · rintro ⟨before, p, after, split, missed, found⟩
        cases before with
        | nil =>
            obtain ⟨rfl, rfl⟩ := List.cons.inj split
            exact .inl found
        | cons q before =>
            obtain ⟨rfl, rfl⟩ := List.cons.inj split
            exact .inr ⟨missed _ (by simp), before, p, after, rfl,
              fun q member => missed q (by simp [member]), found⟩

lemma misses_firstOf {readers : List (Reader L α)} {ahead : List Char} :
    Misses (firstOf readers) ahead ↔ ∀ p ∈ readers, Misses p ahead := by
  induction readers with
  | nil => simp [firstOf, misses_nowhere]
  | cons reader others ih => rw [firstOf, misses_orElse, ih, List.forall_mem_cons]

/-! ## Answers

An answer is put together from the answers of the parts: what is read has to fit everywhere, and
the first part that does not fit makes the whole refuse.
-/

/-- What the second part does matters only if the first one read something. -/
lemma Answers.bind {p : Reader L α} {f : α → Reader L β} {left right rest : List Char} {a : α}
    {b : β} {fits fits' : Prop} (first : Answers p left (right ++ rest) a fits)
    (second : fits → Answers (f a) right rest b fits') :
    Answers (p >>= f) (left ++ right) rest b (fits ∧ fits') := by
  constructor
  · rintro ⟨fit, fit'⟩
    exact (first.1 fit).bind ((second fit).1 fit')
  · intro unfit
    rw [List.append_assoc]
    by_cases fit : fits
    · exact (first.1 fit).bind_refuses ((second fit).2 fun fit' => unfit ⟨fit, fit'⟩)
    · exact (first.2 fit).bind

lemma Reads.bind_answers {p : Reader L α} {f : α → Reader L β} {left right rest : List Char}
    {a : α} {b : β} {fits : Prop} (first : Reads p left (right ++ rest) a)
    (second : Answers (f a) right rest b fits) :
    Answers (p >>= f) (left ++ right) rest b fits :=
  ((first.answers trivial).bind fun _ => second).congr (by rw [true_and])

lemma Answers.bind_pure {p : Reader L α} {f : α → β} {front rest : List Char} {a : α}
    {fits : Prop} (answer : Answers p front rest a fits) :
    Answers (do let a ← p; pure (f a)) front rest (f a) fits := by
  have last : Reads (pure (f a) : Reader L β) [] rest (f a) := reads_pure.mpr ⟨rfl, rfl⟩
  have whole : Answers p front ([] ++ rest) a fits := answer
  rw [← List.append_nil front]
  exact (whole.bind fun _ => last.answers trivial).congr (by rw [and_true])

/-- Two parts whose values are put together. -/
lemma Answers.both {γ : Type} {p : Reader L α} {q : Reader L β} (f : α → β → γ)
    {left right rest : List Char} {a : α} {b : β} {fits fits' : Prop}
    (first : Answers p left (right ++ rest) a fits)
    (second : fits → Answers q right rest b fits') :
    Answers (do let a ← p; let b ← q; pure (f a b)) (left ++ right) rest (f a b)
      (fits ∧ fits') := by
  have last : fits → Answers (do let b ← q; pure (f a b)) right rest (f a b) fits' :=
    fun fit => (second fit).bind_pure
  exact first.bind last

lemma Answers.map {p : Reader L α} {f : α → β} {front rest : List Char} {a : α} {fits : Prop}
    (answer : Answers p front rest a fits) : Answers (f <$> p) front rest (f a) fits :=
  ⟨fun fit => reads_map.mpr ⟨a, answer.1 fit, rfl⟩, fun unfit => refuses_map.mpr (answer.2 unfit)⟩

lemma Answers.orElse {p q : Reader L α} {front rest : List Char} {a : α} {fits : Prop}
    (answer : Answers p front rest a fits) : Answers (p <|> q) front rest a fits :=
  ⟨fun fit => reads_orElse.mpr (.inl (answer.1 fit)),
    fun unfit => refuses_orElse.mpr (.inl (answer.2 unfit))⟩

lemma Misses.orElse_answers {p q : Reader L α} {front rest : List Char} {a : α} {fits : Prop}
    (missing : Misses p (front ++ rest)) (answer : Answers q front rest a fits) :
    Answers (p <|> q) front rest a fits :=
  ⟨fun fit => reads_orElse.mpr (.inr ⟨missing, answer.1 fit⟩),
    fun unfit => refuses_orElse.mpr (.inr ⟨missing, answer.2 unfit⟩)⟩

/-! ## Bounded readers -/

instance (a : α) : Bounded (pure a : Reader L α) where
  extent_le _ := Nat.zero_le _

instance (p : Reader L α) (f : α → Reader L β) [Bounded p] [∀ a, Bounded (f a)] :
    Bounded (p >>= f) where
  extent_le ahead := by
    have first := Bounded.extent_le (p := p) ahead
    rw [verdict_bind]
    cases verdict : (p ahead).verdict with
    | missing => exact Nat.zero_le _
    | tooDeep offset => rwa [verdict] at first
    | found a length =>
        have second := Bounded.extent_le (p := f a) (ahead.drop length)
        have whole := (f a (ahead.drop length)).verdict.extent_shift_le length
        rw [List.length_drop] at second
        simp only [verdict, Verdict.extent] at first
        show ((f a (ahead.drop length)).verdict.shift length).extent ≤ _
        omega

instance (p : Reader L α) (f : α → β) [Bounded p] : Bounded (f <$> p) where
  extent_le ahead := by
    rw [verdict_map, Verdict.extent_map]
    exact Bounded.extent_le ahead

instance (p q : Reader L α) [Bounded p] [Bounded q] : Bounded (p <|> q) where
  extent_le ahead := by
    have first := Bounded.extent_le (p := p) ahead
    rw [verdict_orElse]
    cases verdict : (p ahead).verdict with
    | missing => exact Bounded.extent_le (p := q) ahead
    | tooDeep offset => rwa [verdict] at first
    | found a length => rwa [verdict] at first

instance : Bounded (nowhere : Reader L α) where
  extent_le _ := Nat.zero_le _

instance : Bounded (firstOf [] : Reader L α) := inferInstanceAs (Bounded nowhere)

instance (p : Reader L α) (others : List (Reader L α)) [Bounded p] [Bounded (firstOf others)] :
    Bounded (firstOf (p :: others)) :=
  inferInstanceAs (Bounded (p <|> firstOf others))

/-- A step that keeps readers bounded makes a bounded reader. -/
lemma Bounded.loop {step : Reader L α → Reader L α}
    (keeps : ∀ p : Reader L α, Bounded p → Bounded (step p)) : Bounded (loop step) where
  extent_le ahead := by
    have unrolling : ∀ times, Bounded (unrolled step times : Reader L α) := by
      intro times
      induction times with
      | zero => exact inferInstanceAs (Bounded nowhere)
      | succ times ih => exact keeps _ ih
    exact (unrolling _).extent_le ahead

instance (p : Reader L α) [Bounded p] : Bounded (nested p) where
  extent_le := Bounded.extent_le (p := p)

instance : Bounded (refuse : Reader L α) where
  extent_le _ := Nat.zero_le _

/-! ## Shallow readers -/

instance (a : α) : Shallow (pure a : Reader L α) where
  not_refuses ahead := by
    rintro ⟨offset, refused⟩
    cases refused

instance (p : Reader L α) (f : α → Reader L β) [Shallow p] [∀ a, Shallow (f a)] :
    Shallow (p >>= f) where
  not_refuses ahead := by
    rintro ⟨offset, refused⟩
    rw [verdict_bind] at refused
    cases first : (p ahead).verdict with
    | missing => simp [first] at refused
    | tooDeep offset => exact Shallow.not_refuses ahead ⟨offset, first⟩
    | found a length =>
        cases second : (f a (ahead.drop length)).verdict with
        | missing => simp [first, second, Verdict.shift] at refused
        | tooDeep offset => exact Shallow.not_refuses _ ⟨offset, second⟩
        | found b length' => simp [first, second, Verdict.shift] at refused

instance (p : Reader L α) (f : α → β) [Shallow p] : Shallow (f <$> p) where
  not_refuses ahead := by
    rw [refuses_map]
    exact Shallow.not_refuses ahead

instance (p q : Reader L α) [Shallow p] [Shallow q] : Shallow (p <|> q) where
  not_refuses ahead := by
    rw [refuses_orElse]
    rintro (refused | ⟨-, refused⟩)
    · exact Shallow.not_refuses ahead refused
    · exact Shallow.not_refuses ahead refused

instance : Shallow (nowhere : Reader L α) where
  not_refuses ahead := by
    rintro ⟨offset, refused⟩
    cases refused

instance : Shallow (firstOf [] : Reader L α) := inferInstanceAs (Shallow nowhere)

instance (p : Reader L α) (others : List (Reader L α)) [Shallow p] [Shallow (firstOf others)] :
    Shallow (firstOf (p :: others)) :=
  inferInstanceAs (Shallow (p <|> firstOf others))

end Reader

end SExpr
