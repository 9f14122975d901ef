import SExpr.Proofs.Reader.Reads
import SExpr.Reader.Composite

/-!
# What the readers of characters find

A run is read as far as it goes, so what `many` finds depends on the first character that it does
not take.  `Stops accept rest` says that `rest` gives it nothing to go on with; it is the only
thing that most readers of literals ask of the text behind them.

* `reads_token`, `reads_pick`, `reads_many`, `reads_refine`, … — what each of these readers finds.
* `misses_token`, `misses_pick`, … — where it finds nothing.
-/

namespace SExpr

/-- The text does not start with an accepted character. -/
def Stops (accept : Char → Bool) (rest : List Char) : Prop := ∀ c ∈ rest.head?, accept c = false

/-- At least one character, and only accepted ones. -/
def IsRun (accept : Char → Bool) (text : List Char) : Prop :=
  text ≠ [] ∧ ∀ c ∈ text, accept c = true

lemma IsRun.singleton {accept : Char → Bool} {c : Char} (accepted : accept c = true) :
    IsRun accept [c] :=
  ⟨by simp, List.forall_mem_singleton.mpr accepted⟩

lemma IsRun.append {accept : Char → Bool} {text more : List Char} (run : IsRun accept text)
    (accepted : ∀ c ∈ more, accept c = true) : IsRun accept (text ++ more) :=
  ⟨by simp [run.1], fun c member => (List.mem_append.mp member).elim (run.2 c) (accepted c)⟩

namespace Stops

variable {accept : Char → Bool} {c : Char} {rest : List Char}

lemma nil : Stops accept [] := by
  intro c member
  cases member

lemma cons_iff : Stops accept (c :: rest) ↔ accept c = false := by
  simp [Stops]

lemma cons (refused : accept c = false) : Stops accept (c :: rest) := cons_iff.mpr refused

/-- What stops a reader stops one that accepts less. -/
lemma mono {accept' : Char → Bool} (stops : Stops accept rest)
    (narrower : ∀ c, accept' c = true → accept c = true) : Stops accept' rest := by
  intro c member
  have refused := stops c member
  cases taken : accept' c with
  | false => rfl
  | true => rw [narrower c taken] at refused; cases refused

end Stops

/-- A run stops a reader that accepts none of its characters, whatever stands behind. -/
lemma IsRun.stops_append {accept accept' : Char → Bool} {text rest : List Char}
    (run : IsRun accept text) (apart : ∀ c, accept c = true → accept' c = false) :
    Stops accept' (text ++ rest) := by
  obtain ⟨nonempty, each⟩ := run
  cases text with
  | nil => exact absurd rfl nonempty
  | cons c others => exact Stops.cons (apart c (each c List.mem_cons_self))

/-- A run is cut where the accepted characters end. -/
lemma takeWhile_append_eq_iff {accept : Char → Bool} {front rest : List Char} :
    (front ++ rest).takeWhile accept = front ↔
      (∀ c ∈ front, accept c = true) ∧ Stops accept rest := by
  constructor
  · intro run
    have accepted : ∀ c ∈ front, accept c = true := by
      intro c member
      rw [← run] at member
      exact List.all_eq_true.mp List.all_takeWhile c member
    refine ⟨accepted, ?_⟩
    rw [List.takeWhile_append_of_pos accepted, List.append_right_eq_self] at run
    cases rest with
    | nil => exact Stops.nil
    | cons c rest =>
        cases taken : accept c with
        | false => exact Stops.cons taken
        | true => rw [List.takeWhile_cons_of_pos taken] at run; cases run
  · rintro ⟨accepted, stops⟩
    rw [List.takeWhile_append_of_pos accepted, List.append_right_eq_self]
    cases rest with
    | nil => rfl
    | cons c rest => exact List.takeWhile_cons_of_neg (by simp [Stops.cons_iff.mp stops])

/-- Behind a run is what follows it. -/
lemma dropWhile_append_of_stops {accept : Char → Bool} {front rest : List Char}
    (accepted : ∀ c ∈ front, accept c = true) (stops : Stops accept rest) :
    (front ++ rest).dropWhile accept = rest := by
  have split : _ ++ _ = front ++ rest := List.takeWhile_append_dropWhile (p := accept)
  rw [takeWhile_append_eq_iff.mpr ⟨accepted, stops⟩] at split
  exact List.append_cancel_left split

/-- Every text starts with a run, possibly empty, and goes on with what stops it. -/
lemma exists_run (accept : Char → Bool) (text : List Char) :
    ∃ run rest, text = run ++ rest ∧ (∀ c ∈ run, accept c = true) ∧ Stops accept rest := by
  induction text with
  | nil => exact ⟨[], [], rfl, by simp, Stops.nil⟩
  | cons c text ih =>
      cases taken : accept c with
      | false => exact ⟨[], c :: text, rfl, by simp, Stops.cons taken⟩
      | true =>
          obtain ⟨run, rest, rfl, accepted, stops⟩ := ih
          exact ⟨c :: run, rest, rfl, List.forall_mem_cons.mpr ⟨taken, accepted⟩, stops⟩

namespace Reader

variable {L α β : Type}

/-! ## Looking ahead -/

lemma verdict_notAhead (p : Reader L α) (ahead : List Char) :
    (notAhead p ahead).verdict = match (p ahead).verdict with
      | .found _ _ => .missing
      | .missing => .found () 0
      | .tooDeep offset => .tooDeep offset := by
  rw [notAhead]
  cases p ahead with
  | mk verdict log => cases verdict <;> rfl

lemma reads_notAhead {p : Reader L α} {front rest : List Char} {u : Unit} :
    Reads (notAhead p) front rest u ↔ front = [] ∧ Misses p rest := by
  rw [Reads, verdict_notAhead]
  constructor
  · intro found
    cases first : (p (front ++ rest)).verdict with
    | found a length => simp [first] at found
    | tooDeep offset => simp [first] at found
    | missing =>
        simp only [first, Verdict.found.injEq] at found
        obtain rfl := List.length_eq_zero_iff.mp found.2.symm
        exact ⟨rfl, first⟩
  · rintro ⟨rfl, missing⟩
    rw [Misses] at missing
    rw [List.nil_append, missing]
    rfl

instance (p : Reader L α) [Bounded p] : Bounded (notAhead p) where
  extent_le ahead := by
    have first := Bounded.extent_le (p := p) ahead
    rw [verdict_notAhead]
    cases verdict : (p ahead).verdict with
    | found a length => exact Nat.zero_le _
    | missing => exact Nat.zero_le _
    | tooDeep offset => rwa [verdict] at first

instance (p : Reader L α) [Shallow p] : Shallow (notAhead p) where
  not_refuses ahead := by
    rintro ⟨offset, refused⟩
    rw [verdict_notAhead] at refused
    cases first : (p ahead).verdict with
    | found a width => simp [first] at refused
    | missing => simp [first] at refused
    | tooDeep offset => exact Shallow.not_refuses ahead ⟨offset, first⟩

variable [Log L]

/-! ## Tokens and single characters -/

lemma verdict_token (text : String) (ahead : List Char) :
    (token text ahead : Outcome L Unit).verdict =
      if text.toList.isPrefixOf ahead then .found () text.length else .missing := by
  rw [token]
  split <;> rfl

lemma reads_token {text : String} {front rest : List Char} {u : Unit} :
    Reads (token text : Reader L Unit) front rest u ↔ front = text.toList := by
  rw [Reads, verdict_token]
  constructor
  · intro found
    split at found
    · next isPrefix =>
        obtain ⟨-, length⟩ := Verdict.found.inj found
        obtain ⟨tail, split⟩ := List.isPrefixOf_iff_prefix.mp isPrefix
        exact ((List.append_inj split (by rw [String.length_toList, length])).1).symm
    · cases found
  · rintro rfl
    rw [if_pos (List.isPrefixOf_iff_prefix.mpr (List.prefix_append _ _)), String.length_toList]

lemma misses_token {text : String} {ahead : List Char} :
    Misses (token text : Reader L Unit) ahead ↔ ¬ text.toList <+: ahead := by
  rw [Misses, verdict_token, ← List.isPrefixOf_iff_prefix]
  split <;> simp_all

/-- A token is missed where its first character is not ahead. -/
lemma misses_token_of_stops {text : String} {accept : Char → Bool} {first : Char}
    {others ahead : List Char} (stops : Stops accept ahead) (start : text.toList = first :: others)
    (taken : accept first = true) : Misses (token text : Reader L Unit) ahead := by
  refine misses_token.mpr ?_
  rintro ⟨after, rfl⟩
  rw [start, List.cons_append, Stops.cons_iff, taken] at stops
  cases stops

instance (text : String) : Bounded (token text : Reader L Unit) where
  extent_le ahead := by
    rw [verdict_token]
    split
    · next isPrefix => exact (List.isPrefixOf_iff_prefix.mp isPrefix).length_le
    · exact Nat.zero_le _

instance (text : String) : Shallow (token text : Reader L Unit) where
  not_refuses ahead := by
    rintro ⟨offset, refused⟩
    rw [verdict_token] at refused
    split at refused <;> cases refused

lemma verdict_pick (value? : Char → Option α) (what : String) (ahead : List Char) :
    (pick value? what ahead : Outcome L α).verdict = match ahead.head?.bind value? with
      | some value => .found value 1
      | none => .missing := by
  rw [pick]
  cases ahead.head?.bind value? <;> rfl

lemma reads_pick {value? : Char → Option α} {what : String} {front rest : List Char} {a : α} :
    Reads (pick value? what : Reader L α) front rest a ↔
      ∃ c, front = [c] ∧ value? c = some a := by
  rw [Reads, verdict_pick]
  constructor
  · intro found
    split at found
    · next value picked =>
        obtain ⟨rfl, length⟩ := Verdict.found.inj found
        obtain ⟨c, rfl⟩ := List.length_eq_one_iff.mp length.symm
        exact ⟨c, rfl, by simpa using picked⟩
    · cases found
  · rintro ⟨c, rfl, picked⟩
    simp [picked]

lemma misses_pick {value? : Char → Option α} {what : String} {ahead : List Char} :
    Misses (pick value? what : Reader L α) ahead ↔ ∀ c ∈ ahead.head?, value? c = none := by
  rw [Misses, verdict_pick]
  cases ahead with
  | nil => simp
  | cons c rest => cases picked : value? c <;> simp [picked]

instance (value? : Char → Option α) (what : String) : Bounded (pick value? what : Reader L α) where
  extent_le ahead := by
    rw [verdict_pick]
    cases ahead with
    | nil => exact Nat.zero_le _
    | cons c rest =>
        split
        · exact Nat.le_add_left 1 rest.length
        · exact Nat.zero_le _

instance (value? : Char → Option α) (what : String) : Shallow (pick value? what : Reader L α) where
  not_refuses ahead := by
    rintro ⟨offset, refused⟩
    rw [verdict_pick] at refused
    split at refused <;> cases refused

lemma reads_satisfy {accept : Char → Bool} {what : String} {front rest : List Char} {c : Char} :
    Reads (satisfy accept what : Reader L Char) front rest c ↔
      front = [c] ∧ accept c = true := by
  rw [satisfy, reads_pick]
  constructor
  · rintro ⟨d, rfl, picked⟩
    simp only [Option.ite_none_right_eq_some, Option.some.injEq] at picked
    obtain ⟨accepted, rfl⟩ := picked
    exact ⟨rfl, accepted⟩
  · rintro ⟨rfl, accepted⟩
    exact ⟨c, rfl, by simp [accepted]⟩

lemma misses_satisfy {accept : Char → Bool} {what : String} {ahead : List Char} :
    Misses (satisfy accept what : Reader L Char) ahead ↔ Stops accept ahead := by
  rw [satisfy, misses_pick, Stops]
  simp

instance (accept : Char → Bool) (what : String) :
    Bounded (satisfy accept what : Reader L Char) :=
  inferInstanceAs (Bounded (pick _ _))

instance (accept : Char → Bool) (what : String) :
    Shallow (satisfy accept what : Reader L Char) :=
  inferInstanceAs (Shallow (pick _ _))

/-! ## Runs -/

lemma verdict_many (accept : Char → Bool) (what : String) (atLeast : Nat) (ahead : List Char) :
    (many accept what atLeast ahead : Outcome L (List Char)).verdict =
      if (ahead.takeWhile accept).length < atLeast then .missing
      else .found (ahead.takeWhile accept) (ahead.takeWhile accept).length := by
  simp only [many]
  split <;> rfl

lemma reads_many {accept : Char → Bool} {what : String} {atLeast : Nat}
    {front rest run : List Char} :
    Reads (many accept what atLeast : Reader L (List Char)) front rest run ↔
      run = front ∧ atLeast ≤ front.length ∧ (∀ c ∈ front, accept c = true) ∧
        Stops accept rest := by
  rw [Reads, verdict_many, ← takeWhile_append_eq_iff]
  constructor
  · intro found
    split at found
    · cases found
    · next long =>
        obtain ⟨rfl, length⟩ := Verdict.found.inj found
        have whole : (front ++ rest).takeWhile accept = front := by
          have isPrefix := List.takeWhile_prefix (l := front ++ rest) accept
          rw [List.prefix_iff_eq_take, length, List.take_left] at isPrefix
          exact isPrefix
        exact ⟨whole, by omega, whole⟩
  · rintro ⟨rfl, long, whole⟩
    rw [whole, if_neg (by omega)]

lemma misses_many {accept : Char → Bool} {what : String} {ahead : List Char} :
    Misses (many accept what 1 : Reader L (List Char)) ahead ↔ Stops accept ahead := by
  rw [Misses, verdict_many]
  cases ahead with
  | nil => simp [Stops.nil]
  | cons c rest => cases accepted : accept c <;> simp [Stops.cons_iff, accepted]

instance (accept : Char → Bool) (what : String) (atLeast : Nat) :
    Bounded (many accept what atLeast : Reader L (List Char)) where
  extent_le ahead := by
    rw [verdict_many]
    split
    · exact Nat.zero_le _
    · exact (List.takeWhile_prefix accept).length_le

instance (accept : Char → Bool) (what : String) (atLeast : Nat) :
    Shallow (many accept what atLeast : Reader L (List Char)) where
  not_refuses ahead := by
    rintro ⟨offset, refused⟩
    rw [verdict_many] at refused
    split at refused <;> cases refused

/-- A run that has to be there is read if something is. -/
lemma reads_run {accept : Char → Bool} {what : String} {front rest run : List Char} :
    Reads (many accept what 1 : Reader L (List Char)) front rest run ↔
      run = front ∧ IsRun accept front ∧ Stops accept rest := by
  rw [reads_many, IsRun, ← List.length_pos_iff, Nat.succ_le_iff, and_assoc]

lemma reads_digits {front rest run : List Char} :
    Reads (digits : Reader L (List Char)) front rest run ↔
      run = front ∧ IsRun Char.isDigit front ∧ Stops Char.isDigit rest :=
  reads_run

lemma misses_digits {ahead : List Char} :
    Misses (digits : Reader L (List Char)) ahead ↔ Stops Char.isDigit ahead :=
  misses_many

instance : Bounded (digits : Reader L (List Char)) := inferInstanceAs (Bounded (many _ _ _))

instance : Shallow (digits : Reader L (List Char)) := inferInstanceAs (Shallow (many _ _ _))

lemma reads_gap {front rest : List Char} {u : Unit} :
    Reads (gap : Reader L Unit) front rest u ↔
      IsRun Unicode.isSpace front ∧ Stops Unicode.isSpace rest := by
  simp only [gap, reads_bind, reads_run, reads_pure]
  constructor
  · rintro ⟨_, run, none, rfl, ⟨rfl, isRun, stops⟩, rfl, -⟩
    exact ⟨by simpa using isRun, stops⟩
  · rintro ⟨isRun, stops⟩
    exact ⟨front, front, [], by simp, ⟨rfl, isRun, stops⟩, rfl, trivial⟩

lemma misses_gap {ahead : List Char} :
    Misses (gap : Reader L Unit) ahead ↔ Stops Unicode.isSpace ahead := by
  have noRun : Misses (many Unicode.isSpace "whitespace" 1 : Reader L (List Char)) ahead ↔
      Stops Unicode.isSpace ahead := misses_many
  rw [gap, ← noRun]
  constructor
  · intro missing
    rw [Misses, verdict_bind] at missing
    cases run : (many Unicode.isSpace "whitespace" 1 ahead : Outcome L (List Char)).verdict with
    | found value length => rw [run] at missing; cases missing
    | missing => exact run
    | tooDeep offset => rw [run] at missing; cases missing
  · exact Misses.bind

instance : Bounded (gap : Reader L Unit) := by
  unfold gap
  infer_instance

instance : Shallow (gap : Reader L Unit) := by
  unfold gap
  infer_instance

/-! ## Checks -/

lemma verdict_refine (p : Reader L α) (value? : α → Option β) (what : String)
    (ahead : List Char) :
    (refine p value? what ahead).verdict = match (p ahead).verdict with
      | .found raw length => match value? raw with
        | some value => .found value length
        | none => .missing
      | .missing => .missing
      | .tooDeep offset => .tooDeep offset := by
  rw [refine]
  cases p ahead with
  | mk verdict log =>
      cases verdict with
      | found raw length => cases taken : value? raw <;> simp [taken]
      | missing => rfl
      | tooDeep offset => rfl

lemma reads_refine {p : Reader L α} {value? : α → Option β} {what : String}
    {front rest : List Char} {b : β} :
    Reads (refine p value? what) front rest b ↔ ∃ a, Reads p front rest a ∧ value? a = some b := by
  rw [Reads, verdict_refine]
  cases first : (p (front ++ rest)).verdict with
  | missing => simp [Reads, first]
  | tooDeep offset => simp [Reads, first]
  | found raw length =>
      cases taken : value? raw with
      | none =>
          simp only [Reads, first, taken, Verdict.found.injEq, reduceCtorEq, false_iff]
          rintro ⟨_, ⟨rfl, -⟩, value⟩
          rw [taken] at value
          cases value
      | some value =>
          simp only [Reads, first, taken, Verdict.found.injEq]
          constructor
          · rintro ⟨rfl, rfl⟩
            exact ⟨raw, ⟨rfl, rfl⟩, taken⟩
          · rintro ⟨_, ⟨rfl, rfl⟩, same⟩
            exact ⟨Option.some.inj (taken.symm.trans same), rfl⟩

instance (p : Reader L α) (value? : α → Option β) (what : String) [Bounded p] :
    Bounded (refine p value? what) where
  extent_le ahead := by
    have first := Bounded.extent_le (p := p) ahead
    rw [verdict_refine]
    cases verdict : (p ahead).verdict with
    | missing => exact Nat.zero_le _
    | tooDeep offset => rwa [verdict] at first
    | found raw length =>
        rw [verdict] at first
        cases taken : value? raw with
        | none =>
            simp only [taken]
            exact Nat.zero_le _
        | some value =>
            simp only [taken]
            exact first

lemma reads_checkWhen {called : List Char → Bool} {check : Reader L Unit}
    {front rest : List Char} {u : Unit} :
    Reads (checkWhen called check) front rest u ↔
      if called (front ++ rest) then Reads check front rest u else front = [] := by
  have chosen : checkWhen called check (front ++ rest) =
      if called (front ++ rest) then check (front ++ rest)
      else (pure () : Reader L Unit) (front ++ rest) := rfl
  rw [Reads, chosen]
  split
  · exact Iff.rfl
  · rw [← Reads, reads_pure, and_iff_left rfl]

instance (p : Reader L α) (value? : α → Option β) (what : String) [Shallow p] :
    Shallow (refine p value? what) where
  not_refuses ahead := by
    rintro ⟨offset, refused⟩
    rw [verdict_refine] at refused
    cases first : (p ahead).verdict with
    | missing => simp [first] at refused
    | tooDeep offset => exact Shallow.not_refuses ahead ⟨offset, first⟩
    | found raw width => cases taken : value? raw <;> simp [first, taken] at refused

instance (called : List Char → Bool) (check : Reader L Unit) [Shallow check] :
    Shallow (checkWhen called check) where
  not_refuses ahead := by
    rintro ⟨offset, refused⟩
    rw [checkWhen] at refused
    split at refused
    · exact Shallow.not_refuses ahead ⟨offset, refused⟩
    · cases refused

instance (called : List Char → Bool) (check : Reader L Unit) [Bounded check] :
    Bounded (checkWhen called check) where
  extent_le ahead := by
    rw [checkWhen]
    split
    · exact Bounded.extent_le ahead
    · exact Nat.zero_le _

end Reader

end SExpr
