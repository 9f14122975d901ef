import SExpr.Proofs.Reader.Runs
import SExpr.Reader.Quotation

/-!
# Two readings side by side

A reader is written over any kind of log, and more than one reader can be made from one description:
with this log or that, with more room for nested expressions or less.  That all of these come to the
same is shown for each combinator once, by running the two side by side.

* `Log.Related R` — a relation of two kinds of logs that all that readers do with logs respects.
* `Follows lenient R p q` — `p` and `q` come to the same verdict and to related logs.  A lenient
  comparison lets `p` off where it refuses the text: there `q` may do what it likes.

The second part goes through the readers of characters; what is built from them is compared by
looking at how it is built, so an instance is all that has to be named.
-/

namespace SExpr

/-! ## Related logs -/

/-- A relation of two kinds of logs that is kept by all that readers do with logs.  Entering and
leaving a nested expression has to be respected only as a whole. -/
class Log.Related {L L' : Type} [Log L] [Log L'] (R : L → L' → Prop) : Prop where
  nothing : R Log.nothing Log.nothing
  join {a b : L} {a' b' : L'} : R a a' → R b b' → R (Log.join a b) (Log.join a' b')
  shift {a : L} {a' : L'} (distance : Nat) :
    R a a' → R (Log.shift distance a) (Log.shift distance a')
  missed (what : String) : R (Log.missed what) (Log.missed what)
  nested {a : L} {a' : L'} : R a a' →
    R (Log.join Log.opened (Log.join a Log.closed)) (Log.join Log.opened (Log.join a' Log.closed))
  refused : R (Log.join Log.opened Log.closed) (Log.join Log.opened Log.closed)

/-- Equal logs stay equal. -/
instance {L : Type} [Log L] : Log.Related (Eq : L → L → Prop) where
  nothing := rfl
  join first second := by rw [first, second]
  shift _ same := by rw [same]
  missed _ := rfl
  nested same := by rw [same]
  refused := rfl

/-- Logs that have nothing to do with each other. -/
instance {L L' : Type} [Log L] [Log L'] : Log.Related (fun (_ : L) (_ : L') => True) where
  nothing := trivial
  join _ _ := trivial
  shift _ _ := trivial
  missed _ := trivial
  nested _ := trivial
  refused := trivial

namespace Reader

variable {L L' α β : Type}

/-- The two readers come to the same verdict and to related logs, except that a lenient comparison
lets the first one off where it refuses the text. -/
class Follows (lenient : Prop) (R : L → L' → Prop) (p : Reader L α) (q : Reader L' α) : Prop where
  agree : ∀ ahead, lenient ∧ Refuses p ahead ∨
    (p ahead).verdict = (q ahead).verdict ∧ R (p ahead).log (q ahead).log

variable {lenient : Prop} {R : L → L' → Prop}

lemma Follows.verdict_eq {p : Reader L α} {q : Reader L' α} (follows : Follows False R p q)
    (ahead : List Char) : (p ahead).verdict = (q ahead).verdict := by
  rcases follows.agree ahead with ⟨⟨⟩, -⟩ | ⟨same, -⟩
  exact same

/-- Two readers that come to the same in every text follow each other. -/
lemma Follows.of_agree {p : Reader L α} {q : Reader L' α} (agree : ∀ ahead,
    (p ahead).verdict = (q ahead).verdict ∧ R (p ahead).log (q ahead).log) :
    Follows lenient R p q :=
  ⟨fun ahead => .inr (agree ahead)⟩

/-- A lenient comparison lets a reader off that refuses every text. -/
lemma Follows.refuse [Log L] (q : Reader L' α) (letOff : lenient) :
    Follows lenient R (refuse : Reader L α) q :=
  ⟨fun _ => .inl ⟨letOff, 0, rfl⟩⟩

/-- Looking ahead leaves the log that was written for it. -/
lemma log_notAhead (p : Reader L α) (ahead : List Char) :
    (notAhead p ahead).log = (p ahead).log := by
  rw [notAhead]
  cases p ahead with
  | mk verdict log => cases verdict <;> rfl

variable [Log L] [Log L']

/-! ## What sequences and choices come to -/

lemma bind_found {p : Reader L α} {f : α → Reader L β} {ahead : List Char} {a : α} {length : Nat}
    {log : L} (first : p ahead = ⟨.found a length, log⟩) :
    (p >>= f) ahead = ⟨(f a (ahead.drop length)).verdict.shift length,
      Log.join log (Log.shift length (f a (ahead.drop length)).log)⟩ := by
  show andThen p f ahead = _
  rw [andThen, first]

lemma bind_missing {p : Reader L α} {f : α → Reader L β} {ahead : List Char} {log : L}
    (first : p ahead = ⟨.missing, log⟩) : (p >>= f) ahead = ⟨.missing, log⟩ := by
  show andThen p f ahead = _
  rw [andThen, first]

lemma bind_tooDeep {p : Reader L α} {f : α → Reader L β} {ahead : List Char} {offset : Nat}
    {log : L} (first : p ahead = ⟨.tooDeep offset, log⟩) :
    (p >>= f) ahead = ⟨.tooDeep offset, log⟩ := by
  show andThen p f ahead = _
  rw [andThen, first]

lemma orElse_found {p q : Reader L α} {ahead : List Char} {a : α} {length : Nat} {log : L}
    (first : p ahead = ⟨.found a length, log⟩) : (p <|> q) ahead = ⟨.found a length, log⟩ := by
  show orElse p (fun _ => q) ahead = _
  rw [orElse, first]

lemma orElse_missing {p q : Reader L α} {ahead : List Char} {log : L}
    (first : p ahead = ⟨.missing, log⟩) :
    (p <|> q) ahead = ⟨(q ahead).verdict, Log.join log (q ahead).log⟩ := by
  show orElse p (fun _ => q) ahead = _
  rw [orElse, first]

lemma orElse_tooDeep {p q : Reader L α} {ahead : List Char} {offset : Nat} {log : L}
    (first : p ahead = ⟨.tooDeep offset, log⟩) : (p <|> q) ahead = ⟨.tooDeep offset, log⟩ := by
  show orElse p (fun _ => q) ahead = _
  rw [orElse, first]

section

variable {p q : Reader L α} {f : α → Reader L β} {front rest ahead : List Char} {a : α}

lemma log_bind_of_reads (found : Reads p front rest a) :
    ((p >>= f) (front ++ rest)).log =
      Log.join (p (front ++ rest)).log (Log.shift front.length (f a rest).log) := by
  cases outcome : p (front ++ rest) with
  | mk verdict log =>
    rw [Reads, outcome] at found
    obtain rfl : verdict = .found a front.length := found
    rw [bind_found outcome, List.drop_left]

lemma log_bind_of_fails (failed : Misses p ahead ∨ Refuses p ahead) :
    ((p >>= f) ahead).log = (p ahead).log := by
  cases outcome : p ahead with
  | mk verdict log =>
    rw [Misses, Refuses, outcome] at failed
    rcases failed with missing | ⟨offset, refused⟩
    · obtain rfl : verdict = .missing := missing
      rw [bind_missing outcome]
    · obtain rfl : verdict = .tooDeep offset := refused
      rw [bind_tooDeep outcome]

lemma log_orElse_of_misses (missing : Misses p ahead) :
    ((p <|> q) ahead).log = Log.join (p ahead).log (q ahead).log := by
  cases outcome : p ahead with
  | mk verdict log =>
    rw [Misses, outcome] at missing
    obtain rfl : verdict = .missing := missing
    rw [orElse_missing outcome]

lemma log_orElse_of_not_misses (starts : ¬ Misses p ahead) :
    ((p <|> q) ahead).log = (p ahead).log := by
  cases outcome : p ahead with
  | mk verdict log =>
    rw [Misses, outcome] at starts
    cases verdict with
    | found a length => rw [orElse_found outcome]
    | missing => exact absurd rfl starts
    | tooDeep offset => rw [orElse_tooDeep outcome]

end

/-! ## Sequence and choice -/

variable [related : Log.Related R]
include related

instance (a : α) : Follows lenient R (pure a : Reader L α) (pure a : Reader L' α) :=
  .of_agree fun _ => ⟨rfl, related.nothing⟩

instance (p : Reader L α) (q : Reader L' α) (f : α → Reader L β) (g : α → Reader L' β)
    [first : Follows lenient R p q] [second : ∀ a, Follows lenient R (f a) (g a)] :
    Follows lenient R (p >>= f) (q >>= g) where
  agree ahead := by
    rcases first.agree ahead with ⟨letOff, refused⟩ | ⟨same, logs⟩
    · exact .inl ⟨letOff, refused.bind⟩
    cases left : p ahead with
    | mk verdict log =>
      cases right : q ahead with
      | mk verdict' log' =>
        rw [left, right] at same logs
        obtain rfl : verdict = verdict' := same
        cases verdict with
        | missing =>
            rw [bind_missing left, bind_missing right]
            exact .inr ⟨rfl, logs⟩
        | tooDeep offset =>
            rw [bind_tooDeep left, bind_tooDeep right]
            exact .inr ⟨rfl, logs⟩
        | found a length =>
            rw [Refuses, bind_found left, bind_found right]
            rcases (second a).agree (ahead.drop length) with
              ⟨letOff, offset, refused⟩ | ⟨same', logs'⟩
            · exact .inl ⟨letOff, length + offset, by rw [refused, Verdict.shift]⟩
            · exact .inr ⟨by rw [same'], related.join logs (related.shift length logs')⟩

instance (p : Reader L α) (q : Reader L' α) (f : α → β) [first : Follows lenient R p q] :
    Follows lenient R (f <$> p) (f <$> q) where
  agree ahead := by
    rw [refuses_map, verdict_map, verdict_map]
    rcases first.agree ahead with letOff | ⟨same, logs⟩
    · exact .inl letOff
    · exact .inr ⟨by rw [same], logs⟩

instance (p r : Reader L α) (q s : Reader L' α) [first : Follows lenient R p q]
    [second : Follows lenient R r s] : Follows lenient R (p <|> r) (q <|> s) where
  agree ahead := by
    rcases first.agree ahead with ⟨letOff, refused⟩ | ⟨same, logs⟩
    · exact .inl ⟨letOff, refuses_orElse.mpr (.inl refused)⟩
    cases left : p ahead with
    | mk verdict log =>
      cases right : q ahead with
      | mk verdict' log' =>
        rw [left, right] at same logs
        obtain rfl : verdict = verdict' := same
        cases verdict with
        | found a length =>
            rw [orElse_found left, orElse_found right]
            exact .inr ⟨rfl, logs⟩
        | tooDeep offset =>
            rw [orElse_tooDeep left, orElse_tooDeep right]
            exact .inr ⟨rfl, logs⟩
        | missing =>
            rw [Refuses, orElse_missing left, orElse_missing right]
            rcases second.agree ahead with letOff | ⟨same', logs'⟩
            · exact .inl letOff
            · exact .inr ⟨same', related.join logs logs'⟩

instance : Follows lenient R (nowhere : Reader L α) (nowhere : Reader L' α) :=
  .of_agree fun _ => ⟨rfl, related.nothing⟩

instance : Follows lenient R (firstOf [] : Reader L α) (firstOf [] : Reader L' α) :=
  inferInstanceAs (Follows lenient R nowhere nowhere)

instance (p : Reader L α) (q : Reader L' α) (others : List (Reader L α))
    (others' : List (Reader L' α)) [Follows lenient R p q]
    [Follows lenient R (firstOf others) (firstOf others')] :
    Follows lenient R (firstOf (p :: others)) (firstOf (q :: others')) :=
  inferInstanceAs (Follows lenient R (p <|> firstOf others) (q <|> firstOf others'))

/-- Steps that keep readers side by side make readers that are. -/
lemma Follows.loop {step : Reader L α → Reader L α} {step' : Reader L' α → Reader L' α}
    (keeps : ∀ (p : Reader L α) (q : Reader L' α), Follows lenient R p q →
      Follows lenient R (step p) (step' q)) :
    Follows lenient R (loop step) (loop step') where
  agree ahead := by
    have unrolling : ∀ times, Follows lenient R (unrolled step times : Reader L α)
        (unrolled step' times : Reader L' α) := by
      intro times
      induction times with
      | zero => exact inferInstanceAs (Follows lenient R nowhere nowhere)
      | succ times ih => exact keeps _ _ ih
    exact (unrolling _).agree ahead

/-! ## Nesting -/

instance (p : Reader L α) (q : Reader L' α) [inside : Follows lenient R p q] :
    Follows lenient R (nested p) (nested q) where
  agree ahead := by
    rcases inside.agree ahead with letOff | ⟨same, logs⟩
    · exact .inl letOff
    · exact .inr ⟨same, related.nested logs⟩

instance : Follows lenient R (refuse : Reader L α) (refuse : Reader L' α) :=
  .of_agree fun _ => ⟨rfl, related.refused⟩

/-! ## Readers of characters -/

lemma agree_failAt (distance : Nat) (what : String) (ahead : List Char) :
    (failAt distance what ahead : Outcome L α).verdict =
        (failAt distance what ahead : Outcome L' α).verdict ∧
      R (failAt distance what ahead : Outcome L α).log
        (failAt distance what ahead : Outcome L' α).log :=
  ⟨rfl, related.shift distance (related.missed what)⟩

instance (text : String) :
    Follows lenient R (token text : Reader L Unit) (token text : Reader L' Unit) :=
  .of_agree fun ahead => by
    rw [token, token]
    split
    · exact ⟨rfl, related.nothing⟩
    · exact agree_failAt 0 _ ahead

instance (value? : Char → Option α) (what : String) :
    Follows lenient R (pick value? what : Reader L α) (pick value? what : Reader L' α) :=
  .of_agree fun ahead => by
    rw [pick, pick]
    split
    · exact ⟨rfl, related.nothing⟩
    · exact agree_failAt 0 what ahead

instance (accept : Char → Bool) (what : String) :
    Follows lenient R (satisfy accept what : Reader L Char)
      (satisfy accept what : Reader L' Char) :=
  inferInstanceAs (Follows lenient R (pick _ _) (pick _ _))

instance (accept : Char → Bool) (what : String) (atLeast : Nat) :
    Follows lenient R (many accept what atLeast : Reader L (List Char))
      (many accept what atLeast : Reader L' (List Char)) :=
  .of_agree fun ahead => by
    simp only [many]
    split
    · exact agree_failAt _ what ahead
    · exact ⟨rfl, related.nothing⟩

instance : Follows lenient R (digits : Reader L (List Char)) (digits : Reader L' (List Char)) :=
  inferInstanceAs (Follows lenient R (many _ _ _) (many _ _ _))

instance : Follows lenient R (gap : Reader L Unit) (gap : Reader L' Unit) := by
  unfold gap
  infer_instance

instance : Follows lenient R (textBody : Reader L (List Char)) (textBody : Reader L' (List Char)) :=
  .of_agree fun ahead => by
    rw [textBody, textBody]
    split
    · exact ⟨rfl, related.nothing⟩
    · exact agree_failAt _ _ ahead

instance (p : Reader L α) (q : Reader L' α) (value? : α → Option β) (what : String)
    [first : Follows lenient R p q] :
    Follows lenient R (refine p value? what) (refine q value? what) where
  agree ahead := by
    rcases first.agree ahead with ⟨letOff, offset, refused⟩ | ⟨same, logs⟩
    · exact .inl ⟨letOff, offset, by rw [verdict_refine, refused]⟩
    refine .inr ⟨by rw [verdict_refine, verdict_refine, same], ?_⟩
    cases left : p ahead with
    | mk verdict log =>
      cases right : q ahead with
      | mk verdict' log' =>
        rw [left, right] at same logs
        obtain rfl : verdict = verdict' := same
        simp only [Reader.refine, left, right]
        cases verdict with
        | missing => exact logs
        | tooDeep offset => exact logs
        | found raw length =>
            cases taken : value? raw with
            | some value =>
                simp only [taken]
                exact logs
            | none =>
                simp only [taken]
                exact related.join logs (related.missed what)

instance (p : Reader L α) (q : Reader L' α) [first : Follows lenient R p q] :
    Follows lenient R (notAhead p) (notAhead q) where
  agree ahead := by
    rcases first.agree ahead with ⟨letOff, offset, refused⟩ | ⟨same, logs⟩
    · exact .inl ⟨letOff, offset, by rw [verdict_notAhead, refused]⟩
    · refine .inr ⟨by rw [verdict_notAhead, verdict_notAhead, same], ?_⟩
      rw [log_notAhead, log_notAhead]
      exact logs

instance (called : List Char → Bool) (p : Reader L Unit) (q : Reader L' Unit)
    [first : Follows lenient R p q] :
    Follows lenient R (checkWhen called p) (checkWhen called q) where
  agree ahead := by
    simp only [Refuses, checkWhen]
    split
    · exact first.agree ahead
    · exact .inr ⟨rfl, related.nothing⟩

end Reader

end SExpr
