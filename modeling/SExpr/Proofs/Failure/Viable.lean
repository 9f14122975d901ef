import SExpr.Proofs.Reader.Runs
import SExpr.Reader.Furthest

/-!
# Failures that leave a way out

A reading that fails names the furthest place at which something was wanted.  The text up to there
should not be beyond repair: some text that goes on from there can be read.  A reader cannot know
what stands around it, so it is told by a predicate which texts are *open*, and all of its failures
have to leave an open text behind.

* `Furthest.Holds P` — `P` holds of the offset of the failure, if there is one.  A join of failures
  keeps one of the two offsets, so what holds of both parts holds of the join.
* `Begins R` — the usual kind of openness: the text can be continued to something whole.
* `Viable Open p ahead` — every failure of `p` leaves an open text in front of it.  A reader that
  refuses the text is exempt: what it noted by then is never reported.

As with what a reader finds there is one lemma for each combinator.  In a sequence the second
reader is told that what the first one read stands in front.
-/

namespace SExpr

namespace Furthest

/-- Something holds of the offset of the failure, if there is one. -/
def Holds (P : Nat → Prop) (furthest : Furthest) : Prop := ∀ failure ∈ furthest, P failure.offset

variable {P Q : Nat → Prop}

lemma holds_none : Holds P none := by
  intro failure member
  cases member

lemma Holds.mono {furthest : Furthest} (holds : furthest.Holds P)
    (weaker : ∀ offset, P offset → Q offset) : furthest.Holds Q :=
  fun failure member => weaker _ (holds failure member)

lemma Holds.missedAt {offset : Nat} (holds : P offset) (what : String) :
    (missedAt offset what).Holds P := by
  intro failure member
  cases member
  exact holds

lemma Holds.join {a b : Furthest} (first : a.Holds P) (second : b.Holds P) :
    (a.join b).Holds P := by
  cases a with
  | none => exact second
  | some f =>
      cases b with
      | none => exact first
      | some g =>
          have atFirst : P f.offset := first f rfl
          have atSecond : P g.offset := second g rfl
          intro failure member
          simp only [Furthest.join] at member
          split at member
          · cases member; exact atSecond
          · split at member <;> cases member <;> exact atFirst

lemma holds_shift {distance : Nat} {furthest : Furthest} :
    (furthest.shift distance).Holds P ↔ furthest.Holds fun offset => P (distance + offset) := by
  cases furthest with
  | none => exact iff_of_true holds_none holds_none
  | some f => simp [Holds, shift]

/-- The place that is named is one of which the property holds, or the beginning. -/
lemma Holds.offset {furthest : Furthest} (holds : furthest.Holds P) (beginning : P 0) :
    P furthest.offset := by
  cases furthest with
  | none => exact beginning
  | some f => exact holds f rfl

end Furthest

/-- Something that is written in the way of `R` begins with the text. -/
def Begins {α : Type} (R : List Char → α → Prop) (text : List Char) : Prop :=
  ∃ more value, R (text ++ more) value

lemma Begins.of_whole {α : Type} {R : List Char → α → Prop} {text : List Char} {value : α}
    (whole : R text value) : Begins R text :=
  ⟨[], value, by rwa [List.append_nil]⟩

namespace Reader

variable {α β : Type} {Open : List Char → Prop} {ahead : List Char}

/-- Unless the reader refuses the text, its failure leaves an open text in front of it. -/
def Viable (Open : List Char → Prop) (p : Reader Furthest α) (ahead : List Char) : Prop :=
  ¬ Refuses p ahead → (p ahead).log.Holds fun offset => Open (ahead.take offset)

lemma Viable.mono {Open' : List Char → Prop} {p : Reader Furthest α} (viable : Viable Open p ahead)
    (wider : ∀ text, Open text → Open' text) : Viable Open' p ahead :=
  fun accepted => (viable accepted).mono fun _ => wider _

/-! ## Sequence and choice -/

lemma viable_pure {a : α} : Viable Open (pure a) ahead := fun _ => Furthest.holds_none

lemma Viable.bind {p : Reader Furthest α} {f : α → Reader Furthest β} [Bounded p]
    (first : Viable Open p ahead)
    (second : ∀ front rest a, ahead = front ++ rest → Reads p front rest a →
      Viable (fun more => Open (front ++ more)) (f a) rest) :
    Viable Open (p >>= f) ahead := by
  intro accepted
  have begun : (p ahead).log.Holds fun offset => Open (ahead.take offset) :=
    first fun refused => accepted refused.bind
  show (andThen p f ahead).log.Holds _
  rw [andThen]
  cases outcome : p ahead with
  | mk verdict log =>
      rw [outcome] at begun
      cases verdict with
      | missing => exact begun
      | tooDeep offset => exact begun
      | found a length =>
          have reads := Bounded.reads (show (p ahead).verdict = .found a length by rw [outcome])
          have split := (List.take_append_drop length ahead).symm
          have rest : (f a (ahead.drop length)).log.Holds fun offset =>
              Open (ahead.take length ++ (ahead.drop length).take offset) := by
            refine second _ _ a split reads fun refused => accepted ?_
            have whole := reads.bind_refuses refused
            rwa [← split] at whole
          refine begun.join (Furthest.holds_shift.mpr (rest.mono fun offset holds => ?_))
          rwa [← List.take_add] at holds

lemma Viable.map {p : Reader Furthest α} (f : α → β) (viable : Viable Open p ahead) :
    Viable Open (f <$> p) ahead :=
  fun accepted => viable fun refused => accepted (refuses_map.mpr refused)

lemma Viable.orElse {p q : Reader Furthest α} (first : Viable Open p ahead)
    (second : Misses p ahead → Viable Open q ahead) : Viable Open (p <|> q) ahead := by
  intro accepted
  have begun : (p ahead).log.Holds fun offset => Open (ahead.take offset) :=
    first fun refused => accepted (refuses_orElse.mpr (.inl refused))
  show (Reader.orElse p (fun _ => q) ahead).log.Holds _
  rw [Reader.orElse]
  cases outcome : p ahead with
  | mk verdict log =>
      rw [outcome] at begun
      cases verdict with
      | found a length => exact begun
      | tooDeep offset => exact begun
      | missing =>
          have missing : Misses p ahead := by rw [Misses, outcome]
          exact begun.join (second missing fun refused =>
            accepted (refuses_orElse.mpr (.inr ⟨missing, refused⟩)))

lemma viable_nowhere : Viable Open (nowhere : Reader Furthest α) ahead :=
  fun _ => Furthest.holds_none

lemma viable_firstOf {readers : List (Reader Furthest α)}
    (each : ∀ p ∈ readers, Viable Open p ahead) : Viable Open (firstOf readers) ahead := by
  induction readers with
  | nil => exact viable_nowhere
  | cons p others ih =>
      obtain ⟨first, rest⟩ := List.forall_mem_cons.mp each
      exact first.orElse fun _ => ih rest

/-! ## Nesting -/

lemma Viable.nested {p : Reader Furthest α} (viable : Viable Open p ahead) :
    Viable Open (nested p) ahead := by
  intro accepted
  exact Furthest.holds_none.join ((viable accepted).join Furthest.holds_none)

lemma viable_refuse : Viable Open (refuse : Reader Furthest α) ahead :=
  fun accepted => absurd ⟨0, rfl⟩ accepted

/-! ## Characters -/

lemma holds_failAt (Open : List Char → Prop) {offset : Nat} {what : String}
    (isOpen : Open (ahead.take offset)) :
    (failAt offset what ahead : Outcome Furthest α).log.Holds fun offset =>
      Open (ahead.take offset) := by
  show (Furthest.shift offset (Furthest.missedAt 0 what)).Holds _
  exact Furthest.holds_shift.mpr (Furthest.Holds.missedAt isOpen what)

lemma viable_token {text : String} (isOpen : Open []) : Viable Open (token text) ahead := by
  intro _
  rw [token]
  split
  · exact Furthest.holds_none
  · exact holds_failAt Open isOpen

lemma viable_pick {value? : Char → Option α} {what : String} (isOpen : Open []) :
    Viable Open (pick value? what) ahead := by
  intro _
  rw [pick]
  split
  · exact Furthest.holds_none
  · exact holds_failAt Open isOpen

lemma viable_satisfy {accept : Char → Bool} {what : String} (isOpen : Open []) :
    Viable Open (satisfy accept what) ahead :=
  viable_pick isOpen

/-- A run that has to be there fails where it should start. -/
lemma viable_run {accept : Char → Bool} {what : String} (isOpen : Open []) :
    Viable Open (many accept what 1) ahead := by
  intro _
  simp only [many]
  split
  · next short =>
      rw [Nat.lt_one_iff.mp short]
      exact holds_failAt Open isOpen
  · exact Furthest.holds_none

lemma viable_many {accept : Char → Bool} {what : String} :
    Viable Open (many accept what 0) ahead :=
  fun _ => Furthest.holds_none

lemma viable_digits (isOpen : Open []) : Viable Open digits ahead := viable_run isOpen

lemma viable_gap (isOpen : Open []) : Viable Open gap ahead :=
  (viable_run isOpen).bind fun _ _ _ _ _ => viable_pure

/-! ## Checks -/

/-- A value that will not do is a failure where it starts. -/
lemma Viable.refine {p : Reader Furthest α} {value? : α → Option β} {what : String}
    (viable : Viable Open p ahead) (isOpen : Open []) :
    Viable Open (Reader.refine p value? what) ahead := by
  intro accepted
  have begun : (p ahead).log.Holds fun offset => Open (ahead.take offset) := by
    refine viable fun ⟨offset, refused⟩ => accepted ⟨offset, ?_⟩
    rw [verdict_refine, refused]
  rw [Reader.refine]
  cases outcome : p ahead with
  | mk verdict log =>
      rw [outcome] at begun
      cases verdict with
      | missing => exact begun
      | tooDeep offset => exact begun
      | found raw length =>
          cases taken : value? raw with
          | some value => simpa only [taken] using begun
          | none =>
              simp only [taken]
              exact begun.join (Furthest.Holds.missedAt isOpen what)

lemma Viable.notAhead {p : Reader Furthest α} (viable : Viable Open p ahead) :
    Viable Open (notAhead p) ahead := by
  intro accepted
  have begun : (p ahead).log.Holds fun offset => Open (ahead.take offset) := by
    refine viable fun ⟨offset, refused⟩ => accepted ⟨offset, ?_⟩
    rw [verdict_notAhead, refused]
  rw [Reader.notAhead]
  cases outcome : p ahead with
  | mk verdict log =>
      rw [outcome] at begun
      cases verdict <;> exact begun

lemma Viable.checkWhen {called : List Char → Bool} {check : Reader Furthest Unit}
    (viable : Viable Open check ahead) : Viable Open (checkWhen called check) ahead := by
  intro accepted
  by_cases calls : called ahead = true
  · have same : Reader.checkWhen called check ahead = check ahead := if_pos calls
    rw [same]
    refine viable fun ⟨offset, refused⟩ => accepted ⟨offset, ?_⟩
    rw [same, refused]
  · have same : Reader.checkWhen called check ahead = succeed () ahead := if_neg calls
    rw [same]
    exact Furthest.holds_none

end Reader

end SExpr
