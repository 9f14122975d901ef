import Mathlib.Data.List.Nodup
import Mathlib.Data.List.Perm.Subperm
import SExpr.Proofs.Reader.Writes
import SExpr.Reader.Visits

/-!
# What readers visit

The offsets that a reader visits are kept apart by where they lie: what is read first ends before
what is read next begins.  So the visits of a reader are bounded on both sides, and two readers one
after another visit nothing in common.

* `Visits.Within low high` — no offset twice, and none outside of `low` and `high`.
* `Silent p` — `p` enters no nested expression at all.
* `Idle p ahead` — `p` finds nothing in a text, and enters nothing either.
* `Roams low p` — `p` visits what lies between the offset `low` and the end of the text and, where
  it finds something, only what lies inside of that.
* `Roams.bind`, `Roams.orElse`, `Roams.nested` — one lemma for each way to build readers.
-/

namespace SExpr

/-! ## Intervals -/

namespace Visits

attribute [ext] Visits

variable {low mid mid' high low' high' : Nat} {a b : Visits}

@[simp] lemma nothing_join : Log.join Log.nothing a = a := rfl

@[simp] lemma join_nothing : Log.join a Log.nothing = a := Visits.ext (List.append_nil _)

@[simp] lemma shift_nothing (distance : Nat) :
    Log.shift distance (Log.nothing : Visits) = Log.nothing := rfl

/-- No offset twice, and none outside of the bounds. -/
structure Within (low high : Nat) (visits : Visits) : Prop where
  nodup : visits.offsets.Nodup
  bounds : ∀ offset ∈ visits.offsets, low ≤ offset ∧ offset < high

namespace Within

lemma nothing : Within low high Log.nothing where
  nodup := List.nodup_nil
  bounds := List.forall_mem_nil _

lemma mono (visits : Within low high a) (lower : low' ≤ low) (upper : high ≤ high') :
    Within low' high' a where
  nodup := visits.nodup
  bounds offset member := by
    have bounds := visits.bounds offset member
    exact ⟨Nat.le_trans lower bounds.1, Nat.lt_of_lt_of_le bounds.2 upper⟩

/-- What lies further right was not visited before. -/
lemma join (before : Within low mid a) (after : Within mid' high b) (apart : mid ≤ mid')
    (lower : low ≤ mid') (upper : mid ≤ high) : Within low high (Log.join a b) where
  nodup := by
    refine List.nodup_append.mpr ⟨before.nodup, after.nodup, ?_⟩
    intro offset first offset' second same
    have left := before.bounds offset first
    have right := after.bounds offset' second
    omega
  bounds offset member := by
    rcases List.mem_append.mp member with first | second
    · have left := before.bounds offset first
      omega
    · have right := after.bounds offset second
      omega

/-- Which of two was visited first does not matter. -/
lemma join_comm (visits : Within low high (Log.join a b)) : Within low high (Log.join b a) where
  nodup := List.nodup_append_comm.mp visits.nodup
  bounds offset member :=
    visits.bounds offset (List.mem_append.mpr (List.mem_append.mp member).symm)

lemma shift (visits : Within low high a) (distance : Nat) :
    Within (distance + low) (distance + high) (Log.shift distance a) where
  nodup := visits.nodup.map fun _ _ => Nat.add_left_cancel
  bounds offset member := by
    obtain ⟨inner, first, rfl⟩ := List.mem_map.mp member
    have bounds := visits.bounds inner first
    omega

/-- A nested expression is entered where it starts, and what is visited inside lies behind. -/
lemma nested (visits : Within 1 high a) (nonempty : 1 ≤ high) :
    Within 0 high (Log.join Log.opened (Log.join a Log.closed)) := by
  have entered : Within 0 1 (Log.opened : Visits) := ⟨List.nodup_singleton 0, by simp [Log.opened]⟩
  have left : Log.join a Log.closed = a := join_nothing
  rw [left]
  exact entered.join visits (Nat.le_refl 1) (Nat.zero_le 1) nonempty

lemma refused : Within 0 1 (Log.join Log.opened Log.closed : Visits) :=
  ⟨List.nodup_singleton 0, by simp [Log.join, Log.opened, Log.closed]⟩

/-- There are no more visits than there are offsets. -/
lemma length_le (visits : Within low high a) : a.offsets.length ≤ high := by
  have inside : a.offsets ⊆ List.range high := fun offset member =>
    List.mem_range.mpr (visits.bounds offset member).2
  have fewer := (visits.nodup.subperm inside).length_le
  rwa [List.length_range] at fewer

end Within

/-- Noting what was wanted is no visit. -/
instance : Log.Kept (fun _ (visits : Visits) => visits = Log.nothing) where
  nothing _ := rfl
  join first second := by rw [first, second]; rfl
  shift distance same := by rw [same]; rfl
  missed _ _ _ := rfl

end Visits

namespace Reader

variable {L α β : Type} [Log L]

/-! ## Readers that stay -/

/-- The reader enters no nested expression. -/
abbrev Silent (p : Reader Visits α) : Prop := Writes (fun _ visits => visits = Log.nothing) p

/-- The reader finds nothing in the text, and enters nothing either. -/
structure Idle (p : Reader Visits α) (ahead : List Char) : Prop where
  misses : Misses p ahead
  log : (p ahead).log = Log.nothing

namespace Idle

variable {p q : Reader Visits α} {ahead : List Char}

lemma of_silent [silent : Silent p] (missing : Misses p ahead) : Idle p ahead :=
  ⟨missing, silent.log ahead⟩

/-- Where its first token is missed, a reader is idle. -/
lemma token {text : String} {f : Unit → Reader Visits α}
    (missing : Misses (Reader.token text : Reader Visits Unit) ahead) :
    Idle (Reader.token text >>= f) ahead where
  misses := missing.bind
  log := by
    rw [log_bind_of_fails (.inl missing)]
    exact (of_silent missing).log

lemma map (idle : Idle p ahead) (f : α → β) : Idle (f <$> p) ahead :=
  ⟨misses_map.mpr idle.misses, idle.log⟩

/-- What an idle first alternative leaves is what the second one does. -/
lemma log_orElse (idle : Idle p ahead) : ((p <|> q) ahead).log = (q ahead).log := by
  rw [log_orElse_of_misses idle.misses, idle.log, Visits.nothing_join]

lemma orElse (first : Idle p ahead) (second : Idle q ahead) : Idle (p <|> q) ahead :=
  ⟨misses_orElse.mpr ⟨first.misses, second.misses⟩, first.log_orElse.trans second.log⟩

lemma nowhere (ahead : List Char) : Idle (Reader.nowhere : Reader Visits α) ahead := ⟨rfl, rfl⟩

end Idle

/-! ## Readers that roam -/

/-- The reader visits what lies behind an offset and, where it finds something, inside of that. -/
structure Roams (low : Nat) (p : Reader Visits α) : Prop where
  anywhere : ∀ ahead, (p ahead).log.Within low (ahead.length + 1)
  inside : ∀ {front rest : List Char} {a : α}, Reads p front rest a →
    (p (front ++ rest)).log.Within low front.length

variable {low : Nat} {p q : Reader Visits α} {f : α → Reader Visits β}

/-- A silent first part leaves only what the second visits. -/
lemma log_bind_of_silent [silent : Silent p] {front rest : List Char} {a : α}
    (found : Reads p front rest a) :
    ((p >>= f) (front ++ rest)).log = Log.shift front.length (f a rest).log := by
  rw [log_bind_of_reads found, silent.log, Visits.nothing_join]

lemma Roams.of_silent [silent : Silent p] : Roams low p where
  anywhere ahead := by rw [silent.log ahead]; exact .nothing
  inside {front rest _} _ := by rw [silent.log (front ++ rest)]; exact .nothing

/-- The second part visits what lies behind all that the first part found. -/
lemma Roams.bind (behind : Nat) [Bounded p] (first : Roams low p)
    (second : ∀ a, Roams behind (f a))
    (further : ∀ {front rest : List Char} {a : α}, Reads p front rest a →
      low ≤ front.length + behind) : Roams low (p >>= f) where
  anywhere ahead := by
    rcases Bounded.verdict_cases p ahead with ⟨front, rest, a, rfl, found⟩ | failed
    · have visits := ((second a).anywhere rest).shift front.length
      have bound := further found
      rw [log_bind_of_reads found, List.length_append]
      exact (first.inside found).join visits (by omega) bound (by omega)
    · rw [log_bind_of_fails failed]
      exact first.anywhere ahead
  inside {front rest b} found := by
    obtain ⟨a, left, right, rfl, found, found'⟩ := reads_bind.mp found
    have visits := ((second a).inside found').shift left.length
    have bound := further found
    rw [List.append_assoc, log_bind_of_reads found, List.length_append]
    exact (first.inside found).join visits (by omega) bound (by omega)

/-- Of two alternatives only one visits anything: where the first one does, the second one is
idle. -/
lemma Roams.orElse (first : Roams low p) (second : Roams low q)
    (apart : ∀ ahead, (p ahead).log = Log.nothing ∨ Idle q ahead) : Roams low (p <|> q) where
  anywhere ahead := by
    by_cases missing : Misses p ahead
    · rw [log_orElse_of_misses missing]
      rcases apart ahead with silent | idle
      · rw [silent]; exact second.anywhere ahead
      · rw [idle.log, Visits.join_nothing]; exact first.anywhere ahead
    · rw [log_orElse_of_not_misses missing]
      exact first.anywhere ahead
  inside {front rest a} found := by
    rcases reads_orElse.mp found with found | ⟨missing, found⟩
    · rw [log_orElse_of_not_misses found.not_misses]
      exact first.inside found
    · rw [log_orElse_of_misses missing]
      rcases apart (front ++ rest) with silent | idle
      · rw [silent]; exact second.inside found
      · exact absurd idle.misses found.not_misses

/-- A nested expression is visited where it starts, and takes up some text. -/
lemma Roams.nested (inside : Roams 1 p)
    (nonempty : ∀ {front rest : List Char} {a : α}, Reads p front rest a → 1 ≤ front.length) :
    Roams 0 (nested p) where
  anywhere ahead := (inside.anywhere ahead).nested (Nat.le_add_left 1 _)
  inside found := (inside.inside found).nested (nonempty found)

lemma roams_refuse : Roams 0 (refuse : Reader Visits α) where
  anywhere _ := Visits.Within.refused.mono (Nat.le_refl 0) (Nat.le_add_left 1 _)
  inside found := by cases found

end Reader

end SExpr
