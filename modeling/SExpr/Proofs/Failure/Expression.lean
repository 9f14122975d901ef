import SExpr.Proofs.Expression
import SExpr.Proofs.Failure.Literal

/-!
# Failures of the composite expressions

Behind whatever a reader of sequences has read so far an item can follow, or the end of the
sequence, or a point and a tail.  Which of these is wanted depends on the place, and there is always
room for it: where there is none the first item is refused before anything is noted.

* `Low composites room` — expressions that are lower than the room.
* `viable_items`, `viable_spacedItems`, `viable_form` — failures of the sequences, given those of
  the reader of items, by induction on the text ahead.
* `viable_item` — failures of the reader of nested expressions, by induction on the levels.
* `Entry.viable` — every entry but one fails only behind a text that begins something it reads; the
  reader of quoted expressions can fail at once where there is no room for what is quoted.
-/

namespace SExpr

open Grammar

namespace Reader

variable {item : Reader Furthest Datum} {R : List Char → Datum → Prop}
  {Open : List Char → Prop} {ahead : List Char}

/-! ## Sequences -/

/-- Behind white space there is less text ahead. -/
lemma viable_gap_bind {α : Type} {p : Reader Furthest α} (isOpen : Open [])
    (behind : ∀ space later, Gap space → later.length < ahead.length →
      Viable (fun more => Open (space ++ more)) p later) :
    Viable Open (do gap; p) ahead := by
  refine (viable_gap isOpen).bind fun space later _ split found => ?_
  have isGap := (reads_gap.mp found).1
  have nonempty := List.length_pos_iff.mpr isGap.1
  refine behind space later isGap ?_
  rw [split, List.length_append]
  omega

lemma begins_pointedTail {space text : List Char} (isGap : Gap space) (begins : Begins R text) :
    Begins (PointedTail R) ('.' :: (space ++ text)) := by
  obtain ⟨more, tail, last⟩ := begins
  refine ⟨more, tail, ?_⟩
  rw [List.cons_append, List.append_assoc]
  exact .mk isGap last

lemma exists_pointedTail (inhabited : Begins R []) : ∃ text tail, PointedTail R text tail := by
  obtain ⟨more, tail, pointed⟩ := begins_pointedTail gap_blank inhabited
  exact ⟨_, tail, pointed⟩

lemma viable_dottedTail (viable : ∀ ahead, Viable (Begins R) item ahead) (inhabited : Begins R []) :
    Viable (Begins (PointedTail R)) (dottedTail item) ahead := by
  obtain ⟨text, tail, last⟩ := inhabited
  have pointed : PointedTail R ('.' :: ([' '] ++ text)) tail := .mk gap_blank last
  refine (viable_token ⟨_, tail, pointed⟩).bind fun front rest _ _ found => ?_
  obtain rfl := reads_token.mp found
  refine viable_gap_bind ⟨_, tail, pointed⟩ fun space later isGap _ => (viable later).mono ?_
  exact fun text => begins_pointedTail isGap

section

variable [Bounded item]
  (sound : ∀ front rest datum, Reads item front rest datum → R front datum)
  (viable : ∀ ahead, Viable (Begins R) item ahead)
include sound viable

lemma viable_items : ∀ {ahead : List Char}, Viable (Begins (Separated R)) (items item) ahead := by
  intro ahead
  induction h : ahead.length using Nat.strongRecOn generalizing ahead with
  | ind n ih =>
    rw [items_eq]
    refine ((viable ahead).mono ?_).bind fun front rest datum split found => ?_
    · rintro text ⟨more, datum, whole⟩
      exact ⟨more, [datum], .single whole⟩
    · have first := sound _ _ _ found
      refine Viable.bind (Viable.orElse ?_ fun _ => viable_pure) fun _ _ _ _ _ => viable_pure
      refine viable_gap_bind ?_ fun space later isGap shorter => ?_
      · rw [List.append_nil]
        exact .of_whole (.single first)
      · rw [split, List.length_append] at h
        refine (ih _ (by omega) rfl).mono ?_
        rintro text ⟨more, data, others⟩
        refine ⟨more, datum :: data, ?_⟩
        rw [List.append_assoc, List.append_assoc]
        exact .cons first isGap others

lemma viable_spacedItems : ∀ {ahead : List Char},
    Viable (Begins (Terminated R)) (spacedItems item) ahead := by
  intro ahead
  induction h : ahead.length using Nat.strongRecOn generalizing ahead with
  | ind n ih =>
    rw [spacedItems_eq]
    refine Viable.orElse (((viable ahead).mono ?_).bind fun front rest datum split found => ?_)
      fun _ => viable_pure
    · rintro text ⟨more, datum, whole⟩
      refine ⟨more ++ [' '], [datum], ?_⟩
      rw [← List.append_assoc]
      exact .cons whole gap_blank .nil
    · have first := sound _ _ _ found
      refine viable_gap_bind ?_ fun space later isGap shorter => ?_
      · refine ⟨[' '], [datum], ?_⟩
        rw [List.append_nil]
        exact .cons first gap_blank .nil
      · rw [split, List.length_append] at h
        refine Viable.bind ((ih _ (by omega) rfl).mono ?_) fun _ _ _ _ _ => viable_pure
        rintro text ⟨more, data, others⟩
        refine ⟨more, datum :: data, ?_⟩
        rw [List.append_assoc, List.append_assoc]
        exact .cons first isGap others

variable (inhabited : Begins R [])
include inhabited

lemma viable_form : ∀ {ahead : List Char},
    Viable (Begins fun text body => Form.Derived R text body) (form item) ahead := by
  intro ahead
  induction h : ahead.length using Nat.strongRecOn generalizing ahead with
  | ind n ih =>
    rw [form_eq]
    refine Viable.orElse (Viable.map _ ((viable_dottedTail viable inhabited).mono ?_)) fun _ =>
      ((viable ahead).mono ?_).bind fun front rest datum split found => ?_
    · rintro text ⟨more, tail, pointed⟩
      have dotted : DottedSequence R ([] ++ (text ++ more)) [] tail := .mk .nil pointed
      exact ⟨more, ⟨[], some tail⟩, dotted⟩
    · rintro text ⟨more, datum, whole⟩
      exact ⟨more, ⟨[datum], none⟩, .single whole⟩
    · have first := sound _ _ _ found
      have single : Form.Derived R front ⟨[datum], none⟩ := .single first
      refine Viable.bind (Viable.orElse ?_ fun _ => viable_pure) fun _ _ _ _ _ => viable_pure
      refine viable_gap_bind ?_ fun space later isGap shorter => ?_
      · rw [List.append_nil]
        exact .of_whole single
      · rw [split, List.length_append] at h
        refine (ih _ (by omega) rfl).mono ?_
        rintro text ⟨more, body, others⟩
        refine ⟨more, body.cons datum, ?_⟩
        rw [List.append_assoc, List.append_assoc]
        exact others.cons first isGap

end

/-! ## Expressions -/

variable {composites : Bool} {room : Nat}

lemma begins_low (composites : Bool) (some : 0 < room) : Begins (Low composites room) [] := by
  obtain ⟨more, datum, lexeme⟩ := BeginsLexeme.nil
  exact ⟨more, datum, .lexeme lexeme, lexeme.height_eq ▸ some⟩

lemma begins_low_of_lexeme {text : List Char} (begins : BeginsLexeme text) (some : 0 < room) :
    Begins (Low composites room) text := by
  obtain ⟨more, datum, lexeme⟩ := begins
  exact ⟨more, datum, .lexeme lexeme, lexeme.height_eq ▸ some⟩

section

variable [Bounded item] (serves : Serves composites room item)
  (viable : ∀ ahead, Viable (Begins (Low composites room)) item ahead)
include viable

lemma viable_quoted (allowed : composites = true) :
    Viable (Begins (Low composites (room + 1))) (quoted item) ahead := by
  have begins := begins_low composites (Nat.succ_pos room)
  refine (viable_token begins).bind fun front rest _ _ found => ?_
  obtain rfl := reads_token.mp found
  refine Viable.bind ((viable rest).mono ?_) fun _ _ _ _ _ => viable_pure
  rintro text ⟨more, datum, derives, low⟩
  exact ⟨more, datum.quote, .quoted allowed derives,
    Nat.lt_succ_of_le (Datum.height_quote_le_iff.mpr low)⟩

include serves

/-- A form that was begun can be closed. -/
lemma viable_formBody (allowed : composites = true) :
    Viable (fun text => Begins (Low composites (room + 1)) ('(' :: text)) (formBody item)
      ahead := by
  rcases Nat.eq_zero_or_pos room with full | some
  -- Without room the first item is refused, and what was noted by then is not reported.
  · have refused := serves.refuses_form full ahead
    exact absurd (refuses_orElse.mpr (.inl refused)).bind
  · have inside := begins_low composites some
    refine Viable.bind (Viable.orElse ((viable_form serves.sound viable inside).mono ?_)
      fun _ => viable_pure) fun _ _ _ _ _ => viable_pure
    rintro text ⟨more, body, derived⟩
    have closed := Form.Inside.parenthesized (.inl derived) allowed blank_nil
    refine ⟨more ++ [')'], body.toDatum, ?_⟩
    rw [List.cons_append, ← List.append_assoc]
    exact ⟨closed.1, Nat.lt_succ_of_le closed.2⟩

lemma viable_parenthesized (allowed : composites = true) :
    Viable (Begins (Low composites (room + 1))) (parenthesized item) ahead := by
  have begins := begins_low composites (Nat.succ_pos room)
  refine (viable_token begins).bind fun front rest _ _ found => ?_
  obtain rfl := reads_token.mp found
  refine (viable_formBody serves viable allowed).bind fun text later datum _ found => ?_
  obtain ⟨body, inside, rfl⟩ := inside_of_reads_formBody serves found
  refine viable_many.bind fun blank behind _ _ found => ?_
  have space : Blank blank := (reads_many.mp found).2.2.1
  refine (viable_token ?_).bind fun _ _ _ _ _ => viable_pure
  have closed := inside.parenthesized allowed space
  refine ⟨[')'], body.toDatum, ?_, Nat.lt_succ_of_le closed.2⟩
  simpa using closed.1

lemma viable_dispatch :
    Viable (Begins (Low composites (room + 1))) (dispatch Literal.inOrder composites item)
      ahead := by
  refine Viable.orElse ((viable_firstIn _).mono fun text begins =>
    begins_low_of_lexeme begins (Nat.succ_pos room)) fun _ => ?_
  rw [composite]
  split
  · next allowed =>
      exact (viable_quoted viable allowed).orElse fun _ =>
        (viable_parenthesized serves viable allowed).orElse fun _ => viable_nowhere
  · exact viable_nowhere

end

/-- Failures of the reader of nested expressions, by induction on the levels. -/
lemma viable_item (composites : Bool) (room : Nat) : ∀ ahead,
    Viable (Begins (Low composites room)) (Reader.item composites room) ahead := by
  induction room with
  | zero => exact fun ahead => viable_refuse
  | succ room ih => exact fun ahead => (viable_dispatch (serves_item composites room) ih).nested

end Reader

end SExpr
