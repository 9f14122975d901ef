import SExpr.Proofs.Expression
import SExpr.Session

/-!
# A form is read in one pass

What stands between parentheses could be read in two passes: as items and a tail and, where that
comes to nothing, once more as items alone.  The reader of forms reads every item only once; it
looks for the point in front of each.  It comes to the same because no expression starts with a
point: where one stands the reader of items misses, and it does not matter which of the two has its
turn first.

* `pointedForm`, `plainForm` — the two passes.
* `verdict_form` — where no item starts with a point, a form is what the first pass finds or else
  the second; by induction on the text ahead.
* `verdict_formBody` — the same with what the parentheses hold made a datum, or nothing at all.
* `Session.attempt_formBody` — one pass and two agree from any state of a session.
-/

namespace SExpr

/-- What a form comes to that starts with an item and goes on behind a gap, by what it comes to
there: where nothing more is, the form ends behind the item. -/
def Verdict.behindItem (first : Datum) (width gap : Nat) :
    Verdict Reader.Form → Verdict Reader.Form
  | .missing => .found ⟨[first], none⟩ width
  | more => (more.map (Reader.Form.cons first)).shift (width + gap)

namespace Reader

variable {L α β : Type} [Log L] {item : Reader L Datum} {ahead front space later : List Char}
  {first : Datum}

/-! ## The two passes -/

/-- Read items and a tail. -/
def pointedForm (item : Reader L Datum) : Reader L Form := do
  let data ← spacedItems item
  let tail ← dottedTail item
  return ⟨data, some tail⟩

/-- Read one item or more, and no tail. -/
def plainForm (item : Reader L Datum) : Reader L Form := do
  let data ← items item
  return ⟨data, none⟩

/-- Behind a gap there is what follows it, or nothing more. -/
lemma verdict_more {p : Reader L α} {none : α}
    (isGap : Reads (gap : Reader L Unit) space later ()) :
    (((do gap; p) <|> pure none) (space ++ later)).verdict = match (p later).verdict with
      | .missing => .found none 0
      | more => more.shift space.length := by
  rw [Reads] at isGap
  rw [verdict_orElse, verdict_bind, isGap]
  simp only [List.drop_left]
  cases (p later).verdict <;> rfl

/-- Where no gap is, nothing more is. -/
lemma verdict_no_more {p : Reader L α} {none : α} (noGap : Misses (gap : Reader L Unit) ahead) :
    (((do gap; p) <|> pure none) ahead).verdict = .found none 0 := by
  rw [Misses] at noGap
  rw [verdict_orElse, verdict_bind, noGap]
  rfl

/-- Items that are followed by white space may be none at all. -/
lemma not_misses_spacedItems : ¬ Misses (spacedItems item) ahead := by
  rw [spacedItems_eq, misses_orElse]
  rintro ⟨-, missing⟩
  cases missing

lemma verdict_dottedPair :
    (dottedPair item ahead).verdict = (pointedForm item ahead).verdict.map Form.toDatum := by
  rw [dottedPair, pointedForm, verdict_bind, verdict_bind]
  cases (spacedItems item ahead).verdict with
  | missing => rfl
  | tooDeep offset => rfl
  | found data length =>
      simp only [verdict_bind_pure]
      cases (dottedTail item (ahead.drop length)).verdict <;> rfl

lemma verdict_list :
    (list item ahead).verdict =
      ((plainForm item <|> pure Form.empty) ahead).verdict.map Form.toDatum := by
  rw [list, verdict_bind_pure, verdict_orElse, verdict_orElse, plainForm, verdict_bind_pure]
  cases (items item ahead).verdict <;> rfl

/-! ## One item more -/

section

variable (found : Reads item front (space ++ later) first)
  (isGap : Reads (gap : Reader L Unit) space later ())
include found isGap

lemma verdict_form_cons (noTail : Misses (dottedTail item) (front ++ (space ++ later))) :
    (form item (front ++ (space ++ later))).verdict =
      (form item later).verdict.behindItem first front.length space.length := by
  have noTail' : Misses (Form.ofTail <$> dottedTail item) (front ++ (space ++ later)) :=
    misses_map.mpr noTail
  rw [Misses] at noTail'
  rw [Reads] at found
  rw [congrFun (form_eq item) (front ++ (space ++ later)), verdict_orElse, noTail', verdict_bind,
    found]
  simp only [List.drop_left]
  rw [verdict_bind_pure, verdict_more isGap]
  cases (form item later).verdict <;>
    simp [Verdict.behindItem, Verdict.map, Verdict.shift, Form.cons, Form.empty, Nat.add_assoc]

lemma verdict_plainForm_cons :
    (plainForm item (front ++ (space ++ later))).verdict =
      (plainForm item later).verdict.behindItem first front.length space.length := by
  rw [Reads] at found
  rw [plainForm, verdict_bind_pure, verdict_bind_pure,
    congrFun (items_eq item) (front ++ (space ++ later)), verdict_bind, found]
  simp only [List.drop_left]
  rw [verdict_bind_pure, verdict_more isGap]
  cases (items item later).verdict <;>
    simp [Verdict.behindItem, Verdict.map, Verdict.shift, Form.cons, Nat.add_assoc]

lemma verdict_spacedItems_cons :
    (spacedItems item (front ++ (space ++ later))).verdict =
      ((spacedItems item later).verdict.map (List.cons first)).shift
        (front.length + space.length) := by
  have found' := found
  rw [Reads] at found' isGap
  rw [congrFun (spacedItems_eq item) (front ++ (space ++ later)), verdict_orElse, verdict_bind,
    found']
  simp only [List.drop_left]
  rw [verdict_bind, isGap]
  simp only [List.drop_left]
  rw [verdict_bind_pure]
  cases others : (spacedItems item later).verdict with
  | missing => exact absurd others not_misses_spacedItems
  | found data length => simp [Verdict.map, Verdict.shift, Nat.add_assoc]
  | tooDeep offset => simp [Verdict.map, Verdict.shift, Nat.add_assoc]

lemma verdict_pointedForm_cons :
    (pointedForm item (front ++ (space ++ later))).verdict =
      ((pointedForm item later).verdict.map (Form.cons first)).shift
        (front.length + space.length) := by
  rw [pointedForm, verdict_bind, verdict_bind, verdict_spacedItems_cons found isGap]
  cases (spacedItems item later).verdict with
  | missing => rfl
  | tooDeep offset => rfl
  | found data length =>
      have same : (front ++ (space ++ later)).drop (front.length + space.length + length) =
          later.drop length := by
        rw [Nat.add_assoc, List.drop_length_add_append, List.drop_length_add_append]
      simp only [Verdict.map, Verdict.shift, verdict_bind_pure, same]
      cases (dottedTail item (later.drop length)).verdict <;> simp [Form.cons, Nat.add_assoc]

end

/-! ## No item, or one that nothing follows -/

lemma verdict_pointedForm_of_no_items (nothing : (spacedItems item ahead).verdict = .found [] 0) :
    (pointedForm item ahead).verdict = (dottedTail item ahead).verdict.map Form.ofTail := by
  rw [pointedForm, verdict_bind, nothing]
  simp only [List.drop_zero, verdict_bind_pure]
  cases (dottedTail item ahead).verdict <;> simp [Verdict.map, Verdict.shift, Form.ofTail]

section

variable (missing : Misses item ahead)
include missing

lemma verdict_form_of_misses :
    (form item ahead).verdict = (dottedTail item ahead).verdict.map Form.ofTail := by
  rw [Misses] at missing
  rw [form_eq, verdict_orElse, verdict_map, verdict_bind, missing]
  cases (dottedTail item ahead).verdict <;> rfl

lemma verdict_spacedItems_of_misses : (spacedItems item ahead).verdict = .found [] 0 := by
  rw [Misses] at missing
  rw [spacedItems_eq, verdict_orElse, verdict_bind, missing]
  rfl

lemma misses_plainForm : Misses (plainForm item) ahead := by
  rw [plainForm, items_eq]
  exact missing.bind.bind

end

section

variable {rest : List Char} (found : Reads item front rest first)
  (noGap : Misses (gap : Reader L Unit) rest)
include found noGap

lemma verdict_form_single (noTail : Misses (dottedTail item) (front ++ rest)) :
    (form item (front ++ rest)).verdict = .found ⟨[first], none⟩ front.length := by
  have noTail' : Misses (Form.ofTail <$> dottedTail item) (front ++ rest) := misses_map.mpr noTail
  rw [Misses] at noTail'
  rw [Reads] at found
  rw [form_eq, verdict_orElse, noTail', verdict_bind, found]
  simp only [List.drop_left]
  rw [verdict_bind_pure, verdict_no_more noGap]
  rfl

lemma verdict_plainForm_single :
    (plainForm item (front ++ rest)).verdict = .found ⟨[first], none⟩ front.length := by
  rw [Reads] at found
  rw [plainForm, verdict_bind_pure, items_eq, verdict_bind, found]
  simp only [List.drop_left]
  rw [verdict_bind_pure, verdict_no_more noGap]
  rfl

lemma verdict_spacedItems_single : (spacedItems item (front ++ rest)).verdict = .found [] 0 := by
  have missing : Misses (do
      let first ← item
      gap
      let rest ← spacedItems item
      pure (first :: rest)) (front ++ rest) := found.bind_misses noGap.bind
  rw [Misses] at missing
  rw [spacedItems_eq, verdict_orElse, missing]
  rfl

end

/-! ## One pass comes to what two passes come to -/

section

variable (noPoint : ∀ rest, Misses item ('.' :: rest))
include noPoint

/-- Where the reader of items does not miss, no tail starts. -/
lemma misses_dottedTail_of_not_misses (starts : ¬ Misses item ahead) :
    Misses (dottedTail item) ahead := by
  refine misses_dottedTail ?_
  rintro ⟨rest, rfl⟩
  exact starts (noPoint rest)

lemma verdict_form_of_tooDeep {offset : Nat} (refused : (item ahead).verdict = .tooDeep offset) :
    (form item ahead).verdict = .tooDeep offset ∧
      (pointedForm item ahead).verdict = .tooDeep offset := by
  have noTail : Misses (Form.ofTail <$> dottedTail item) ahead := by
    refine misses_map.mpr (misses_dottedTail_of_not_misses noPoint fun missing => ?_)
    exact missing.not_refuses ⟨offset, refused⟩
  rw [Misses] at noTail
  constructor
  · rw [form_eq, verdict_orElse, noTail, verdict_bind, refused]
  · rw [pointedForm, verdict_bind, spacedItems_eq, verdict_orElse, verdict_bind, refused]

/-- A form is what the first pass finds or else what the second one finds. -/
lemma verdict_form [Bounded item] : ∀ ahead : List Char,
    (form item ahead).verdict = ((pointedForm item <|> plainForm item) ahead).verdict := by
  intro ahead
  induction h : ahead.length using Nat.strongRecOn generalizing ahead with
  | ind n ih =>
    rw [verdict_orElse]
    rcases Bounded.verdict_cases item ahead with
      ⟨front, rest, first, rfl, found⟩ | missing | ⟨offset, refused⟩
    · have noTail : Misses (dottedTail item) (front ++ rest) :=
        misses_dottedTail_of_not_misses noPoint found.not_misses
      rcases Shallow.verdict_cases (gap : Reader L Unit) rest with
        ⟨space, later, _, rfl, isGap⟩ | noGap
      -- An item more: what follows the gap is shorter, and each reading goes on there.
      · have shorter : later.length < n := by
          have nonempty := List.length_pos_iff.mpr (reads_gap.mp isGap).1.1
          simp only [List.length_append] at h
          omega
        rw [verdict_form_cons found isGap noTail, verdict_plainForm_cons found isGap,
          verdict_pointedForm_cons found isGap, ih _ shorter later rfl, verdict_orElse]
        cases (pointedForm item later).verdict <;> rfl
      -- The last item: the first pass gives it back and wants a tail in its place.
      · have nothing := verdict_spacedItems_single found noGap
        rw [Misses] at noTail
        rw [verdict_form_single found noGap noTail, verdict_plainForm_single found noGap,
          verdict_pointedForm_of_no_items nothing, noTail]
        rfl
    -- No item: only the first pass can find something, the tail.
    · have nothing := verdict_spacedItems_of_misses missing
      have noItems : (plainForm item ahead).verdict = .missing := misses_plainForm missing
      rw [verdict_form_of_misses missing, verdict_pointedForm_of_no_items nothing, noItems]
      cases (dottedTail item ahead).verdict <;> rfl
    · obtain ⟨once, twice⟩ := verdict_form_of_tooDeep noPoint refused
      rw [once, twice]

/-- What stands between parentheses is read in one pass as it is in two: as a dotted pair or else as
a list. -/
lemma verdict_formBody [Bounded item] (ahead : List Char) :
    (formBody item ahead).verdict = (firstOf [dottedPair item, list item] ahead).verdict := by
  rw [formBody, verdict_bind_pure, verdict_orElse, verdict_form noPoint, verdict_orElse, firstOf,
    verdict_orElse, verdict_dottedPair, firstOf, verdict_orElse, verdict_list, verdict_orElse]
  cases (pointedForm item ahead).verdict with
  | found form length => rfl
  | tooDeep offset => rfl
  | missing => cases (plainForm item ahead).verdict <;> rfl

end

/-- Whatever the room for items is, one pass and two come to the same: without any both are
refused, if not at the same place. -/
lemma formBody_agrees (composites : Bool) (room : Nat) (ahead : List Char) :
    let item : Reader L Datum := Reader.item composites room
    Refuses (formBody item) ahead ∧ Refuses (firstOf [dottedPair item, list item]) ahead ∨
      (formBody item ahead).verdict = (firstOf [dottedPair item, list item] ahead).verdict := by
  intro item
  have serves : Serves composites room item := serves_item composites room
  rcases Nat.eq_zero_or_pos room with full | some
  · have once : Refuses (formBody item) ahead :=
      (refuses_orElse.mpr (.inl (serves.refuses_form full ahead))).bind
    have twice : Refuses (dottedPair item) ahead := (serves.refuses_spacedItems full ahead).bind
    exact .inl ⟨once, refuses_orElse.mpr (.inl twice)⟩
  · have noPoint : ∀ rest, Misses item ('.' :: rest) := fun rest =>
      serves.misses some (Stops.cons rfl)
    exact .inr (verdict_formBody noPoint ahead)

-- The place of a refusal can differ: one pass takes the point before it wants an item.
example :
    (formBody (refuse : Reader Trace Datum) ". a".toList).verdict = .tooDeep 2 ∧
      (dottedPair (refuse : Reader Trace Datum) ". a".toList).verdict = .tooDeep 0 :=
  ⟨rfl, rfl⟩

end Reader

open Reader

/-- From any state of a session and at any offset, what stands between parentheses is read in one
pass as it is in two, by the readers of dotted pairs and of lists: one of them is refused just if
the other is, and otherwise they come to the same datum and the same end. -/
theorem Session.attempt_formBody (session : Session) (offset : Nat) :
    let reader (recognizer : Recognizer) : Reader Trace Datum :=
      recognizer.reader session.options.composites (session.options.room session.depth)
    let onePass := (session.attempt (reader .formBody) offset).1
    let twoPasses := (session.attempt (firstOf [reader .dottedPair, reader .list]) offset).1
    ((∃ place, onePass = .tooDeep place) ↔ ∃ place, twoPasses = .tooDeep place) ∧
      ((∃ place, onePass = .tooDeep place) ∨ onePass = twoPasses) := by
  intro reader onePass twoPasses
  rcases formBody_agrees (L := Trace) session.options.composites
    (session.options.room session.depth) (session.source.drop offset) with
    ⟨⟨place, once⟩, place', twice⟩ | same
  · have once' : onePass = .tooDeep (offset + place) := congrArg (Verdict.shift offset) once
    have twice' : twoPasses = .tooDeep (offset + place') := congrArg (Verdict.shift offset) twice
    exact ⟨iff_of_true ⟨_, once'⟩ ⟨_, twice'⟩, .inl ⟨_, once'⟩⟩
  · have same' : onePass = twoPasses := congrArg (Verdict.shift offset) same
    rw [same']
    exact ⟨Iff.rfl, .inr rfl⟩

end SExpr
