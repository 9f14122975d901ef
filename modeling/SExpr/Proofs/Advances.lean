import SExpr.Entry
import SExpr.Proofs.Reader.Runs

/-!
# What is found takes up text

A sequence is read in a loop, and what keeps the loop going forward is that white space takes at
least one character.  That every expression takes one too is more than the loop needs, and has a
reason in each reader: somewhere along its sequence stands a token, a single character or a run that
may not be empty.  Only a bare sequence and the inside of a pair of parentheses can be empty, and
then they are read as the empty list.

* `Advances p` — what `p` finds takes at least one character.
* `reads_list_nil_iff`, `reads_formBody_nil_iff` — the two readers that find something in no text,
  and what they find there.
-/

namespace SExpr.Reader

variable {L α β : Type}

/-- What the reader finds takes at least one character. -/
class Advances (p : Reader L α) : Prop where
  nonempty : ∀ {front rest : List Char} {value : α}, Reads p front rest value → front ≠ []

variable [Log L]

/-! ## Sequence and choice -/

/-- A sequence goes forward where its first part does. -/
instance (p : Reader L α) (f : α → Reader L β) [first : Advances p] : Advances (p >>= f) where
  nonempty found := by
    obtain ⟨a, left, right, rfl, start, -⟩ := reads_bind.mp found
    exact List.append_ne_nil_of_left_ne_nil (first.nonempty start) right

/-- Or where what comes after does. -/
instance (p : Reader L α) (f : α → Reader L β) [later : ∀ a, Advances (f a)] :
    Advances (p >>= f) where
  nonempty found := by
    obtain ⟨a, left, right, rfl, -, finish⟩ := reads_bind.mp found
    exact List.append_ne_nil_of_right_ne_nil left ((later a).nonempty finish)

instance (p : Reader L α) (f : α → β) [inside : Advances p] : Advances (f <$> p) where
  nonempty found := by
    obtain ⟨a, found, -⟩ := reads_map.mp found
    exact inside.nonempty found

instance (p q : Reader L α) [first : Advances p] [second : Advances q] : Advances (p <|> q) where
  nonempty found := by
    rcases reads_orElse.mp found with found | ⟨-, found⟩
    · exact first.nonempty found
    · exact second.nonempty found

instance : Advances (nowhere : Reader L α) where
  nonempty found := absurd found not_reads_nowhere

instance : Advances (firstOf [] : Reader L α) := inferInstanceAs (Advances nowhere)

instance (p : Reader L α) (others : List (Reader L α)) [Advances p] [Advances (firstOf others)] :
    Advances (firstOf (p :: others)) :=
  inferInstanceAs (Advances (p <|> firstOf others))

instance (p : Reader L α) [inside : Advances p] : Advances (nested p) where
  nonempty := inside.nonempty

instance : Advances (refuse : Reader L α) where
  nonempty found := by cases found

/-! ## Readers of characters -/

lemma advances_token {text : String} (nonempty : text.toList ≠ []) :
    Advances (token text : Reader L Unit) where
  nonempty found := by rwa [reads_token.mp found]

instance : Advances (token "\"" : Reader L Unit) := advances_token (List.cons_ne_nil _ _)

instance : Advances (token "#" : Reader L Unit) := advances_token (List.cons_ne_nil _ _)

instance : Advances (token "#\\" : Reader L Unit) := advances_token (List.cons_ne_nil _ _)

instance : Advances (token "'" : Reader L Unit) := advances_token (List.cons_ne_nil _ _)

instance : Advances (token "." : Reader L Unit) := advances_token (List.cons_ne_nil _ _)

instance : Advances (token "(" : Reader L Unit) := advances_token (List.cons_ne_nil _ _)

instance (value? : Char → Option α) (what : String) :
    Advances (pick value? what : Reader L α) where
  nonempty found := by
    obtain ⟨c, rfl, -⟩ := reads_pick.mp found
    exact List.cons_ne_nil c []

instance (accept : Char → Bool) (what : String) :
    Advances (satisfy accept what : Reader L Char) :=
  inferInstanceAs (Advances (pick _ _))

instance (accept : Char → Bool) (what : String) :
    Advances (many accept what 1 : Reader L (List Char)) where
  nonempty found := (reads_run.mp found).2.1.1

instance : Advances (digits : Reader L (List Char)) := inferInstanceAs (Advances (many _ _ 1))

instance : Advances (gap : Reader L Unit) := by
  unfold gap
  infer_instance

/-! ## Literals -/

instance : Advances (boolean : Reader L Datum) := by unfold boolean; infer_instance

instance : Advances (character : Reader L Datum) := by unfold character; infer_instance

instance : Advances (radixInteger : Reader L Datum) := by unfold radixInteger; infer_instance

instance : Advances (atom : Reader L Datum) := by unfold atom; infer_instance

instance : Advances (text : Reader L Datum) := by unfold text; infer_instance

instance : Advances (natural : Reader L Nat) := by unfold natural; infer_instance

instance : Advances (plainInteger : Reader L Datum) := by unfold plainInteger; infer_instance

instance : Advances (integer : Reader L Datum) := by unfold integer; infer_instance

instance : Advances (decimal : Reader L Binary64) := by unfold decimal; infer_instance

instance : Advances (float : Reader L Datum) := by unfold float; infer_instance

instance : Advances (ratio : Reader L Datum) := by unfold ratio; infer_instance

instance : Advances (part : Reader L Part) := by unfold part; infer_instance

instance : Advances (complex : Reader L Datum) := by unfold complex; infer_instance

instance (kind : Literal) : Advances (kind.reader : Reader L Datum) := by
  cases kind <;> unfold Literal.reader <;> infer_instance

instance (order : List Literal) : Advances (Literal.firstIn order : Reader L Datum) := by
  unfold Literal.firstIn
  induction order with
  | nil => exact inferInstanceAs (Advances (firstOf []))
  | cons kind others ih => exact inferInstanceAs (Advances (firstOf (kind.reader :: _)))

/-! ## Composite expressions -/

section

variable (item : Reader L Datum)

instance : Advances (quoted item) := by unfold quoted; infer_instance

instance : Advances (dottedTail item) := by unfold dottedTail; infer_instance

instance : Advances (dottedPair item) := by unfold dottedPair; infer_instance

instance : Advances (parenthesized item) := by unfold parenthesized; infer_instance

instance (allowed : Bool) : Advances (composite allowed item) := by
  unfold composite
  split <;> infer_instance

instance (order : List Literal) (allowed : Bool) : Advances (dispatch order allowed item) := by
  unfold dispatch
  infer_instance

end

instance (composites : Bool) (room : Nat) :
    Advances (Reader.item composites room : Reader L Datum) := by
  cases room with
  | zero => exact inferInstanceAs (Advances refuse)
  | succ room =>
      exact inferInstanceAs
        (Advances (nested (dispatch Literal.inOrder composites (Reader.item composites room))))

/-! ## Sequences that may be empty -/

section

variable {item : Reader L Datum} [Advances item] {front rest : List Char} {datum : Datum}

/-- A sequence of items takes up text and holds an item. -/
lemma nonempty_of_reads_items {data : List Datum} (found : Reads (items item) front rest data) :
    front ≠ [] ∧ data ≠ [] := by
  rw [items_eq] at found
  obtain ⟨first, left, right, rfl, start, more⟩ := reads_bind.mp found
  obtain ⟨others, _, _, -, -, last⟩ := reads_bind.mp more
  obtain ⟨-, rfl⟩ := reads_pure.mp last
  exact ⟨List.append_ne_nil_of_left_ne_nil (Advances.nonempty start) right, List.cons_ne_nil _ _⟩

lemma nonempty_of_reads_form {body : Form} (found : Reads (form item) front rest body) :
    front ≠ [] ∧ body.toDatum ≠ .list [] := by
  rw [form_eq] at found
  rcases reads_orElse.mp found with found | ⟨-, found⟩
  · obtain ⟨tail, found, rfl⟩ := reads_map.mp found
    exact ⟨Advances.nonempty found, nofun⟩
  · obtain ⟨first, left, right, rfl, start, more⟩ := reads_bind.mp found
    obtain ⟨⟨others, tail⟩, _, _, -, -, last⟩ := reads_bind.mp more
    obtain ⟨-, rfl⟩ := reads_pure.mp last
    refine ⟨List.append_ne_nil_of_left_ne_nil (Advances.nonempty start) right, ?_⟩
    cases tail <;> exact nofun

/-- A bare sequence takes up no text if it has no items, and only then. -/
lemma reads_list_nil_iff (found : Reads (list item) front rest datum) :
    front = [] ↔ datum = .list [] := by
  obtain ⟨data, left, right, rfl, some, last⟩ := reads_bind.mp found
  obtain ⟨rfl, rfl⟩ := reads_pure.mp last
  rw [List.append_nil]
  rcases reads_orElse.mp some with some | ⟨-, none⟩
  · obtain ⟨text, items⟩ := nonempty_of_reads_items some
    exact iff_of_false text fun same => items (Datum.list.inj same)
  · obtain ⟨rfl, rfl⟩ := reads_pure.mp none
    exact iff_of_true rfl rfl

/-- So does what stands between parentheses. -/
lemma reads_formBody_nil_iff (found : Reads (formBody item) front rest datum) :
    front = [] ↔ datum = .list [] := by
  obtain ⟨body, left, right, rfl, some, last⟩ := reads_bind.mp found
  obtain ⟨rfl, rfl⟩ := reads_pure.mp last
  rw [List.append_nil]
  rcases reads_orElse.mp some with some | ⟨-, none⟩
  · obtain ⟨text, items⟩ := nonempty_of_reads_form some
    exact iff_of_false text items
  · obtain ⟨rfl, rfl⟩ := reads_pure.mp none
    exact iff_of_true rfl rfl

end

end SExpr.Reader
