import SExpr.Proofs.Characters
import SExpr.Proofs.Datum

/-!
# Composite expressions that are found

The readers of sequences are given the reader of what stands inside, so all that is said here is
said of any reader that treats the items well.  What is found is traced back to the grammar by
induction on the length of the text: behind an item and the white space after it there is less.

* `Low composites room` — expressions that are lower than the room.
* `Serves composites room item` — what is asked of a reader of items: it finds the expressions that
  are lower than the room, and refuses the others.
* `separated_of_reads_items`, `terminated_of_reads_spacedItems`, `derived_of_reads_form` — what the
  three sequences find, whatever the items are.
* `derives_of_reads_parenthesized`, `derives_of_reads_list`, `derives_of_reads_dottedPair` — what
  is found is derived, and is no higher than the room.
-/

namespace SExpr

open Grammar

namespace Reader

variable {L : Type} [Log L]

/-! ## Bounded readers -/

section

variable (item : Reader L Datum) [Bounded item]

instance : Bounded (quoted item) := by unfold quoted; infer_instance

instance : Bounded (items item) := Bounded.loop fun _ _ => inferInstance

instance : Bounded (list item) := by unfold list; infer_instance

instance : Bounded (spacedItems item) := Bounded.loop fun _ _ => inferInstance

instance : Bounded (dottedTail item) := by unfold dottedTail; infer_instance

instance : Bounded (dottedPair item) := by unfold dottedPair; infer_instance

instance : Bounded (form item) := Bounded.loop fun _ _ => inferInstance

instance : Bounded (formBody item) := by unfold formBody; infer_instance

instance : Bounded (parenthesized item) := by unfold parenthesized; infer_instance

end

variable {item : Reader L Datum} {R : List Char → Datum → Prop}

/-! ## Sequences that are found -/

/-- Behind an item there is white space and more, or nothing more. -/
lemma reads_more {α : Type} {p : Reader L α} {front rest : List Char} {a none : α} :
    Reads ((do gap; p) <|> pure none) front rest a →
      (∃ space text, front = space ++ text ∧ Gap space ∧ Reads p text rest a) ∨
        front = [] ∧ a = none := by
  rw [reads_orElse, reads_bind]
  rintro (⟨_, space, text, rfl, first, second⟩ | ⟨-, nothing⟩)
  · exact .inl ⟨space, text, rfl, (reads_gap.mp first).1, second⟩
  · exact .inr (reads_pure.mp nothing)

variable (sound : ∀ front rest datum, Reads item front rest datum → R front datum)
include sound

lemma separated_of_reads_items : ∀ {front rest : List Char} {data : List Datum},
    Reads (items item) front rest data → Separated R front data := by
  intro front
  induction h : front.length using Nat.strongRecOn generalizing front with
  | ind n ih =>
    -- Behind the first item and its white space there is less text.
    intro rest data found
    rw [items_eq] at found
    simp only [reads_bind] at found
    obtain ⟨datum, left, _, rfl, first, others, right, _, rfl, more, last⟩ := found
    obtain ⟨rfl, rfl⟩ := reads_pure.mp last
    rcases reads_more more with ⟨space, text, rfl, gap, again⟩ | ⟨rfl, rfl⟩
    · have nonempty := List.length_pos_iff.mpr gap.1
      simp only [List.append_nil, List.length_append] at h ⊢
      exact .cons (sound _ _ _ first) gap (ih _ (by omega) rfl again)
    · simpa using Separated.single (sound _ _ _ first)

lemma terminated_of_reads_spacedItems : ∀ {front rest : List Char} {data : List Datum},
    Reads (spacedItems item) front rest data → Terminated R front data := by
  intro front
  induction h : front.length using Nat.strongRecOn generalizing front with
  | ind n ih =>
    intro rest data found
    rw [spacedItems_eq, reads_orElse] at found
    rcases found with found | ⟨-, nothing⟩
    · simp only [reads_bind] at found
      obtain ⟨datum, left, _, rfl, first, _, space, _, rfl, isGap, others, text, _, rfl, again,
        last⟩ := found
      obtain ⟨rfl, rfl⟩ := reads_pure.mp last
      have gap := (reads_gap.mp isGap).1
      have nonempty := List.length_pos_iff.mpr gap.1
      simp only [List.append_nil, List.length_append] at h ⊢
      exact .cons (sound _ _ _ first) gap (ih _ (by omega) rfl again)
    · obtain ⟨rfl, rfl⟩ := reads_pure.mp nothing
      exact .nil

lemma pointedTail_of_reads {front rest : List Char} {tail : Datum}
    (found : Reads (dottedTail item) front rest tail) : PointedTail R front tail := by
  simp only [dottedTail, reads_bind, reads_token] at found
  obtain ⟨_, _, _, rfl, rfl, _, space, last, rfl, gap, tail⟩ := found
  have pointed : PointedTail R ('.' :: (space ++ last)) _ :=
    .mk (reads_gap.mp gap).1 (sound _ _ _ tail)
  exact pointed

omit sound

/-- The text of what stands between parentheses. -/
def Form.Derived (R : List Char → Datum → Prop) (text : List Char) : Form → Prop
  | ⟨data, none⟩ => Separated R text data
  | ⟨data, some tail⟩ => DottedSequence R text data tail

lemma Form.Derived.cons {text space others : List Char} {datum : Datum} {form : Form}
    (first : R text datum) (gap : Gap space) (rest : Form.Derived R others form) :
    Form.Derived R (text ++ (space ++ others)) (form.cons datum) := by
  obtain ⟨data, tail⟩ := form
  cases tail with
  | none => exact Separated.cons first gap rest
  | some tail =>
      obtain ⟨items, pointed⟩ := rest
      rw [← List.append_assoc space, ← List.append_assoc text]
      exact .mk (.cons first gap items) pointed

include sound

lemma derived_of_reads_form : ∀ {front rest : List Char} {body : Form},
    Reads (form item) front rest body → body.Derived R front := by
  intro front
  induction h : front.length using Nat.strongRecOn generalizing front with
  | ind n ih =>
    intro rest body found
    rw [form_eq, reads_orElse, reads_map] at found
    rcases found with ⟨tail, found, rfl⟩ | ⟨-, found⟩
    · exact .mk .nil (pointedTail_of_reads sound found)
    · simp only [reads_bind] at found
      obtain ⟨datum, left, _, rfl, first, others, right, _, rfl, more, last⟩ := found
      obtain ⟨rfl, rfl⟩ := reads_pure.mp last
      rcases reads_more more with ⟨space, text, rfl, gap, again⟩ | ⟨rfl, rfl⟩
      · have nonempty := List.length_pos_iff.mpr gap.1
        simp only [List.append_nil, List.length_append] at h ⊢
        exact .cons (sound _ _ _ first) gap (ih _ (by omega) rfl again)
      · rw [List.append_nil, List.append_nil]
        exact Separated.single (sound _ _ _ first)

omit sound

/-! ## Readers of items -/

/-- Expressions that are lower than the room. -/
def Low (composites : Bool) (room : Nat) (text : List Char) (datum : Datum) : Prop :=
  Derives composites text datum ∧ datum.height < room

lemma Low.derives {composites : Bool} {room : Nat} :
    ∀ text datum, Low composites room text datum → Derives composites text datum :=
  fun _ _ low => low.1

/-- The reader finds the expressions that are lower than the room, and refuses the others. -/
structure Serves (composites : Bool) (room : Nat) (item : Reader L Datum) : Prop where
  sound : ∀ front rest datum, Reads item front rest datum → Low composites room front datum
  answers : ∀ {text rest datum}, Derives composites text datum → Delimited rest →
    Answers item text rest datum (datum.height < room)
  misses : ∀ {ahead}, 0 < room → Barren ahead → Misses item ahead
  refuses : ∀ {ahead}, room = 0 → Refuses item ahead

variable {composites : Bool} {room : Nat}

/-- Without room the first item of a sequence is refused, so a sequence that is missed has room. -/
lemma Serves.room_pos (serves : Serves composites room item) {α : Type} {next : Datum → Reader L α}
    {ahead : List Char} (missing : Misses (item >>= next) ahead) : 0 < room := by
  rcases Nat.eq_zero_or_pos room with none | some
  · have refused : Refuses item ahead := serves.refuses none
    exact absurd refused.bind missing.not_refuses
  · exact some

lemma Serves.refuses_items (serves : Serves composites room item) (full : room = 0)
    (ahead : List Char) : Refuses (items item) ahead := by
  have refused : Refuses item ahead := serves.refuses full
  rw [items_eq]
  exact refused.bind

lemma Serves.refuses_spacedItems (serves : Serves composites room item) (full : room = 0)
    (ahead : List Char) : Refuses (spacedItems item) ahead := by
  have refused : Refuses item ahead := serves.refuses full
  rw [spacedItems_eq]
  exact refuses_orElse.mpr (.inl refused.bind)

lemma Serves.refuses_form [Bounded item] (serves : Serves composites room item) (full : room = 0)
    (ahead : List Char) : Refuses (form item) ahead := by
  have refused : ∀ later : List Char, Refuses item later := fun _ => serves.refuses full
  rw [form_eq, refuses_orElse]
  rcases Bounded.verdict_cases (Form.ofTail <$> dottedTail item) ahead with
    ⟨front, rest, body, rfl, found⟩ | missing | refusedTail
  · obtain ⟨tail, found, -⟩ := reads_map.mp found
    simp only [dottedTail, reads_bind] at found
    obtain ⟨_, _, _, _, _, _, _, _, _, _, last⟩ := found
    exact absurd (refused _) last.not_refuses
  · exact .inr ⟨missing, (refused ahead).bind⟩
  · exact .inl refusedTail

lemma Form.Derived.height_le {body : Form} {text : List Char}
    (derived : body.Derived (Low composites room) text) : body.toDatum.height ≤ room := by
  obtain ⟨data, tail⟩ := body
  have low : ∀ text datum, Low composites room text datum → datum.height < room :=
    fun _ _ both => both.2
  cases tail with
  | none =>
      have items := Separated.forall_mem low derived
      have some : 0 < room := by
        cases derived with
        | single first => exact Nat.zero_lt_of_lt first.2
        | cons first _ _ => exact Nat.zero_lt_of_lt first.2
      exact Datum.height_list_le_iff.mpr (Datum.heights_lt_iff.mpr ⟨some, items⟩)
  | some tail =>
      obtain ⟨items, ⟨gap, last⟩⟩ := derived
      exact Datum.height_dotted_le_iff.mpr ⟨Datum.heights_lt_iff.mpr
        ⟨Nat.zero_lt_of_lt last.2, items.forall_mem low⟩, last.2⟩

/-- What may stand between parentheses if there is room for so many levels: a form, or nothing. -/
def Form.Inside (composites : Bool) (room : Nat) (text : List Char) (body : Form) : Prop :=
  body.Derived (Low composites room) text ∨ text = [] ∧ body = Form.empty ∧ 0 < room

lemma Form.Derived.mono {R R' : List Char → Datum → Prop} {text : List Char} {body : Form}
    (weaker : ∀ text datum, R text datum → R' text datum) (derived : body.Derived R text) :
    body.Derived R' text := by
  obtain ⟨data, tail⟩ := body
  cases tail with
  | none => exact Separated.mono weaker derived
  | some tail => exact DottedSequence.mono weaker derived

/-- What stands between parentheses is derived, if it is anything. -/
lemma Form.Inside.derived {body : Form} {text : List Char}
    (inside : Form.Inside composites room text body) :
    body.Derived (Derives composites) text ∨ text = [] ∧ body = Form.empty :=
  inside.imp (Form.Derived.mono Low.derives) fun ⟨nothing, empty, _⟩ => ⟨nothing, empty⟩

lemma Form.Inside.height_le {body : Form} {text : List Char}
    (inside : Form.Inside composites room text body) : body.toDatum.height ≤ room := by
  rcases inside with derived | ⟨rfl, rfl, some⟩
  · exact derived.height_le
  · exact Datum.height_list_le_iff.mpr some

lemma Form.Inside.parenthesized {body : Form} {text blank : List Char}
    (inside : Form.Inside composites room text body) (allowed : composites = true)
    (space : Blank blank) :
    Derives composites ('(' :: (text ++ (blank ++ [')']))) body.toDatum ∧
      body.toDatum.height ≤ room := by
  refine ⟨?_, inside.height_le⟩
  rcases inside.derived with derived | ⟨rfl, rfl⟩
  · obtain ⟨data, tail⟩ := body
    cases tail with
    | none => exact .list allowed (.separated derived) space
    | some tail => exact .dotted allowed derived space
  · exact .list allowed .nil space

lemma inside_of_reads_formBody (serves : Serves composites room item) {front rest : List Char}
    {datum : Datum} (found : Reads (formBody item) front rest datum) :
    ∃ body, Form.Inside composites room front body ∧ datum = body.toDatum := by
  simp only [formBody, reads_bind, reads_pure] at found
  obtain ⟨body, text, _, rfl, found, rfl, rfl⟩ := found
  refine ⟨body, ?_, rfl⟩
  rw [List.append_nil]
  rw [reads_orElse, reads_pure] at found
  rcases found with found | ⟨missing, rfl, rfl⟩
  · exact .inl (derived_of_reads_form serves.sound found)
  · rw [form_eq, misses_orElse] at missing
    exact .inr ⟨rfl, rfl, serves.room_pos missing.2⟩

/-- What is found in parentheses is a form with a parenthesis on either side. -/
lemma exists_of_reads_parenthesized (serves : Serves composites room item) {front rest : List Char}
    {datum : Datum} (found : Reads (parenthesized item) front rest datum) :
    ∃ body text blank, front = '(' :: (text ++ (blank ++ [')'])) ∧
      Form.Inside composites room text body ∧ Blank blank ∧ datum = body.toDatum := by
  simp only [parenthesized, reads_bind, reads_token, reads_many, reads_pure] at found
  obtain ⟨_, _, _, rfl, rfl, _, text, _, rfl, found, _, blank, _, rfl, ⟨rfl, -, space, -⟩, _, _, _,
    rfl, rfl, rfl, rfl⟩ := found
  obtain ⟨body, inside, rfl⟩ := inside_of_reads_formBody serves found
  exact ⟨body, text, _, rfl, inside, space, rfl⟩

/-- What is found in parentheses is derived, and is no higher than the room. -/
lemma derives_of_reads_parenthesized (serves : Serves composites room item)
    (allowed : composites = true) {front rest : List Char} {datum : Datum}
    (found : Reads (parenthesized item) front rest datum) :
    Derives composites front datum ∧ datum.height ≤ room := by
  obtain ⟨body, text, blank, rfl, inside, space, rfl⟩ := exists_of_reads_parenthesized serves found
  exact inside.parenthesized allowed space

/-- What is found without parentheses is derived, and is no higher than the room. -/
lemma derives_of_reads_list (serves : Serves composites room item) {front rest : List Char}
    {datum : Datum} (found : Reads (list item) front rest datum) :
    Entry.Derives composites .list front datum ∧ datum.height ≤ room := by
  simp only [list, reads_bind, reads_pure] at found
  obtain ⟨data, text, _, rfl, found, rfl, rfl⟩ := found
  rw [List.append_nil]
  rw [reads_orElse, reads_pure] at found
  rcases found with found | ⟨missing, rfl, rfl⟩
  · have derived : Form.Derived _ text ⟨data, none⟩ := separated_of_reads_items serves.sound found
    have items := Separated.mono Low.derives derived
    exact ⟨.list (.separated items), derived.height_le⟩
  · rw [items_eq] at missing
    exact ⟨.list .nil, Datum.height_list_le_iff.mpr (serves.room_pos missing)⟩

lemma derives_of_reads_dottedPair (serves : Serves composites room item) {front rest : List Char}
    {datum : Datum} (found : Reads (dottedPair item) front rest datum) :
    Entry.Derives composites .dottedList front datum ∧ datum.height ≤ room := by
  simp only [dottedPair, reads_bind, reads_pure] at found
  obtain ⟨data, text, _, rfl, items, tail, pointed, _, rfl, last, rfl, rfl⟩ := found
  rw [List.append_nil]
  have derived : Form.Derived _ (text ++ pointed) ⟨data, some tail⟩ :=
    .mk (terminated_of_reads_spacedItems serves.sound items)
      (pointedTail_of_reads serves.sound last)
  exact ⟨.dottedList (DottedSequence.mono Low.derives derived), derived.height_le⟩

lemma exists_of_reads_quoted {front rest : List Char} {datum : Datum}
    (found : Reads (quoted item) front rest datum) :
    ∃ text quotee, front = '\'' :: text ∧ Reads item text rest quotee ∧ datum = quotee.quote := by
  simp only [quoted, reads_bind, reads_token, reads_pure] at found
  obtain ⟨_, _, _, rfl, rfl, quotee, text, _, rfl, found, rfl, rfl⟩ := found
  exact ⟨text, quotee, by simp, found, rfl⟩

end Reader

end SExpr
