import SExpr.Proofs.Expression
import SExpr.Proofs.Parallel.Readers
import SExpr.Proofs.Reader.Visits

/-!
# No nested expression is read twice

A reading never enters a nested expression where it has entered one before, whether the text is well
formed or not and whatever the reading comes to.  So its cost is bounded by the length of the text,
however deep the nesting is and wherever the reading fails.

What could go wrong is that an alternative is given up and another one starts over.  Three facts
rule it out.  Literals enter nothing.  Where a point is ahead no item is, so a tail that came to
nothing lies behind the one place that an attempt at an item enters.  And a sequence stops at its
first attempt that fails, which in front of a parenthesis enters that place and no more.

* `Explores item` — what is asked of a reader of items.
* `within_items`, `within_spacedItems`, `within_form` — sequences, by induction on the text.
* `within_form_of_reads` — a form that was found, up to the parenthesis behind it.
* `explores_item` — the readers of nested expressions, by induction on the levels.
* `Entry.visiting_nodup` — readings of whole texts.
-/

namespace SExpr

open Grammar

lemma Starts.not_barren {text : List Char} (starts : Starts text) : ¬ Barren text := by
  obtain ⟨c, others, rfl, start⟩ := starts
  intro barren
  rw [Stops.cons_iff.mp barren] at start
  cases start

lemma barren_of_point {text : List Char} (point : ['.'] <+: text) : Barren text := by
  obtain ⟨others, rfl⟩ := point
  exact Stops.cons rfl

namespace Reader

variable {α β : Type} {p : Reader Visits α} {item : Reader Visits Datum}
  {front space rest later blank after ahead : List Char}

/-! ## What adds no visits -/

/-- A silent second part adds nothing. -/
lemma log_bind_silent [Bounded p] (f : α → Reader Visits β) [silent : ∀ a, Silent (f a)] :
    ((p >>= f) ahead).log = (p ahead).log := by
  rcases Bounded.verdict_cases p ahead with ⟨front, rest, a, rfl, found⟩ | failed
  · rw [log_bind_of_reads found, (silent a).log, Visits.shift_nothing, Visits.join_nothing]
  · exact log_bind_of_fails failed

/-- Nor does finding nothing more. -/
lemma log_orElse_pure (a : α) : ((p <|> pure a) ahead).log = (p ahead).log := by
  by_cases missing : Misses p ahead
  · have silent : Silent (pure a : Reader Visits α) := inferInstance
    rw [log_orElse_of_misses missing, silent.log, Visits.join_nothing]
  · exact log_orElse_of_not_misses missing

lemma log_bind_congr {γ : Type} {f : α → Reader Visits β} {g : α → Reader Visits γ}
    (same : ∀ a later, (f a later).log = (g a later).log) :
    ((p >>= f) ahead).log = ((p >>= g) ahead).log := by
  cases outcome : p ahead with
  | mk verdict log =>
    cases verdict with
    | found a length => rw [bind_found outcome, bind_found outcome, same]
    | missing => rw [bind_missing outcome, bind_missing outcome]
    | tooDeep offset => rw [bind_tooDeep outcome, bind_tooDeep outcome]

/-! ## Rounds of a sequence -/

/-- The reader of items roams.  Where no expression starts it finds nothing, and enters nothing but
the place itself. -/
structure Explores (item : Reader Visits Datum) : Prop where
  bounded : Bounded item
  roams : Roams 0 item
  barren : ∀ {ahead : List Char}, Barren ahead → (item ahead).log.Within 0 1
  starts : ∀ {front rest : List Char} {datum : Datum}, Reads item front rest datum → Starts front

/-- Where no expression starts the reader of items fails. -/
lemma Explores.fails (explores : Explores item) (barren : Barren ahead) :
    Misses item ahead ∨ Refuses item ahead := by
  have := explores.bounded
  rcases Bounded.verdict_cases item ahead with ⟨front, rest, datum, rfl, found⟩ | failed
  · exact absurd barren ((explores.starts found).append rest).not_barren
  · exact failed

/-- One item and, behind white space, more: all that the sequences visit in one round. -/
abbrev round (item : Reader Visits Datum) (more : Reader Visits α) : Reader Visits α := do
  let _ ← item
  gap
  more

section

variable (explores : Explores item) {first : Datum}
include explores

lemma within_round_of_gap {more : Reader Visits α} {high : Nat}
    (found : Reads item front (space ++ later) first)
    (isGap : Reads (gap : Reader Visits Unit) space later ())
    (visits : (more later).log.Within 0 high) :
    (round item more (front ++ (space ++ later))).log.Within 0
      (front.length + (space.length + high)) := by
  rw [log_bind_of_reads found, log_bind_of_silent isGap]
  refine (explores.roams.inside found).join ((visits.shift _).shift _) ?_ (Nat.zero_le _) ?_ <;>
    omega

lemma within_round_of_no_gap {more : Reader Visits α} (found : Reads item front rest first)
    (noGap : Misses (gap : Reader Visits Unit) rest) :
    (round item more (front ++ rest)).log.Within 0 front.length := by
  have silent : Silent (gap : Reader Visits Unit) := inferInstance
  rw [log_bind_of_reads found, log_bind_of_fails (.inl noGap), silent.log, Visits.shift_nothing,
    Visits.join_nothing]
  exact explores.roams.inside found

/-- A round stays in the text if what follows it does, where less text is ahead. -/
lemma within_round {more : Reader Visits α} (again : ∀ later : List Char,
      later.length < ahead.length → (more later).log.Within 0 (later.length + 1)) :
    (round item more ahead).log.Within 0 (ahead.length + 1) := by
  have := explores.bounded
  rcases Bounded.verdict_cases item ahead with ⟨front, rest, first, rfl, found⟩ | failed
  · rcases Shallow.verdict_cases (gap : Reader Visits Unit) rest with
      ⟨space, later, _, rfl, isGap⟩ | noGap
    · have nonempty := List.length_pos_iff.mpr (reads_gap.mp isGap).1.1
      simp only [List.length_append] at again ⊢
      have visits := again later (by omega)
      exact (within_round_of_gap explores found isGap visits).mono (Nat.zero_le 0) (by omega)
    · rw [List.length_append]
      exact (within_round_of_no_gap explores found noGap).mono (Nat.zero_le 0) (by omega)
  · rw [log_bind_of_fails failed]
    exact explores.roams.anywhere ahead

/-- Where no expression starts a round enters that place and no more. -/
lemma within_round_of_barren {more : Reader Visits α} (barren : Barren ahead) :
    (round item more ahead).log.Within 0 1 := by
  rw [log_bind_of_fails (explores.fails barren)]
  exact explores.barren barren

/-! ## Items -/

lemma log_items : (items item ahead).log = (round item (items item) ahead).log := by
  have := explores.bounded
  rw [congrFun (items_eq item) ahead]
  refine log_bind_congr fun first later => ?_
  rw [log_bind_silent, log_orElse_pure]

lemma within_items : ∀ ahead, (items item ahead).log.Within 0 (ahead.length + 1) := by
  intro ahead
  induction h : ahead.length using Nat.strongRecOn generalizing ahead with
  | ind n ih =>
    rw [log_items explores, ← h]
    exact within_round explores fun later shorter => ih _ (h ▸ shorter) later rfl

lemma log_spacedItems :
    (spacedItems item ahead).log = (round item (spacedItems item) ahead).log := by
  have := explores.bounded
  rw [congrFun (spacedItems_eq item) ahead, log_orElse_pure]
  refine log_bind_congr fun first later => log_bind_congr fun _ later => ?_
  rw [log_bind_silent]

lemma within_spacedItems : ∀ ahead, (spacedItems item ahead).log.Within 0 (ahead.length + 1) := by
  intro ahead
  induction h : ahead.length using Nat.strongRecOn generalizing ahead with
  | ind n ih =>
    rw [log_spacedItems explores, ← h]
    exact within_round explores fun later shorter => ih _ (h ▸ shorter) later rfl

/-- Items end in front of a place where no expression starts having entered that place at most. -/
lemma within_spacedItems_of_reads (barren : Barren rest) : ∀ {front : List Char}
    {data : List Datum}, Reads (spacedItems item) front rest data →
      (spacedItems item (front ++ rest)).log.Within 0 (front.length + 1) := by
  intro front
  induction h : front.length using Nat.strongRecOn generalizing front with
  | ind n ih =>
    intro data found
    rw [log_spacedItems explores]
    rw [spacedItems_eq, reads_orElse] at found
    rcases found with found | ⟨-, nothing⟩
    · simp only [reads_bind] at found
      obtain ⟨datum, left, _, rfl, first, _, space, _, rfl, isGap, others, text, _, rfl, again,
        last⟩ := found
      obtain ⟨rfl, -⟩ := reads_pure.mp last
      have nonempty := List.length_pos_iff.mpr (reads_gap.mp isGap).1.1
      simp only [List.append_nil, List.append_assoc, List.length_append] at h first isGap again ⊢
      have visits := ih text.length (by omega) rfl again
      exact (within_round_of_gap explores first isGap visits).mono (Nat.zero_le 0) (by omega)
    · obtain ⟨rfl, -⟩ := reads_pure.mp nothing
      exact (within_round_of_barren explores barren).mono (Nat.zero_le 0) (by omega)

end

/-! ## Tails -/

lemma roams_dottedTail (roams : Roams 0 item) : Roams 2 (dottedTail item) := by
  refine Roams.bind 1 .of_silent (fun _ => ?_) fun found => ?_
  · refine Roams.bind 0 .of_silent (fun _ => roams) fun found => ?_
    exact List.length_pos_iff.mpr (reads_gap.mp found).1.1
  · rw [reads_token.mp found]
    exact Nat.le_refl 2

lemma idle_dottedTail (noPoint : ¬ ['.'] <+: ahead) : Idle (dottedTail item) ahead :=
  .token (misses_token.mpr noPoint)

section

variable (explores : Explores item)
include explores

lemma within_dottedPair (ahead : List Char) :
    (dottedPair item ahead).log.Within 0 (ahead.length + 1) := by
  have := explores.bounded
  rw [dottedPair]
  rcases Bounded.verdict_cases (spacedItems item) ahead with
    ⟨front, rest, data, rfl, found⟩ | failed
  · rw [log_bind_of_reads found, log_bind_silent]
    by_cases point : ['.'] <+: rest
    -- In front of the point the last attempt at an item entered one place, the tail lies behind.
    · have before := within_spacedItems_of_reads explores (barren_of_point point) found
      have after := ((roams_dottedTail explores.roams).anywhere rest).shift front.length
      rw [List.length_append]
      exact before.join after (by omega) (Nat.zero_le _) (by omega)
    · rw [(idle_dottedTail point).log, Visits.shift_nothing, Visits.join_nothing]
      exact within_spacedItems explores _
  · rw [log_bind_of_fails failed]
    exact within_spacedItems explores ahead

/-! ## Forms -/

lemma log_form_of_no_point (noPoint : ¬ ['.'] <+: ahead) :
    (form item ahead).log = (round item (form item) ahead).log := by
  have := explores.bounded
  rw [congrFun (form_eq item) ahead, ((idle_dottedTail noPoint).map Form.ofTail).log_orElse]
  refine log_bind_congr fun first later => ?_
  rw [log_bind_silent, log_orElse_pure]

/-- Where a point is ahead, what a tail visits lies behind the place that an item would enter. -/
lemma within_form_of_point (point : ['.'] <+: ahead) :
    (form item ahead).log.Within 0 (ahead.length + 1) := by
  have tail : ((Form.ofTail <$> dottedTail item) ahead).log.Within 2 (ahead.length + 1) :=
    (roams_dottedTail explores.roams).anywhere ahead
  rw [form_eq]
  by_cases noTail : Misses (Form.ofTail <$> dottedTail item) ahead
  · have barren := barren_of_point point
    rw [log_orElse_of_misses noTail, log_bind_of_fails (explores.fails barren)]
    refine ((explores.barren barren).join tail ?_ ?_ ?_).join_comm <;> omega
  · rw [log_orElse_of_not_misses noTail]
    exact tail.mono (Nat.zero_le 2) (Nat.le_refl _)

lemma within_form : ∀ ahead, (form item ahead).log.Within 0 (ahead.length + 1) := by
  intro ahead
  induction h : ahead.length using Nat.strongRecOn generalizing ahead with
  | ind n ih =>
    rw [← h]
    by_cases point : ['.'] <+: ahead
    · exact within_form_of_point explores point
    · rw [log_form_of_no_point explores point]
      exact within_round explores fun later shorter => ih _ (h ▸ shorter) later rfl

lemma within_form_of_closes (space : Blank blank) (closes : Closes after) :
    (form item (blank ++ after)).log.Within 0 1 := by
  have noPoint := (space.delimited closes.delimited).not_point
  rw [log_form_of_no_point explores noPoint]
  exact within_round_of_barren explores (barren_of_blank space closes.barren)

/-- A form that was found visits nothing behind the text that closes it. -/
lemma within_form_of_reads (space : Blank blank) (closes : Closes after) :
    ∀ {front : List Char} {body : Form}, Reads (form item) front (blank ++ after) body →
      (form item (front ++ (blank ++ after))).log.Within 0 (front.length + (blank.length + 1)) := by
  intro front
  induction h : front.length using Nat.strongRecOn generalizing front with
  | ind n ih =>
    intro body found
    rw [form_eq, reads_orElse] at found
    rcases found with found | ⟨-, found⟩
    · obtain ⟨tail, tailFound, -⟩ := reads_map.mp found
      rw [form_eq, log_orElse_of_not_misses found.not_misses]
      exact ((roams_dottedTail explores.roams).inside tailFound).mono (Nat.zero_le 2) (by omega)
    · simp only [reads_bind] at found
      obtain ⟨datum, left, _, rfl, first, others, right, _, rfl, more, last⟩ := found
      obtain ⟨rfl, -⟩ := reads_pure.mp last
      have noPoint := ((explores.starts first).append (right ++ [] ++ (blank ++ after))).not_point
      rw [List.append_assoc, log_form_of_no_point explores noPoint]
      rw [reads_orElse, reads_bind] at more
      rcases more with ⟨_, gap, text, rfl, isGap, again⟩ | ⟨-, nothing⟩
      · have nonempty := List.length_pos_iff.mpr (reads_gap.mp isGap).1.1
        simp only [List.append_nil, List.append_assoc, List.length_append] at h first isGap again ⊢
        have visits := ih text.length (by omega) rfl again
        exact (within_round_of_gap explores first isGap visits).mono (Nat.zero_le 0) (by omega)
      · obtain ⟨rfl, -⟩ := reads_pure.mp nothing
        simp only [List.append_nil, List.nil_append] at first ⊢
        -- The last item: if white space follows, there was an attempt at one more behind it.
        rcases h with rfl
        cases blank with
        | nil =>
            have noGap : Misses (gap : Reader Visits Unit) ([] ++ after) :=
              misses_gap.mpr closes.stops_space
            exact (within_round_of_no_gap explores first noGap).mono (Nat.zero_le 0) (by simp)
        | cons c others =>
            have isGap : Reads (gap : Reader Visits Unit) (c :: others) after () :=
              reads_gap.mpr ⟨⟨by simp, space⟩, closes.stops_space⟩
            have visits := within_form_of_closes explores blank_nil closes
            exact (within_round_of_gap explores first isGap visits).mono (Nat.zero_le 0) (by simp)

/-- What stands between parentheses, if that is anything, is visited up to what closes it. -/
lemma within_formBody_of_reads (space : Blank blank) (closes : Closes after) {front : List Char}
    {datum : Datum} (found : Reads (formBody item) front (blank ++ after) datum) :
    (formBody item (front ++ (blank ++ after))).log.Within 0
      (front.length + (blank.length + 1)) := by
  have := explores.bounded
  simp only [formBody, reads_bind, reads_pure] at found
  obtain ⟨body, text, _, rfl, found, rfl, -⟩ := found
  rw [List.append_nil, formBody, log_bind_silent, log_orElse_pure]
  rw [reads_orElse, reads_pure] at found
  rcases found with found | ⟨-, rfl, -⟩
  · exact within_form_of_reads explores space closes found
  · exact (within_form_of_closes explores space closes).mono (Nat.zero_le 0) (by omega)

lemma within_formBody (ahead : List Char) :
    (formBody item ahead).log.Within 0 (ahead.length + 1) := by
  have := explores.bounded
  rw [formBody, log_bind_silent, log_orElse_pure]
  exact within_form explores ahead

/-! ## Expressions -/

omit explores in
lemma roams_quoted (roams : Roams 0 item) [Bounded item] : Roams 1 (quoted item) := by
  refine Roams.bind 0 .of_silent (fun _ => ?_) fun found => ?_
  · exact Roams.bind 0 roams (fun _ => .of_silent) fun _ => Nat.zero_le _
  · rw [reads_token.mp found]
    exact Nat.le_refl 1

lemma roams_closed : Roams 0 (do
    let datum ← formBody item
    let _ ← many Unicode.isSpace "whitespace" 0
    token ")"
    return datum) where
  anywhere ahead := by
    have := explores.bounded
    rw [log_bind_silent]
    exact within_formBody explores ahead
  inside {front rest datum} found := by
    have := explores.bounded
    rw [log_bind_silent]
    simp only [reads_bind, reads_token, reads_many, reads_pure] at found
    obtain ⟨_, text, _, rfl, found, _, blank, _, rfl, ⟨rfl, -, space, -⟩, _, _, _, rfl, rfl, rfl,
      -⟩ := found
    rw [List.append_assoc] at found
    rw [List.append_assoc, List.append_assoc]
    have visits := within_formBody_of_reads explores space (.parenthesis rest) found
    exact visits.mono (Nat.zero_le 0) (by simp)

lemma roams_parenthesized : Roams 1 (parenthesized item) := by
  refine Roams.bind 0 .of_silent (fun _ => roams_closed explores) fun found => ?_
  rw [reads_token.mp found]
  exact Nat.le_refl 1

omit explores in
lemma idle_parenthesized {accept : Char → Bool} (stops : Stops accept ahead)
    (taken : accept '(' = true) : Idle (parenthesized item) ahead :=
  .token (misses_token_of_stops stops rfl taken)

/-- An apostrophe is no parenthesis, so one of the two readers of composite expressions is idle. -/
lemma roams_composite (allowed : Bool) : Roams 1 (composite allowed item) := by
  have := explores.bounded
  cases allowed with
  | false => exact .of_silent (p := nowhere)
  | true =>
      have form : Roams 1 (firstOf [parenthesized item]) :=
        (roams_parenthesized explores).orElse .of_silent fun ahead => .inr (.nowhere ahead)
      refine (roams_quoted explores.roams).orElse form fun ahead => ?_
      by_cases mark : Misses (token "'" : Reader Visits Unit) ahead
      · have idle : Idle (quoted item) ahead := .token mark
        exact .inl idle.log
      · rw [misses_token, not_not] at mark
        obtain ⟨others, rfl⟩ := mark
        have noParenthesis : Stops (fun c => c == '(') ('\'' :: others) := Stops.cons rfl
        exact .inr ((idle_parenthesized noParenthesis rfl).orElse (.nowhere _))

/-- A literal enters nothing. -/
lemma roams_dispatch (order : List Literal) (composites : Bool) :
    Roams 1 (dispatch order composites item) := by
  have silent : Silent (Literal.firstIn order : Reader Visits Datum) := inferInstance
  refine .orElse .of_silent (roams_composite explores composites) fun ahead => ?_
  exact .inl (silent.log ahead)

omit explores in
lemma idle_composite {allowed : Bool} (barren : Barren ahead) :
    Idle (composite allowed item) ahead := by
  have noQuote : Misses (token "'" : Reader Visits Unit) ahead :=
    misses_token_of_stops barren rfl rfl
  cases allowed with
  | false => exact .nowhere ahead
  | true =>
      exact Idle.orElse (.token noQuote) ((idle_parenthesized barren rfl).orElse (.nowhere ahead))

omit explores in
lemma idle_dispatch {order : List Literal} {composites : Bool} (barren : Barren ahead) :
    Idle (dispatch order composites item) ahead := by
  have missing : Misses (dispatch order composites item) ahead := misses_dispatch barren
  obtain ⟨noLiteral, -⟩ := misses_orElse.mp missing
  exact Idle.orElse (.of_silent noLiteral) (idle_composite barren)

end

/-! ## All levels -/

lemma explores_refuse : Explores (refuse : Reader Visits Datum) where
  bounded := inferInstance
  roams := roams_refuse
  barren _ := Visits.Within.refused
  starts found := by cases found

/-- The readers of nested expressions explore; by induction on the levels that are left. -/
lemma explores_item (composites : Bool) (room : Nat) :
    Explores (Reader.item composites room : Reader Visits Datum) := by
  induction room with
  | zero => exact explores_refuse
  | succ room ih =>
      have starts : ∀ {front rest datum},
          Reads (Reader.item composites (room + 1) : Reader Visits Datum) front rest datum →
          Starts front := fun found =>
        ((serves_item composites (room + 1)).sound _ _ _ found).1.starts
      refine ⟨inferInstance, ?_, fun {ahead} barren => ?_, starts⟩
      · refine Roams.nested (roams_dispatch ih _ _) fun found => ?_
        obtain ⟨c, others, rfl, -⟩ := starts found
        exact Nat.le_add_left 1 _
      -- Where nothing starts, the place itself is all that is entered.
      · have idle : Idle (dispatch Literal.inOrder composites (Reader.item composites room))
            ahead := idle_dispatch barren
        have visits : Visits.Within 1 1 (dispatch Literal.inOrder composites
            (Reader.item composites room) ahead).log := idle.log ▸ .nothing
        exact visits.nested (Nat.le_refl 1)

end Reader

namespace Entry

open Reader

/-- From any room, what an entry visits lies in the text or right behind it, each place once. -/
lemma within_reader (entry : Entry) (composites : Bool) (room : Nat) (ahead : List Char) :
    (entry.reader composites room ahead : Outcome Visits Datum).log.Within 0
      (ahead.length + 1) := by
  have explores := explores_item composites room
  cases entry with
  | expression =>
      exact ((roams_dispatch explores _ _).anywhere ahead).mono (Nat.zero_le 1) (Nat.le_refl _)
  | list =>
      have visits := within_items explores ahead
      rw [Entry.reader, Reader.list, log_bind_silent, log_orElse_pure]
      exact visits
  | dottedList => exact within_dottedPair explores ahead
  | quoted =>
      exact ((roams_quoted explores.roams).anywhere ahead).mono (Nat.zero_le 1) (Nat.le_refl _)

/-- Reading a text, whatever it comes to, enters no nested expression at an offset where it entered
one before; so it enters no more of them than there are offsets in the text, the one behind its last
character included.  What it comes to is what it comes to when it keeps its failures instead. -/
theorem visiting_nodup (entry : Entry) (options : Options) (source : String) :
    let run : Outcome Visits Datum := entry.visiting options source
    let reading : Outcome Furthest Datum :=
      entry.reader options.composites (options.room 0) source.toList
    run.verdict = reading.verdict ∧
      run.log.offsets.Nodup ∧
      (∀ offset ∈ run.log.offsets, offset ≤ source.length) ∧
      run.log.offsets.length ≤ source.length + 1 := by
  intro run reading
  have visits : run.log.Within 0 (source.length + 1) :=
    String.length_toList (s := source) ▸ within_reader entry _ _ _
  refine ⟨?_, visits.nodup, fun offset member => ?_, visits.length_le⟩
  · exact entry.verdict_reader _ _ _
  · exact Nat.le_of_lt_succ (visits.bounds offset member).2

-- Where the tail comes to nothing, the place of the point is entered too, but nothing twice.
example : (Entry.expression.visiting { composites := true } "(a . (b c").log.offsets =
    [1, 5, 6, 8, 3] := by rfl

end Entry

end SExpr
