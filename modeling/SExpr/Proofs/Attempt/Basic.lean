import SExpr.Attempt
import SExpr.Proofs.Counting

/-!
# What a session makes of a reader

A reader of the text ahead can be tried in a session at any offset: what it comes to is moved by the
offset, and what it noted is joined to the record.  That makes an attempt of it, which is given the
whole session and changes it, and attempts of this kind go together as the readers do of which they
are made.  So whatever is put together from readers of a whole text that are such attempts is one
itself, with the same things put together on the other side.

The only places where a text is looked at by offsets are the readers of characters.  There the
offset has to be seen to drop out: what stands behind it is all that is compared, counted or cut
out.

* `Attempt.standsAt_eq`, `head?_extract`, `runEnd_eq`, `scanText_eq` — what stands at an offset is
  what is ahead there.
* `Attempt.counting`, `reading` — the attempt that a session makes of a reader.
* `Attempt.counting_bind`, `counting_map`, `counting_orElse`, `counting_loop`, `counting_inside` —
  it goes along with the combinators; `reading_bind` and so on, where nothing is nested.
* `Attempt.reading_token`, `reading_pick`, `reading_satisfy`, `reading_many`, `reading_textBody` —
  the readers of characters.
* `Attempt.spanning_reading` — what is cut out of the text is what was found.
-/

namespace SExpr

namespace Attempt

variable {α β : Type}

/-! ## Texts by offsets -/

lemma standsAt_eq {source : List Char} {offset : Nat} (within : offset ≤ source.length)
    (text : List Char) : standsAt text source offset = text.isPrefixOf (source.drop offset) := by
  have cut : source.extract offset (offset + text.length) =
      (source.drop offset).take text.length := by
    rw [List.extract_eq_take_drop, Nat.add_sub_cancel_left]
  rw [standsAt, decide_eq_true within, Bool.true_and, cut, Bool.eq_iff_iff, beq_iff_eq,
    List.isPrefixOf_iff_prefix, List.prefix_iff_eq_take]
  exact eq_comm

lemma standsAt_of_gt {source : List Char} {offset : Nat} (past : source.length < offset)
    (text : List Char) : standsAt text source offset = false := by
  rw [standsAt, decide_eq_false (Nat.not_le.mpr past), Bool.false_and]

/-- A text that is not empty stands at an offset just if it is ahead there, in the text or not. -/
lemma standsAt_cons (c : Char) (text source : List Char) (offset : Nat) :
    standsAt (c :: text) source offset = (c :: text).isPrefixOf (source.drop offset) := by
  rcases Nat.lt_or_ge source.length offset with past | within
  · rw [standsAt_of_gt past, List.drop_of_length_le (Nat.le_of_lt past)]
    rfl
  · exact standsAt_eq within _

/-- Between an offset and the next there is the first character ahead, if there is one. -/
lemma head?_extract (source : List Char) (offset : Nat) :
    (source.extract offset (offset + 1)).head? = (source.drop offset).head? := by
  rw [List.extract_eq_take_drop, Nat.add_sub_cancel_left]
  cases source.drop offset <;> rfl

lemma runEnd_eq (source : List Char) (accept : Char → Bool) (stop : Nat) :
    runEnd source accept stop = stop + ((source.drop stop).takeWhile accept).length := by
  fun_induction runEnd source accept stop with
  | case1 stop within accepted ih =>
      rw [ih, List.drop_eq_getElem_cons within, List.takeWhile_cons_of_pos accepted,
        List.length_cons]
      omega
  | case2 stop within rejected =>
      rw [List.drop_eq_getElem_cons within, List.takeWhile_cons_of_neg rejected]
      rfl
  | case3 stop past =>
      rw [List.drop_of_length_le (Nat.not_lt.mp past)]
      rfl

/-- What a scan of the text ahead comes to, behind the characters that were meant before. -/
def scanned (meant : List Char) (stop : Nat) : Reader.TextScan → Except Nat (List Char × Nat)
  | .content further length => .ok (meant ++ further, stop + length)
  | .badEscape offset => .error (stop + offset)

lemma scanned_cons (meant : List Char) (stop : Nat) (c : Char) (width : Nat)
    (scan : Reader.TextScan) :
    scanned meant stop (scan.cons c width) = scanned (meant ++ [c]) (stop + width) scan := by
  cases scan <;> simp [scanned, Reader.TextScan.cons, Nat.add_assoc]

lemma scanText_eq (source meant : List Char) (stop : Nat) :
    scanText source meant stop = scanned meant stop (Reader.scanTextBody (source.drop stop)) := by
  fun_induction scanText source meant stop with
  | case1 meant stop within mark =>
      rw [List.drop_eq_getElem_cons within, mark, Reader.scanTextBody_plain (by decide), if_pos rfl,
        scanned, List.append_nil, Nat.add_zero]
  | case2 meant stop within notMark backslash c code ih =>
      rw [head?_extract] at code
      rw [List.drop_eq_getElem_cons within, backslash, ih, ← List.drop_drop (i := 1)]
      cases ahead : source.drop (stop + 1) with
      | nil => simp [ahead] at code
      | cons tag rest =>
          have known : Reader.escapeCode? tag = some c := by simpa [ahead] using code
          simp [Reader.scanTextBody, known, scanned_cons]
  | case3 meant stop within notMark backslash noCode =>
      rw [head?_extract] at noCode
      rw [List.drop_eq_getElem_cons within, backslash]
      cases ahead : source.drop (stop + 1) with
      | nil => rfl
      | cons tag rest =>
          have unknown : Reader.escapeCode? tag = none := by simpa [ahead] using noCode
          simp [Reader.scanTextBody, unknown, scanned]
  | case4 meant stop within notMark ordinary ih =>
      rw [List.drop_eq_getElem_cons within, Reader.scanTextBody_plain ordinary, if_neg notMark,
        scanned_cons, ih]
  | case5 meant stop past =>
      rw [List.drop_of_length_le (Nat.not_lt.mp past)]
      simp [Reader.scanTextBody, scanned]

/-! ## Sequences -/

section

variable {attempt : Attempt α} {next : α → Attempt β} {session after : Session} {offset : Nat}

lemma bind_found {a : α} {stop : Nat}
    (first : attempt session offset = some (.found a stop, after)) :
    (attempt >>= next) session offset = next a after stop := by
  show andThen attempt next session offset = _
  rw [andThen, first]
  rfl

lemma bind_missing (first : attempt session offset = some (.missing, after)) :
    (attempt >>= next) session offset = some (.missing, after) := by
  show andThen attempt next session offset = _
  rw [andThen, first]
  rfl

lemma bind_tooDeep {place : Nat} (first : attempt session offset = some (.tooDeep place, after)) :
    (attempt >>= next) session offset = some (.tooDeep place, after) := by
  show andThen attempt next session offset = _
  rw [andThen, first]
  rfl

lemma bind_none (first : attempt session offset = none) :
    (attempt >>= next) session offset = none := by
  show andThen attempt next session offset = _
  rw [andThen, first]
  rfl

/-- Attempts that come to the same, perhaps from different offsets, can be gone on from alike. -/
lemma bind_congr {attempt' : Attempt α} {session' : Session} {offset' : Nat}
    (same : attempt session offset = attempt' session' offset') :
    (attempt >>= next) session offset = (attempt' >>= next) session' offset' := by
  show andThen attempt next session offset = andThen attempt' next session' offset'
  rw [andThen, andThen, same]

end

instance : LawfulMonad Attempt := by
  refine LawfulMonad.mk' Attempt ?_ (fun _ _ => rfl) ?_ (fun _ _ => rfl) (fun _ _ => rfl)
    (fun _ _ => rfl) ?_ (fun _ _ => rfl)
  · intro α attempt
    funext session offset
    show mapped id attempt session offset = _
    rw [mapped]
    match attempt session offset with
    | none => rfl
    | some (.found a stop, after) => rfl
    | some (.missing, after) => rfl
    | some (.tooDeep place, after) => rfl
  · intro α β γ attempt next last
    funext session offset
    match first : attempt session offset with
    | none => rw [bind_none (bind_none first), bind_none first]
    | some (.found a stop, after) =>
        have rest : (attempt >>= fun a => next a >>= last) session offset =
            (next a >>= last) after stop := bind_found first
        rw [rest]
        exact bind_congr (bind_found first)
    | some (.missing, after) => rw [bind_missing (bind_missing first), bind_missing first]
    | some (.tooDeep place, after) => rw [bind_tooDeep (bind_tooDeep first), bind_tooDeep first]
  · intro α β f attempt
    funext session offset
    show _ = mapped f attempt session offset
    rw [mapped]
    match first : attempt session offset with
    | none => exact bind_none first
    | some (.found a stop, after) => exact bind_found first
    | some (.missing, after) => exact bind_missing first
    | some (.tooDeep place, after) => exact bind_tooDeep first

/-! ## What a session makes of a reader -/

/-- The session after a reader has left a log and a level. -/
def left (session : Session) (offset : Nat) (log : Furthest) (depth : Int) : Session :=
  { session with depth := depth, furthest := session.furthest.join (log.shift offset) }

/-- The verdict and the session after a reader has come to something at an offset. -/
def settle (session : Session) (offset : Nat) (counted : Counted Furthest α) :
    Verdict α × Session :=
  (counted.outcome.verdict.shift offset, left session offset counted.outcome.log counted.depth)

/-- The attempt of a session at a reader that counts levels. -/
def counting (reader : Counting Furthest α) : Attempt α := fun session offset =>
  (reader session.depth (session.source.drop offset)).map (settle session offset)

/-- The attempt of a session at a reader with nothing nested. -/
def reading (reader : Reader Furthest α) : Attempt α := counting (Counting.plain reader)

section

variable (session : Session) (offset : Nat) (log : Furthest) (depth level : Int)
  (verdict : Verdict α)

/-- What another reader notes is noted in the session that the first one has left. -/
lemma settle_join (further : Furthest) :
    settle session offset ⟨⟨verdict, Log.join log further⟩, level⟩ =
      settle (left session offset log depth) offset ⟨⟨verdict, further⟩, level⟩ := by
  have record : session.furthest.join ((log.join further).shift offset) =
      (session.furthest.join (log.shift offset)).join (further.shift offset) := by
    rw [Furthest.shift_join, Furthest.join_assoc]
  exact congrArg (fun record =>
    (verdict.shift offset, { session with depth := level, furthest := record })) record

/-- What was come to further on is settled further on. -/
lemma settle_shift (distance : Nat) :
    settle session offset ⟨⟨verdict.shift distance, Log.shift distance log⟩, level⟩ =
      settle session (offset + distance) ⟨⟨verdict, log⟩, level⟩ := by
  have record : (Furthest.shift distance log).shift offset = log.shift (offset + distance) :=
    Furthest.shift_shift _ _ _
  rw [settle, Verdict.shift_shift]
  exact congrArg (fun log => (verdict.shift (offset + distance),
    { session with depth := level, furthest := session.furthest.join log })) record

end

lemma counting_bind (reader : Counting Furthest α) (next : α → Counting Furthest β) :
    counting (reader >>= next) = counting reader >>= fun a => counting (next a) := by
  funext session offset
  show ((Counting.andThen reader next) session.depth _).map _ =
    andThen (counting reader) (fun a => counting (next a)) session offset
  rw [Counting.andThen, andThen, counting]
  cases reader session.depth (session.source.drop offset) with
  | none => rfl
  | some counted =>
      obtain ⟨⟨verdict, log⟩, depth⟩ := counted
      cases verdict with
      | found a length =>
          show ((next a depth ((session.source.drop offset).drop length)).bind _).map _ =
            (next a depth (session.source.drop (offset + length))).map _
          rw [List.drop_drop]
          cases next a depth (session.source.drop (offset + length)) with
          | none => rfl
          | some rest =>
              exact congrArg some ((settle_join ..).trans (settle_shift ..))
      | missing => rfl
      | tooDeep place => rfl

lemma counting_map (f : α → β) (reader : Counting Furthest α) :
    counting (f <$> reader) = f <$> counting reader := by
  funext session offset
  show ((Counting.mapped f reader) session.depth _).map _ =
    mapped f (counting reader) session offset
  rw [Counting.mapped, mapped, counting]
  cases reader session.depth (session.source.drop offset) with
  | none => rfl
  | some counted =>
      obtain ⟨⟨verdict, log⟩, depth⟩ := counted
      cases verdict <;> rfl

lemma counting_orElse (first second : Counting Furthest α) :
    counting (first <|> second) = (counting first <|> counting second) := by
  funext session offset
  show ((Counting.orElse first fun _ => second) session.depth _).map _ =
    orElse (counting first) (fun _ => counting second) session offset
  rw [Counting.orElse, orElse, counting]
  cases first session.depth (session.source.drop offset) with
  | none => rfl
  | some counted =>
      obtain ⟨⟨verdict, log⟩, depth⟩ := counted
      cases verdict with
      | found a length => rfl
      | missing =>
          show ((second depth (session.source.drop offset)).bind _).map _ =
            (second depth (session.source.drop offset)).map _
          cases second depth (session.source.drop offset) with
          | none => rfl
          | some rest => exact congrArg some (settle_join ..)
      | tooDeep place => rfl

lemma counting_loop {step : Counting Furthest α → Counting Furthest α}
    {step' : Attempt α → Attempt α}
    (each : ∀ again, step' (counting again) = counting (step again)) (times : Nat) :
    loop step' times = counting (Counting.loop step times) := by
  induction times with
  | zero => rfl
  | succ times ih => exact (congrArg step' ih).trans (each _)

lemma counting_inside (maxDepth : Int) (reader : Counting Furthest α) :
    counting (Counting.inside maxDepth reader) = inside maxDepth (counting reader) := by
  funext session offset
  simp only [counting, Counting.inside, inside]
  by_cases full : maxDepth < session.depth + 1
  · rw [if_pos full, if_pos full]
    show some ((.tooDeep offset, { session with
      depth := session.depth + 1 - 1
      furthest := session.furthest.join none }) : Verdict α × Session) = _
    rw [Furthest.join_none]
  · rw [if_neg full, if_neg full]
    cases reader (session.depth + 1) (session.source.drop offset) with
    | none => rfl
    | some counted =>
        obtain ⟨⟨verdict, log⟩, depth⟩ := counted
        have record : Log.join Log.opened (Log.join log Log.closed) = log := Furthest.join_none log
        show some (settle session offset ⟨⟨verdict, _⟩, depth - 1⟩) = _
        rw [record]
        rfl

/-! ## Readers with nothing nested -/

/-- A reader that settles whatever is ahead has nothing nested. -/
lemma reading_eq {reader : Counting Furthest α} {p : Reader Furthest α}
    (settles : ∀ bound depth, Counting.Settles bound depth reader p) :
    reading p = counting reader := by
  have plain : Counting.plain p = reader := by
    funext depth ahead
    exact (settles (ahead.length + 1) depth ahead (Nat.lt_succ_self _)).symm
  rw [reading, plain]

open Counting (settles_plain)

lemma reading_bind (p : Reader Furthest α) (next : α → Reader Furthest β) :
    reading (p >>= next) = reading p >>= fun a => reading (next a) :=
  (reading_eq fun _ _ => (settles_plain p).bind fun a => settles_plain (next a)).trans
    (counting_bind _ _)

lemma reading_map (f : α → β) (p : Reader Furthest α) : reading (f <$> p) = f <$> reading p :=
  (reading_eq fun _ _ => (settles_plain p).map f).trans (counting_map _ _)

lemma reading_orElse (p q : Reader Furthest α) :
    reading (p <|> q) = (reading p <|> reading q) :=
  (reading_eq fun _ _ => (settles_plain p).orElse (settles_plain q)).trans (counting_orElse _ _)

lemma reading_apply (p : Reader Furthest α) (session : Session) (offset : Nat) :
    reading p session offset = some
      ((p (session.source.drop offset)).verdict.shift offset,
        session.noting ((p (session.source.drop offset)).log.shift offset)) := rfl

/-- A reader that notes nothing leaves the session as it is. -/
lemma reading_of_nothing {p : Reader Furthest α} {session : Session} {offset : Nat}
    {verdict : Verdict α} (read : p (session.source.drop offset) = ⟨verdict, Log.nothing⟩) :
    reading p session offset = some (verdict.shift offset, session) := by
  have same : session.noting (Furthest.shift offset none) = session := Session.noting_none
  rw [reading_apply, read]
  exact congrArg (fun after => some (verdict.shift offset, after)) same

lemma reading_pure (a : α) : reading (pure a) = pure a := by
  funext session offset
  have read : (pure a : Reader Furthest α) (session.source.drop offset) =
      ⟨.found a 0, Log.nothing⟩ := rfl
  exact reading_of_nothing read

lemma reading_nowhere : reading (Reader.nowhere : Reader Furthest α) = nowhere := by
  funext session offset
  have read : (Reader.nowhere : Reader Furthest α) (session.source.drop offset) =
      ⟨.missing, Log.nothing⟩ := rfl
  exact reading_of_nothing read

lemma reading_firstOf (readers : List (Reader Furthest α)) :
    reading (Reader.firstOf readers) = firstOf (readers.map reading) := by
  induction readers with
  | nil => exact reading_nowhere
  | cons p others ih =>
      show reading (p <|> Reader.firstOf others) = (reading p <|> firstOf (others.map reading))
      rw [reading_orElse, ih]

lemma note_eq_noting (session : Session) (offset : Nat) (what : String) :
    session.note offset what = session.noting (.missedAt offset what) := by
  rw [Session.note, Furthest.note_eq_join, Session.noting]

/-- A reader that fails so much further on notes that at the place which this comes to. -/
lemma reading_of_failAt {p : Reader Furthest α} {session : Session} {offset distance : Nat}
    {what : String} (read : p (session.source.drop offset) =
      Reader.failAt distance what (session.source.drop offset)) :
    reading p session offset = failAt (offset + distance) what session offset := by
  rw [failAt, note_eq_noting, reading_apply, read]
  rfl

/-! ## Readers of characters -/

lemma reading_token_apply {text : String} {session : Session} {offset : Nat}
    (stands : standsAt text.toList session.source offset =
      text.toList.isPrefixOf (session.source.drop offset)) :
    reading (Reader.token text) session offset = token text session offset := by
  rw [token, stands]
  by_cases ahead : text.toList.isPrefixOf (session.source.drop offset) = true
  · have read : (Reader.token text : Reader Furthest Unit) (session.source.drop offset) =
        ⟨.found () text.length, Log.nothing⟩ := if_pos ahead
    rw [if_pos ahead]
    exact reading_of_nothing read
  · have read : (Reader.token text : Reader Furthest Unit) (session.source.drop offset) =
        Reader.failAt 0 (Text.quoted text) (session.source.drop offset) := if_neg ahead
    rw [if_neg ahead]
    exact reading_of_failAt read

/-- Past the end of the text there is no other text than the empty one to tell the two apart. -/
lemma reading_token {text : String} (nonempty : text ≠ "") :
    reading (Reader.token text) = token text := by
  funext session offset
  refine reading_token_apply ?_
  cases characters : text.toList with
  | nil => exact absurd (String.toList_eq_nil_iff.mp characters) nonempty
  | cons c others => exact standsAt_cons c others _ _

lemma reading_pick (value? : Char → Option α) (what : String) :
    reading (Reader.pick value? what) = pick value? what := by
  funext session offset
  rw [pick, head?_extract]
  cases picked : (session.source.drop offset).head?.bind value? with
  | none =>
      have read : (Reader.pick value? what : Reader Furthest α) (session.source.drop offset) =
          Reader.failAt 0 what (session.source.drop offset) := by
        simp only [Reader.pick, picked]
      exact reading_of_failAt read
  | some value =>
      have read : (Reader.pick value? what : Reader Furthest α) (session.source.drop offset) =
          ⟨.found value 1, Log.nothing⟩ := by
        simp only [Reader.pick, picked]
      exact reading_of_nothing read

lemma reading_satisfy (accept : Char → Bool) (what : String) :
    (fun _ => ()) <$> reading (Reader.satisfy accept what) = satisfy accept what := by
  rw [Reader.satisfy, reading_pick]
  funext session offset
  show mapped _ (pick _ what) session offset = _
  rw [mapped, pick, satisfy, head?_extract, List.head?_drop]
  cases session.source[offset]? with
  | none => rfl
  | some c => cases accepted : accept c <;> simp [accepted, failAt, Verdict.map]

lemma reading_many (accept : Char → Bool) (what : String) (atLeast : Nat) :
    (fun _ => ()) <$> reading (Reader.many accept what atLeast) = many accept what atLeast := by
  funext session offset
  show mapped _ (reading (Reader.many accept what atLeast)) session offset = _
  simp only [mapped, many, runEnd_eq, Nat.add_sub_cancel_left]
  by_cases short : ((session.source.drop offset).takeWhile accept).length < atLeast
  · have read : (Reader.many accept what atLeast : Reader Furthest (List Char))
        (session.source.drop offset) =
          Reader.failAt ((session.source.drop offset).takeWhile accept).length what
            (session.source.drop offset) := if_pos short
    rw [reading_of_failAt read, if_pos short]
    rfl
  · have read : (Reader.many accept what atLeast : Reader Furthest (List Char))
        (session.source.drop offset) =
          ⟨.found ((session.source.drop offset).takeWhile accept)
            ((session.source.drop offset).takeWhile accept).length, Log.nothing⟩ := if_neg short
    rw [reading_of_nothing read, if_neg short]
    rfl

lemma reading_textBody : reading Reader.textBody = textBody := by
  funext session offset
  rw [textBody, scanText_eq]
  cases scan : Reader.scanTextBody (session.source.drop offset) with
  | content meant length =>
      have read : (Reader.textBody : Reader Furthest (List Char)) (session.source.drop offset) =
          ⟨.found meant length, Log.nothing⟩ := by
        rw [Reader.textBody, scan]
      exact reading_of_nothing read
  | badEscape distance =>
      have read : (Reader.textBody : Reader Furthest (List Char)) (session.source.drop offset) =
          Reader.failAt distance "escape code" (session.source.drop offset) := by
        rw [Reader.textBody, scan]
      exact reading_of_failAt read

/-! ## What was read, cut out of the text -/

open Reader in
/-- What is cut out of the text between two offsets is what a reader of characters has found
there. -/
lemma spanning_reading {p : Reader Furthest (List Char)} [Bounded p]
    (copies : ∀ {front rest run}, Reads p front rest run → run = front) :
    spanning ((fun _ => ()) <$> reading p) = reading p := by
  funext session offset
  show ((fun _ => ()) <$> reading p >>= fun _ => textFrom offset) session offset = _
  cases outcome : p (session.source.drop offset) with
  | mk verdict log =>
    have ran : ((fun _ => ()) <$> reading p) session offset =
        some ((verdict.shift offset).map fun _ => (), session.noting (log.shift offset)) := by
      show some ((Verdict.shift offset (p _).verdict).map _, _) = _
      rw [outcome]
      rfl
    cases verdict with
    | found run length =>
        have same : run = (session.source.drop offset).take length :=
          copies (Bounded.reads (by rw [outcome]))
        rw [bind_found ran, reading_apply, outcome, textFrom, List.extract_eq_take_drop,
          Nat.add_sub_cancel_left, same]
        rfl
    | missing =>
        rw [bind_missing ran, reading_apply, outcome]
        rfl
    | tooDeep place =>
        rw [bind_tooDeep ran, reading_apply, outcome]
        rfl

lemma spanning_many (accept : Char → Bool) (what : String) (atLeast : Nat) :
    spanning (many accept what atLeast) = reading (Reader.many accept what atLeast) := by
  rw [← reading_many]
  exact spanning_reading fun found => (Reader.reads_many.mp found).1

/-! ## Looking ahead, and values that are refused -/

lemma reading_notAhead (p : Reader Furthest α) :
    reading (Reader.notAhead p) = notAhead (reading p) := by
  funext session offset
  rw [notAhead, reading_apply, reading_apply, Reader.notAhead]
  cases p (session.source.drop offset) with
  | mk verdict log => cases verdict <;> rfl

lemma reading_refine (p : Reader Furthest α) (value? : α → Option β) (what : String) :
    reading (Reader.refine p value? what) = refine (reading p) value? what := by
  funext session offset
  have started : here session offset = some (.found offset offset, session) := rfl
  rw [refine, bind_found started]
  cases outcome : p (session.source.drop offset) with
  | mk verdict log =>
    have ran : reading p session offset =
        some (verdict.shift offset, session.noting (log.shift offset)) := by
      rw [reading_apply, outcome]
    rw [reading_apply, Reader.refine, outcome]
    cases verdict with
    | found raw length =>
        rw [bind_found ran]
        cases taken : value? raw with
        | some value =>
            simp only [taken]
            rfl
        | none =>
            have record : (Log.join log (Log.missed what)).shift offset =
                (log.shift offset).join (.missedAt offset what) := Furthest.shift_join _ _ _
            simp only [taken, failAt, note_eq_noting, Session.noting_noting, record]
            rfl
    | missing => exact (bind_missing ran).symm
    | tooDeep place => exact (bind_tooDeep ran).symm

end Attempt

end SExpr
