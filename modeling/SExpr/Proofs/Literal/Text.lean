import SExpr.Proofs.Characters
import SExpr.Reader.Quotation

/-!
# Finding texts

A text is scanned in one pass, and the scan follows the grammar of what stands between the marks
character by character.  It ends well at a quotation mark or where the text ahead does, and badly
only behind a backslash that no code follows.

* `scanTextBody_cases` — what a scan comes to.
* `reads_text` — what is found are the texts of the grammar, whatever stands behind them.
-/

namespace SExpr

open Grammar

namespace Reader

variable {L : Type} [Log L]

lemma escapeCode?_eq_some_iff {code c : Char} : escapeCode? code = some c ↔ Escape code c := by
  constructor
  · intro stands
    simp only [escapeCode?] at stands
    split at stands
    · cases stands; exact .backslash
    · cases stands; exact .quotationMark
    · cases stands; exact .lineFeed
    · cases stands; exact .carriageReturn
    · cases stands; exact .tab
    · cases stands
  · intro escape
    cases escape <;> rfl

/-- The scan of a text stops at a quotation mark or at the end. -/
abbrev StopsText (rest : List Char) : Prop := Stops (fun c => c != '"') rest

/-- No escape code is ahead. -/
def Uncoded (after : List Char) : Prop := ∀ code ∈ after.head?, ∀ c, ¬ Escape code c

lemma scanTextBody_plain {c : Char} (ordinary : c ≠ '\\') (rest : List Char) :
    scanTextBody (c :: rest) =
      if c = '"' then .content [] 0 else (scanTextBody rest).cons c 1 := by
  rw [scanTextBody]
  · exact fun same _ => ordinary same
  · exact fun _ _ same _ => ordinary same

lemma scanTextBody_append {body content rest : List Char} (inside : TextBody body content)
    (stops : StopsText rest) : scanTextBody (body ++ rest) = .content content body.length := by
  induction inside with
  | nil =>
      cases rest with
      | nil => rfl
      | cons c rest =>
          obtain rfl : c = '"' := by simpa using Stops.cons_iff.mp stops
          rw [List.nil_append, scanTextBody_plain (by decide), if_pos rfl]
          rfl
  | @plain c body content ordinary inner _ ih =>
      rw [List.cons_append, scanTextBody_plain ordinary, if_neg inner, ih, TextScan.cons,
        List.length_cons, Nat.add_comm]
  | @escape code c body content escape _ ih =>
      rw [List.cons_append, List.cons_append, scanTextBody, ih]
      simp only [escapeCode?_eq_some_iff.mpr escape, TextScan.cons, List.length_cons]
      rw [Nat.add_comm, Nat.add_assoc]

/-- Behind a body, a backslash without a code ends the scan. -/
lemma scanTextBody_uncoded {body content after : List Char} (inside : TextBody body content)
    (uncoded : Uncoded after) :
    scanTextBody (body ++ '\\' :: after) = .badEscape (body.length + 1) := by
  induction inside with
  | nil =>
      cases after with
      | nil => rfl
      | cons code after =>
          have noCode : escapeCode? code = none := by
            refine Option.eq_none_iff_forall_ne_some.mpr fun c stands => ?_
            exact uncoded code rfl c (escapeCode?_eq_some_iff.mp stands)
          simp [scanTextBody, noCode]
  | @plain c body content ordinary inner _ ih =>
      rw [List.cons_append, scanTextBody_plain ordinary, if_neg inner, ih, TextScan.cons,
        List.length_cons, Nat.add_comm]
  | @escape code c body content escape _ ih =>
      rw [List.cons_append, List.cons_append, scanTextBody, ih]
      simp only [escapeCode?_eq_some_iff.mpr escape, TextScan.cons, List.length_cons,
        TextScan.badEscape.injEq]
      omega

/-- A scan reads a body up to where it stops, or up to a backslash without a code. -/
lemma scanTextBody_cases (ahead : List Char) :
    (∃ body rest content, ahead = body ++ rest ∧ TextBody body content ∧ StopsText rest ∧
      scanTextBody ahead = .content content body.length) ∨
    ∃ body rest content, ahead = body ++ '\\' :: rest ∧ TextBody body content ∧ Uncoded rest ∧
      scanTextBody ahead = .badEscape (body.length + 1) := by
  fun_induction scanTextBody ahead with
  | case1 => exact .inl ⟨[], [], [], rfl, .nil, Stops.nil, rfl⟩
  | case2 => exact .inr ⟨[], [], [], rfl, .nil, nofun, rfl⟩
  | case3 code rest c stands ih =>
      have escape := escapeCode?_eq_some_iff.mp stands
      rcases ih with ⟨body, rest, content, rfl, inside, stops, scan⟩ |
        ⟨body, rest, content, rfl, inside, uncoded, scan⟩
      · exact .inl ⟨'\\' :: code :: body, rest, c :: content, rfl, .escape escape inside, stops,
          by rw [scan, TextScan.cons, List.length_cons, List.length_cons, Nat.add_comm]⟩
      · exact .inr ⟨'\\' :: code :: body, rest, c :: content, rfl, .escape escape inside, uncoded,
          by rw [scan, TextScan.cons, List.length_cons, List.length_cons, Nat.add_comm]⟩
  | case4 code rest noCode =>
      refine .inr ⟨[], code :: rest, [], rfl, .nil, fun code' first c escape => ?_, rfl⟩
      obtain rfl : code = code' := Option.some.inj first
      rw [escapeCode?_eq_some_iff.mpr escape] at noCode
      cases noCode
  | case5 rest => exact .inl ⟨[], '"' :: rest, [], rfl, .nil, Stops.cons rfl, rfl⟩
  | case6 c rest alone double inner ih =>
      have ordinary : c ≠ '\\' := by
        rintro rfl
        cases rest with
        | nil => exact alone rfl rfl
        | cons code rest => exact double code rest rfl rfl
      rcases ih with ⟨body, rest, content, rfl, inside, stops, scan⟩ |
        ⟨body, rest, content, rfl, inside, uncoded, scan⟩
      · exact .inl ⟨c :: body, rest, c :: content, rfl, .plain ordinary inner inside, stops,
          by rw [scan, TextScan.cons, List.length_cons, Nat.add_comm]⟩
      · exact .inr ⟨c :: body, rest, c :: content, rfl, .plain ordinary inner inside, uncoded,
          by rw [scan, TextScan.cons, List.length_cons, Nat.add_comm 1]⟩

lemma reads_textBody {front rest content : List Char} :
    Reads (textBody : Reader L (List Char)) front rest content ↔
      TextBody front content ∧ StopsText rest := by
  rw [Reads, textBody]
  constructor
  · intro found
    rcases scanTextBody_cases (front ++ rest) with
      ⟨body, rest', meant, split, inside, stops, scan⟩ |
      ⟨body, rest', meant, split, inside, -, scan⟩
    · rw [scan] at found
      obtain ⟨rfl, length⟩ := Verdict.found.inj found
      obtain ⟨rfl, rfl⟩ := List.append_inj split length.symm
      exact ⟨inside, stops⟩
    · rw [scan] at found
      cases found
  · rintro ⟨inside, stops⟩
    rw [scanTextBody_append inside stops]

instance : Bounded (textBody : Reader L (List Char)) where
  extent_le ahead := by
    rw [textBody]
    rcases scanTextBody_cases ahead with ⟨body, rest, meant, rfl, -, -, scan⟩ |
      ⟨body, rest, meant, -, -, -, scan⟩
    · rw [scan, List.length_append]
      exact Nat.le_add_right _ _
    · rw [scan]
      exact Nat.zero_le _

instance : Shallow (textBody : Reader L (List Char)) where
  not_refuses ahead := by
    rintro ⟨offset, refused⟩
    rw [textBody] at refused
    split at refused <;> cases refused

lemma reads_text {front rest : List Char} {datum : Datum} :
    Reads (text : Reader L Datum) front rest datum ↔
      ∃ body content, front = '"' :: (body ++ ['"']) ∧ TextBody body content ∧
        datum = .text (String.ofList content) := by
  simp only [text, reads_bind, reads_token, reads_textBody, reads_pure]
  constructor
  · rintro ⟨_, _, _, rfl, rfl, content, body, _, rfl, ⟨inside, -⟩, _, _, _, rfl, rfl, rfl, rfl⟩
    exact ⟨body, content, rfl, inside, rfl⟩
  · rintro ⟨body, content, rfl, inside, rfl⟩
    exact ⟨(), ['"'], body ++ ['"'], rfl, rfl, content, body, ['"'], rfl,
      ⟨inside, Stops.cons rfl⟩, (), ['"'], [], rfl, rfl, rfl, rfl⟩

lemma misses_text {ahead : List Char} (other : Stops (fun c => c == '"') ahead) :
    Misses (text : Reader L Datum) ahead :=
  (misses_token_of_stops other rfl rfl).bind

end Reader

end SExpr
