import SExpr.Proofs.Spelling

/-!
# Spellings with white space between them

The readers of sequences put no condition on the white space that they skip, beyond that there has
to be some.  So spellings that are joined by any white space at all are read back as the data they
are the spellings of: by the reader of lists if it stands between them, and by the reader of dotted
lists if it stands behind each.  The two differ at the end.  White space behind the last item is
not taken for the beginning of another one, nor is it part of the list; behind the items of a dotted
list comes a point.

* `Spaced` — a datum, its spelling, and white space to put behind it.
* `Spaced.between`, `Spaced.behind` — the two ways to join some of them.
* `Spaced.read` — both are read back, and so is a spelling behind an apostrophe.
-/

namespace SExpr

open Grammar

/-- A datum with its spelling, and white space to put behind that. -/
structure Spaced where
  datum : Datum
  text : String
  space : String
  spelled : datum.toText = .ok text
  gap : Gap space.toList

namespace Spaced

/-- Spellings with their white space between them; that of the last is left out. -/
def between : List Spaced → String
  | [] => ""
  | [only] => only.text
  | first :: rest => first.text ++ first.space ++ between rest

/-- Spellings with their white space behind each. -/
def behind : List Spaced → String
  | [] => ""
  | first :: rest => first.text ++ first.space ++ behind rest

lemma derives (item : Spaced) : Derives true item.text.toList item.datum :=
  Datum.derives_of_toText item.spelled

/-! ## Both are sequences of the grammar -/

lemma separated_between (first : Spaced) (rest : List Spaced) :
    Separated (Derives true) (between (first :: rest)).toList
      ((first :: rest).map Spaced.datum) := by
  induction rest generalizing first with
  | nil => exact .single first.derives
  | cons second rest ih =>
      simp only [between, String.toList_append, List.append_assoc]
      exact .cons first.derives first.gap (ih second)

lemma sequence_between (items : List Spaced) :
    Sequence (Derives true) (between items).toList (items.map Spaced.datum) := by
  cases items with
  | nil => exact .nil
  | cons first rest => exact .separated (separated_between first rest)

lemma terminated_behind (items : List Spaced) :
    Terminated (Derives true) (behind items).toList (items.map Spaced.datum) := by
  induction items with
  | nil => exact .nil
  | cons first rest ih =>
      simp only [behind, String.toList_append, List.append_assoc]
      exact .cons first.derives first.gap ih

/-! ## Both are read back -/

open Reader

variable {items : List Spaced} {maxDepth : Int}

lemma heights_lt (some : 1 ≤ maxDepth) (low : ∀ item ∈ items, item.datum.height < maxDepth) :
    Datum.heights (items.map Spaced.datum) < maxDepth.toNat := by
  rw [Datum.heights_lt_iff, List.forall_mem_map]
  refine ⟨by omega, ?_⟩
  intro item member
  have := low item member
  omega

/-- The reader of lists stops behind the last item, whatever white space goes on to the end. -/
lemma reads_between {blank : List Char} (space : Blank blank)
    (low : Datum.heights (items.map Spaced.datum) < maxDepth.toNat) (strict : Bool) :
    Reads (Entry.list.reader true (Options.room ⟨strict, true, maxDepth⟩ 0) :
      Reader Furthest Datum) (between items).toList blank (.list (items.map Spaced.datum)) := by
  have answers := answers_list (serves_item (L := Furthest) true maxDepth.toNat) space Closes.nil
    (sequence_between items)
  rw [List.append_nil] at answers
  rw [Options.room_zero]
  exact answers.1 (Datum.height_list_le_iff.mpr low)

/-- Spellings are read back with any white space between them, or behind each if a point and one
more spelling follow; and so is a spelling behind an apostrophe.  White space behind a list is no
part of it, and a strict reading does not want any there. -/
theorem read (items : List Spaced) {maxDepth : Int} (some : 1 ≤ maxDepth)
    (low : ∀ item ∈ items, item.datum.height < maxDepth) :
    Entry.list.readDatum ⟨true, true, maxDepth⟩ (between items) =
        .ok (.list (items.map Spaced.datum)) ∧
      (∀ blank : String, Blank blank.toList →
        Entry.list.read ⟨false, true, maxDepth⟩ (between items ++ blank) =
          .ok (.list (items.map Spaced.datum), (between items).length) ∧
        (blank ≠ "" → ∃ offset expected,
          Entry.list.read ⟨true, true, maxDepth⟩ (between items ++ blank) =
            .error ⟨(between items ++ blank).toList, offset, .unexpected expected⟩)) ∧
      ∀ (tail : Datum) (last : String), tail.toText = .ok last → tail.height < maxDepth →
        (∀ space : String, Gap space.toList →
          Entry.dottedList.readDatum ⟨true, true, maxDepth⟩
              (behind items ++ "." ++ space ++ last) =
            .ok (.dotted (items.map Spaced.datum) tail)) ∧
        Entry.quoted.readDatum ⟨true, true, maxDepth⟩ ("'" ++ last) = .ok tail.quote := by
  have lowItems := heights_lt some low
  refine ⟨?_, ?_, ?_⟩
  · exact Entry.readDatum_of_le (.list (sequence_between items))
      (Datum.height_list_le_iff.mpr lowItems)
  · intro blank space
    constructor
    · exact Entry.read_eq_ok_iff.mpr ⟨_, _, String.toList_append, String.length_toList, nofun,
        reads_between space lowItems false⟩
    · intro more
      exact Entry.read_of_reads_part rfl String.toList_append (by simpa using more)
        (reads_between space lowItems true)
  · intro tail last spelled lowTail
    have derives := Datum.derives_of_toText spelled
    have lowTail' : tail.height < maxDepth.toNat := by omega
    constructor
    · intro space gap
      have dotted : DottedSequence (Derives true) (behind items ++ "." ++ space ++ last).toList
          (items.map Spaced.datum) tail := by
        simpa using DottedSequence.mk (terminated_behind items) (.mk gap derives)
      exact Entry.readDatum_of_le (.dottedList dotted)
        (Datum.height_dotted_le_iff.mpr ⟨lowItems, lowTail'⟩)
    · have quoted : Entry.Derives true .quoted ("'" ++ last).toList tail.quote := by
        simpa using Entry.Derives.quoted derives
      exact Entry.readDatum_of_le quoted (Datum.height_quote_le_iff.mpr lowTail')

/-- The spellings of an atom and of a list, with a line feed and a blank between them, with two
blanks behind, and in front of a point and a text. -/
theorem read_two_items :
    Entry.list.readDatum ⟨true, true, 2⟩ "a\n (1 2)" =
        .ok (.list [.atom "a", .list [.integer 1, .integer 2]]) ∧
      Entry.list.read ⟨false, true, 2⟩ "a\n (1 2)  " =
        .ok (.list [.atom "a", .list [.integer 1, .integer 2]], 8) ∧
      (∃ offset expected, Entry.list.read ⟨true, true, 2⟩ "a\n (1 2)  " =
        .error ⟨"a\n (1 2)  ".toList, offset, .unexpected expected⟩) ∧
      Entry.dottedList.readDatum ⟨true, true, 2⟩ "a\n (1 2)\t. \"x\"" =
        .ok (.dotted [.atom "a", .list [.integer 1, .integer 2]] (.text "x")) ∧
      Entry.quoted.readDatum ⟨true, true, 2⟩ "'\"x\"" = .ok (Datum.text "x").quote := by
  have isGap (space : String) (c : Char) (others : List Char) (split : space.toList = c :: others)
      (all : (c :: others).all Unicode.isSpace = true) : Gap space.toList := by
    rw [split]
    exact ⟨List.cons_ne_nil _ _, List.all_eq_true.mp all⟩
  have blanks : Gap "  ".toList := isGap _ ' ' [' '] rfl rfl
  have blank : Gap " ".toList := isGap _ ' ' [] rfl rfl
  let items : List Spaced := [
    ⟨.atom "a", "a", "\n ", by rfl, isGap _ '\n' [' '] rfl rfl⟩,
    ⟨.list [.integer 1, .integer 2], "(1 2)", "\t", by rfl, isGap _ '\t' [] rfl rfl⟩]
  have low : ∀ item ∈ items, (item.datum.height : Int) < 2 := by
    simp [items, Datum.height, Datum.heights]
  obtain ⟨whole, cut, pointed⟩ := read items (by decide : (1 : Int) ≤ 2) low
  obtain ⟨short, long⟩ := cut "  " blanks.2
  obtain ⟨dotted, quoted⟩ := pointed (.text "x") "\"x\"" (by rfl) (by decide)
  have joined : between items = "a\n (1 2)" := by rfl
  have last : behind items ++ "." ++ " " ++ "\"x\"" = "a\n (1 2)\t. \"x\"" := by rfl
  rw [joined] at short
  rw [joined] at long
  rw [← last]
  exact ⟨whole, short, long (by decide), dotted " " blank, quoted⟩

end Spaced

end SExpr
