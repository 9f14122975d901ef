import SExpr.Proofs.Characters
import SExpr.Proofs.Numeral
import SExpr.Text.Quoted

/-!
# Texts that print in one line

A message is put together from texts of our own, from numerals and from what a user wrote.  The
first two are printable ASCII; the third is quoted, and quoting leaves no character in place that
would not print.  A line feed is not printable, so what is printable is one line.

* `Printable text` — every character of the text may stand for itself in a message.
* `Printable.quoted` — every quoted text is printable, whatever was quoted.
* `Printable.decimalText` — so is the spelling of every integer.
-/

namespace SExpr

open Unicode

/-! ## Characters -/

namespace Unicode

/-- The printable characters of ASCII come first in the table. -/
lemma printableRanges_eq : ∃ others, printableRanges = (0x20, 0x7e) :: others := ⟨_, rfl⟩

lemma isPrintable_of_ascii {c : Char} (low : 0x20 ≤ c.toNat) (high : c.toNat ≤ 0x7e) :
    isPrintable c = true := by
  obtain ⟨others, table⟩ := printableRanges_eq
  rw [isPrintable, table, Ranges.contains, if_pos high]
  exact decide_eq_true low

lemma isPrintable_of_isDigit {c : Char} (digit : c.isDigit = true) : isPrintable c = true := by
  have bounds := isDigit_iff.mp digit
  exact isPrintable_of_ascii (by omega) (by omega)

/-- A character that starts a new line does not print. -/
lemma isPrintable_lineFeed : isPrintable '\n' = false := rfl

end Unicode

/-! ## Texts -/

/-- Every character of the text may stand for itself in a message. -/
class Printable (text : String) : Prop where
  isPrintable : ∀ c ∈ text.toList, Unicode.isPrintable c = true

namespace Printable

/-- What is printable is one line. -/
lemma not_mem_lineFeed (text : String) [Printable text] : '\n' ∉ text.toList := by
  intro member
  have printable := Printable.isPrintable '\n' member
  rw [isPrintable_lineFeed] at printable
  cases printable

instance append (a b : String) [Printable a] [Printable b] : Printable (a ++ b) where
  isPrintable c member := by
    rw [String.toList_append, List.mem_append] at member
    exact member.elim (Printable.isPrintable c) (Printable.isPrintable c)

/-! ## Quoted texts -/

lemma isPrintable_of_mem_hexDigits {width n : Nat} :
    ∀ c ∈ Text.hexDigits width n, Unicode.isPrintable c = true := by
  have digit : ∀ d : Fin 16, Unicode.isPrintable (Nat.digitChar d) = true := by decide
  induction width generalizing n with
  | zero => simp [Text.hexDigits]
  | succ width ih =>
      rw [Text.hexDigits]
      refine List.forall_mem_append.mpr ⟨ih, List.forall_mem_singleton.mpr ?_⟩
      exact digit ⟨n % 16, Nat.mod_lt n (by decide)⟩

/-- Whatever a character is written as between two marks prints. -/
lemma isPrintable_of_mem_escaped {mark c : Char} (printable : Unicode.isPrintable mark = true) :
    ∀ d ∈ Text.escaped mark c, Unicode.isPrintable d = true := by
  rw [Text.escaped]
  split
  · next itself =>
      refine List.forall_mem_cons.mpr ⟨rfl, List.forall_mem_singleton.mpr ?_⟩
      rcases itself with rfl | rfl
      · rfl
      · exact printable
  split
  · exact List.all_eq_true.mp rfl
  split
  · exact List.all_eq_true.mp rfl
  split
  · exact List.all_eq_true.mp rfl
  split
  · next self => exact List.forall_mem_singleton.mpr self
  -- any other character is given by its code point
  split
  · exact List.forall_mem_cons.mpr ⟨rfl, List.forall_mem_cons.mpr
      ⟨rfl, isPrintable_of_mem_hexDigits⟩⟩
  split
  · exact List.forall_mem_cons.mpr ⟨rfl, List.forall_mem_cons.mpr
      ⟨rfl, isPrintable_of_mem_hexDigits⟩⟩
  · exact List.forall_mem_cons.mpr ⟨rfl, List.forall_mem_cons.mpr
      ⟨rfl, isPrintable_of_mem_hexDigits⟩⟩

lemma isPrintable_quoteMark (text : List Char) :
    Unicode.isPrintable (Text.quoteMark text) = true := by
  rw [Text.quoteMark]
  split <;> rfl

/-- Whatever text is quoted prints. -/
instance quoted (text : String) : Printable (Text.quoted text) where
  isPrintable := by
    have mark := isPrintable_quoteMark text.toList
    rw [Text.quoted, String.toList_ofList, Text.quotedChars]
    refine List.forall_mem_append.mpr ⟨List.forall_mem_cons.mpr ⟨mark, ?_⟩,
      List.forall_mem_singleton.mpr mark⟩
    intro d member
    obtain ⟨c, -, inside⟩ := List.mem_flatMap.mp member
    exact isPrintable_of_mem_escaped mark d inside

/-! ## Numerals -/

instance decimalText (n : Int) : Printable (Numeral.decimalText n) where
  isPrintable := by
    have digits (n : Nat) : ∀ c ∈ Numeral.decimalDigits n, Unicode.isPrintable c = true :=
      fun c member => isPrintable_of_isDigit ((Numeral.isRun_decimalDigits n).2 c member)
    cases n with
    | ofNat n => rw [Numeral.decimalText, String.toList_ofList]; exact digits n
    | negSucc n =>
        rw [Numeral.decimalText, String.toList_ofList]
        exact List.forall_mem_cons.mpr ⟨rfl, digits (n + 1)⟩

end Printable

end SExpr
