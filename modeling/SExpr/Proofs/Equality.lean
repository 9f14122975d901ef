import Mathlib.Data.List.Forall2
import Mathlib.Order.WithBot
import SExpr.Datum.Draft
import SExpr.Proofs.Datum
import SExpr.Proofs.Grouping
import SExpr.Proofs.Shortest

/-!
# When two data are the same

Two data are the same if they have one shape with one kind of node everywhere and the same contents,
where doubles count as numbers.  That is not identity: the two zeros are different doubles and one
number, and what is not a number is the same as nothing, itself included.  So sameness is symmetric
and transitive, but a datum is the same as itself only if all doubles in it are numbers.

* `Binary64.number?`, `Binary64.same_iff_equal` — the number that a double is, and that doubles are
  the same if they are one number.
* `Datum.Alike` — the relation that was described, one rule for each kind of node.
  `Alike.induction` goes over two data that are alike at once, and all that is proved of them is
  proved by it.
* `Datum.same_iff_alike` — what is compared is this relation.
* `Datum.same_self_iff` — which data are the same as themselves.
* `Datum.Coding`, `Datum.codeIn` — codes made of the codes of what a node holds, in any way; by
  `exists_coding` the code that is used is among them.
* `Datum.same_coherent` — sameness, codes, and grouping by them.
-/

namespace SExpr

/-! ## Doubles -/

namespace Binary64

/-- The number that a finite double encodes. -/
def toRat (x : Binary64) : ℚ := if x.negative then -number x.magnitude else number x.magnitude

/-- The number that a double is, the infinities among them, if it is one. -/
def number? (x : Binary64) : Option (WithBot (WithTop ℚ)) :=
  if x.isNaN then none
  else if x.isInfinite then some (if x.negative then ⊥ else ⊤)
  else some (x.toRat : WithTop ℚ)

/-- Two doubles are one number. -/
def Equal (x y : Binary64) : Prop := ∃ q, x.number? = some q ∧ y.number? = some q

variable {x y z : Binary64}

/-- Numbers of different signs are equal only if both are zero. -/
lemma number_eq_neg_iff {m n : Nat} : number m = -number n ↔ m = 0 ∧ n = 0 := by
  have nonneg (k : Nat) : 0 ≤ number k :=
    number_zero ▸ number_strictMono.monotone (Nat.zero_le k)
  constructor
  · intro equal
    have zero : number m = number 0 := by linarith [nonneg m, nonneg n, number_zero]
    have zero' : number n = number 0 := by linarith [number_zero]
    exact ⟨number_strictMono.injective zero, number_strictMono.injective zero'⟩
  · rintro ⟨rfl, rfl⟩
    simp [number_zero]

/-- Doubles encode one number only if they are one double or both zero. -/
lemma toRat_eq_iff : x.toRat = y.toRat ↔ x = y ∨ x.magnitude = 0 ∧ y.magnitude = 0 := by
  obtain ⟨negative, m, bound⟩ := x
  obtain ⟨negative', n, bound'⟩ := y
  have magnitudes : number m = number n ↔ m = n := number_strictMono.injective.eq_iff
  have signs : -number m = number n ↔ m = 0 ∧ n = 0 :=
    neg_eq_iff_eq_neg.trans number_eq_neg_iff
  cases negative <;> cases negative' <;>
    simp only [toRat, magnitudes, signs, number_eq_neg_iff, neg_inj, mk.injEq, Bool.false_eq_true,
      reduceCtorEq, if_false, if_true, true_and, false_and, false_or] <;> omega

lemma isInfinite_iff : x.isInfinite = true ↔ x = infinity x.negative := by
  obtain ⟨negative, m, bound⟩ := x
  simp [isInfinite, infinity]

lemma ne_zero_of_isInfinite (infinite : x.isInfinite = true) : x.magnitude ≠ 0 := by
  rw [isInfinite, beq_iff_eq] at infinite
  rw [infinite]
  decide

/-- Doubles that are numbers are one number only if they are one double or both zero. -/
lemma number?_eq_iff (isNumber : x.isNaN = false) (isNumber' : y.isNaN = false) :
    x.number? = y.number? ↔ x = y ∨ x.magnitude = 0 ∧ y.magnitude = 0 := by
  rw [number?, number?, isNumber, isNumber']
  cases infinite : x.isInfinite with
  | true =>
      have nonzero := ne_zero_of_isInfinite infinite
      cases infinite' : y.isInfinite with
      | true =>
          rw [isInfinite_iff.mp infinite, isInfinite_iff.mp infinite']
          cases x.negative <;> cases y.negative <;> simp [infinity, infinityMagnitude]
      | false =>
          have apart : x ≠ y := fun equal => by simp [equal, infinite'] at infinite
          cases x.negative <;> simp [apart, nonzero]
  | false =>
      cases infinite' : y.isInfinite with
      | true =>
          have nonzero := ne_zero_of_isInfinite infinite'
          have apart : x ≠ y := fun equal => by simp [equal, infinite'] at infinite
          cases y.negative <;> simp [apart, nonzero]
      | false => simp [toRat_eq_iff]

lemma exists_number : (∃ q, x.number? = some q) ↔ x.isNaN = false := by
  cases isNaN : x.isNaN with
  | true => simp [number?, isNaN]
  | false => cases infinite : x.isInfinite <;> simp [number?, isNaN, infinite]

/-- Two doubles are the same just if they are one number. -/
lemma same_iff_equal : x.same y = true ↔ x.Equal y := by
  simp only [same, Bool.and_eq_true, Bool.or_eq_true, Bool.not_eq_true', beq_iff_eq]
  constructor
  · rintro ⟨⟨isNumber, isNumber'⟩, equal⟩
    obtain ⟨q, number⟩ := exists_number.mpr isNumber
    exact ⟨q, number, ((number?_eq_iff isNumber isNumber').mpr equal).symm.trans number⟩
  · rintro ⟨q, number, number'⟩
    have isNumber := exists_number.mp ⟨q, number⟩
    have isNumber' := exists_number.mp ⟨q, number'⟩
    exact ⟨⟨isNumber, isNumber'⟩,
      (number?_eq_iff isNumber isNumber').mp (number.trans number'.symm)⟩

/-- Both zeros have one code. -/
lemma hash_eq_of_same (equal : x.same y = true) : x.hash = y.hash := by
  simp only [same, Bool.and_eq_true, Bool.or_eq_true, beq_iff_eq] at equal
  rcases equal.2 with rfl | ⟨zero, zero'⟩
  · rfl
  · rw [hash, hash, if_pos zero, if_pos zero']

lemma equal_self_iff : x.Equal x ↔ x.isNaN = false := by
  simp [Equal, exists_number]

lemma Equal.symm (equal : x.Equal y) : y.Equal x :=
  equal.imp fun _ both => both.symm

lemma Equal.trans (equal : x.Equal y) (equal' : y.Equal z) : x.Equal z := by
  obtain ⟨q, number, number'⟩ := equal
  obtain ⟨_, again, number''⟩ := equal'
  exact ⟨q, number, number''.trans (again.symm.trans number')⟩

end Binary64

namespace Datum

/-! ## Data that are alike -/

/-- Two data of the same shape, with the same kind of node everywhere and the same contents, where
doubles have to be one number.  Ratios are as they were written. -/
inductive Alike : Datum → Datum → Prop
  | atom (name : String) : Alike (.atom name) (.atom name)
  | list {items others : List Datum} : List.Forall₂ Alike items others →
      Alike (.list items) (.list others)
  | dotted {items others : List Datum} {tail other : Datum} : List.Forall₂ Alike items others →
      Alike tail other → Alike (.dotted items tail) (.dotted others other)
  | integer (value : Int) : Alike (.integer value) (.integer value)
  | text (value : String) : Alike (.text value) (.text value)
  | boolean (value : Bool) : Alike (.boolean value) (.boolean value)
  | character (value : Char) : Alike (.character value) (.character value)
  | float {x y : Binary64} : x.Equal y → Alike (.float x) (.float y)
  | ratio (value : Ratio) : Alike (.ratio value) (.ratio value)
  | complex {real imaginary real' imaginary' : Binary64} : real.Equal real' →
      imaginary.Equal imaginary' → Alike (.complex real imaginary) (.complex real' imaginary')

variable {a b c : Datum}

namespace Alike

/-- Induction on two data that are alike: what holds of leaves and is passed on from the items to
what they are in holds of all. -/
theorem induction {P : Datum → Datum → Prop}
    (leaf : ∀ {a b}, Alike a b → a.isLeaf = true → P a b)
    (list : ∀ {items others}, List.Forall₂ P items others → P (.list items) (.list others))
    (dotted : ∀ {items others tail other}, List.Forall₂ P items others → P tail other →
      P (.dotted items tail) (.dotted others other)) (alike : Alike a b) : P a b :=
  @Alike.rec (fun a b _ => P a b) (fun items others _ => List.Forall₂ P items others)
    (fun name => leaf (.atom name) rfl) (fun _ items => list items)
    (fun _ _ items tail => dotted items tail) (fun value => leaf (.integer value) rfl)
    (fun value => leaf (.text value) rfl) (fun value => leaf (.boolean value) rfl)
    (fun value => leaf (.character value) rfl) (fun equal => leaf (.float equal) rfl)
    (fun value => leaf (.ratio value) rfl) (fun equal equal' => leaf (.complex equal equal') rfl)
    .nil (fun _ _ => .cons) _ _ alike

lemma symm (alike : Alike a b) : Alike b a := by
  refine alike.induction (P := fun a b => Alike b a) ?_ ?_ ?_
  · intro a b alike isLeaf
    cases alike with
    | list _ => cases isLeaf
    | dotted _ _ => cases isLeaf
    | float equal => exact .float equal.symm
    | complex equal equal' => exact .complex equal.symm equal'.symm
    | _ => constructor
  · intro items others each
    exact .list each.flip
  · intro items others tail other each last
    exact .dotted each.flip last

/-- What follows a sequence item by item is followed by what it follows. -/
lemma forall₂_trans {items others thirds : List Datum}
    (each : List.Forall₂ (fun a b => ∀ c, Alike b c → Alike a c) items others)
    (each' : List.Forall₂ Alike others thirds) : List.Forall₂ Alike items thirds := by
  induction each generalizing thirds with
  | nil => exact each'
  | cons first _ ih =>
      cases each' with
      | cons first' rest' => exact .cons (first _ first') (ih rest')

lemma trans (alike : Alike a b) (alike' : Alike b c) : Alike a c := by
  refine alike.induction (P := fun a b => ∀ c, Alike b c → Alike a c) ?_ ?_ ?_ c alike'
  · intro a b alike isLeaf c alike'
    cases alike with
    | list _ => cases isLeaf
    | dotted _ _ => cases isLeaf
    | float equal =>
        cases alike' with
        | float equal' => exact .float (equal.trans equal')
    | complex real imaginary =>
        cases alike' with
        | complex real' imaginary' => exact .complex (real.trans real') (imaginary.trans imaginary')
    | _ => exact alike'
  · intro items others each c alike'
    cases alike' with
    | list each' => exact .list (forall₂_trans each each')
  · intro items others tail other each last c alike'
    cases alike' with
    | dotted each' last' => exact .dotted (forall₂_trans each each') (last _ last')

lemma same (alike : Alike a b) : a.same b = true := by
  have all {items others : List Datum}
      (each : List.Forall₂ (fun a b => a.same b = true) items others) :
      sameAll items others = true := by
    induction each with
    | nil => rfl
    | cons first _ ih => rw [sameAll, first, ih, Bool.and_self]
  refine alike.induction (P := fun a b => a.same b = true) ?_ ?_ ?_
  · intro a b alike isLeaf
    cases alike with
    | list _ => cases isLeaf
    | dotted _ _ => cases isLeaf
    | float equal => exact Binary64.same_iff_equal.mpr equal
    | complex equal equal' =>
        rw [Datum.same, Binary64.same_iff_equal.mpr equal, Binary64.same_iff_equal.mpr equal']
        rfl
    | _ => exact beq_self_eq_true _
  · intro items others each
    exact all each
  · intro items others tail other each last
    rw [Datum.same, all each, last, Bool.and_self]

end Alike

/-- Data that compare as the same are alike.  The induction is that of the comparison: two nodes or
two sequences at a time. -/
lemma alike_of_same (a b : Datum) : a.same b = true → Alike a b := by
  refine same.induct (fun a b => a.same b = true → Alike a b)
    (fun items others => sameAll items others = true → List.Forall₂ Alike items others)
    ?atom ?list ?dotted ?integer ?text ?boolean ?character ?float ?ratio ?complex ?apart
    ?nil ?cons ?lengths a b
  case list =>
    intro items others ih same
    exact .list (ih same)
  case dotted =>
    intro items tail others other ih ih' same
    obtain ⟨each, last⟩ := Bool.and_eq_true_iff.mp same
    exact .dotted (ih each) (ih' last)
  case float =>
    intro x y same
    exact .float (Binary64.same_iff_equal.mp same)
  case complex =>
    intro real imaginary real' imaginary' same
    obtain ⟨equal, equal'⟩ := Bool.and_eq_true_iff.mp same
    exact .complex (Binary64.same_iff_equal.mp equal) (Binary64.same_iff_equal.mp equal')
  case apart =>
    intro a b _ _ _ _ _ _ _ _ _ _ same
    simp [Datum.same] at same
  case nil =>
    intro _
    exact .nil
  case cons =>
    intro first items other others ih ih' same
    obtain ⟨same, each⟩ := Bool.and_eq_true_iff.mp same
    exact .cons (ih same) (ih' each)
  case lengths =>
    intro items others _ _ same
    simp [sameAll] at same
  all_goals
    intro value other same
    obtain rfl := beq_iff_eq.mp same
    constructor

/-- What is compared is whether two data are alike. -/
lemma same_iff_alike : a.same b = true ↔ Alike a b :=
  ⟨alike_of_same a b, Alike.same⟩

/-! ## Data that are the same as themselves -/

mutual

/-- All doubles in a datum, from left to right. -/
def doubles : Datum → List Binary64
  | .list items => allDoubles items
  | .dotted items tail => allDoubles items ++ tail.doubles
  | .float value => [value]
  | .complex real imaginary => [real, imaginary]
  | _ => []

/-- All doubles in some data. -/
def allDoubles : List Datum → List Binary64
  | [] => []
  | first :: rest => first.doubles ++ allDoubles rest

end

lemma forall_mem_allDoubles {items : List Datum} {P : Binary64 → Prop} :
    (∀ x ∈ allDoubles items, P x) ↔ ∀ item ∈ items, ∀ x ∈ item.doubles, P x := by
  induction items with
  | nil => simp [allDoubles]
  | cons first rest ih => rw [allDoubles, List.forall_mem_append, ih, List.forall_mem_cons]

/-- A datum is the same as itself just if all doubles in it are numbers. -/
lemma same_self_iff (a : Datum) : a.same a = true ↔ ∀ x ∈ a.doubles, x.isNaN = false := by
  have each {items : List Datum}
      (ih : ∀ item ∈ items, (item.same item = true ↔ ∀ x ∈ item.doubles, x.isNaN = false)) :
      sameAll items items = true ↔ ∀ x ∈ allDoubles items, x.isNaN = false := by
    rw [sameAll_self_iff, forall_mem_allDoubles]
    exact forall₂_congr ih
  induction a using Datum.induction with
  | leaf a isLeaf =>
      cases a with
      | list items => cases isLeaf
      | dotted items tail => cases isLeaf
      | _ => simp [same, doubles, Binary64.same_iff_equal, Binary64.equal_self_iff]
  | list items ih =>
      rw [same, doubles]
      exact each ih
  | dotted items tail ih ih' =>
      rw [same, doubles, Bool.and_eq_true, List.forall_mem_append]
      exact and_congr (each ih) ih'

/-! ## Codes -/

/-- A way to make codes: of what a leaf holds, of a sequence of codes, and of a node from what kind
of node it is, which may be passed over, and the codes of all that it holds.  Nothing is asked but
that doubles which are one number share their code. -/
structure Coding where
  text : String → UInt64
  character : Char → UInt64
  integer : Int → UInt64
  truth : Bool → UInt64
  double : Binary64 → UInt64
  double_eq : ∀ {x y : Binary64}, x.Equal y → double x = double y
  sequence : List UInt64 → UInt64
  node : UInt64 → List UInt64 → UInt64

mutual

/-- The code that a datum has. -/
def codeIn (coding : Coding) : Datum → UInt64
  | .atom name => coding.node 1 [coding.text name]
  | .list items => coding.node 2 [coding.sequence (codesIn coding items)]
  | .dotted items tail =>
    coding.node 3 [coding.sequence (codesIn coding items), codeIn coding tail]
  | .integer value => coding.node 4 [coding.integer value]
  | .text value => coding.node 5 [coding.text value]
  | .boolean value => coding.node 6 [coding.truth value]
  | .character value => coding.node 7 [coding.character value]
  | .float value => coding.node 8 [coding.double value]
  | .ratio value =>
    coding.node 9 [coding.integer value.numerator, coding.integer value.denominator]
  | .complex real imaginary => coding.node 10 [coding.double real, coding.double imaginary]

/-- The code that each of some data has. -/
def codesIn (coding : Coding) : List Datum → List UInt64
  | [] => []
  | first :: rest => codeIn coding first :: codesIn coding rest

end

/-- Data that are alike share their code, in whatever way it is made. -/
lemma Alike.codeIn_eq (alike : Alike a b) (coding : Coding) :
    codeIn coding a = codeIn coding b := by
  have all {items others : List Datum}
      (each : List.Forall₂ (fun a b => codeIn coding a = codeIn coding b) items others) :
      codesIn coding items = codesIn coding others := by
    induction each with
    | nil => rfl
    | cons first _ ih => rw [codesIn, codesIn, first, ih]
  refine alike.induction (P := fun a b => codeIn coding a = codeIn coding b) ?_ ?_ ?_
  · intro a b alike isLeaf
    cases alike with
    | list _ => cases isLeaf
    | dotted _ _ => cases isLeaf
    | float equal => rw [codeIn, codeIn, coding.double_eq equal]
    | complex equal equal' =>
        rw [codeIn, codeIn, coding.double_eq equal, coding.double_eq equal']
    | _ => rfl
  · intro items others each
    rw [codeIn, codeIn, all each]
  · intro items others tail other each last
    rw [codeIn, codeIn, all each, last]

/-- The code of data is made in any way that gives leaves their code and mixes in the same order. -/
lemma hash_eq_codeIn {coding : Coding}
    (leaf : ∀ a : Datum, a.isLeaf = true → a.hash = codeIn coding a)
    (sequence : ∀ codes, coding.sequence codes = codes.foldr mixHash 11)
    (list : ∀ code, coding.node 2 [code] = mixHash 2 code)
    (dotted : ∀ code code', coding.node 3 [code, code'] = mixHash 3 (mixHash code code'))
    (a : Datum) : a.hash = codeIn coding a := by
  have all {items : List Datum} (ih : ∀ item ∈ items, item.hash = codeIn coding item) :
      hashAll items = coding.sequence (codesIn coding items) := by
    rw [sequence]
    induction items with
    | nil => rfl
    | cons first rest ih' =>
        obtain ⟨here, there⟩ := List.forall_mem_cons.mp ih
        show mixHash first.hash (hashAll rest) = _
        rw [here, ih' there]
        rfl
  induction a using Datum.induction with
  | leaf a isLeaf => exact leaf a isLeaf
  | list items ih =>
      show mixHash 2 (hashAll items) = _
      rw [all ih, codeIn, list]
  | dotted items tail ih ih' =>
      show mixHash 3 (mixHash (hashAll items) tail.hash) = _
      rw [all ih, ih', codeIn, dotted]

/-- The kind of a node mixed with the codes of what it holds, of which two are mixed first. -/
def mixedNode (kind : UInt64) : List UInt64 → UInt64
  | [code, code'] => mixHash kind (mixHash code code')
  | codes => codes.foldl mixHash kind

/-- The code that is used is made in such a way. -/
lemma exists_coding : ∃ coding : Coding, ∀ a : Datum, a.hash = codeIn coding a := by
  refine ⟨{
    text := Hashable.hash
    character := Hashable.hash
    integer := Hashable.hash
    truth := Hashable.hash
    double := Binary64.hash
    double_eq := fun equal => Binary64.hash_eq_of_same (Binary64.same_iff_equal.mpr equal)
    sequence := fun codes => codes.foldr mixHash 11
    node := mixedNode }, hash_eq_codeIn ?_ (fun _ => rfl) (fun _ => rfl) (fun _ _ => rfl)⟩
  intro a isLeaf
  cases a with
  | list items => cases isLeaf
  | dotted items tail => cases isLeaf
  | _ => rfl

/-! ## Sameness, codes and groups -/

/-- Sameness, codes and groups of data fit together.  What is compared is likeness; it is symmetric
and transitive, and holds between a datum and a copy of it just if all doubles in the datum are
numbers.  Data that are the same share their code, in whatever way it is made of what nodes hold.  So
grouping by codes is comparing each datum with all before it, and gives each the least index of one
that is the same, or its own if there is none. -/
theorem same_coherent (a b c : Datum) (coding : Coding) (data : List Datum) :
    (a.same b = true ↔ Alike a b) ∧
    a.same b = b.same a ∧
    (a.same b = true → b.same c = true → a.same c = true) ∧
    (a.same a = true ↔ ∀ x ∈ a.doubles, x.isNaN = false) ∧
    (a.same b = true → a.hash = b.hash ∧ codeIn coding a = codeIn coding b) ∧
    groups Value.same Value.hash (data.map .datum) = scannedGroups Datum.same data ∧
    groups Datum.same (codeIn coding) data = scannedGroups Datum.same data ∧
    ∀ (index : Nat) (x : Datum), data[index]? = some x → ∃ first,
      (groups Value.same Value.hash (data.map .datum))[index]? = some first ∧
        IsLeast {place | place = index ∨ ∃ y ∈ data[place]?, Datum.same y x = true} first := by
  have transitive (a b c : Datum) (equal : a.same b = true) (equal' : b.same c = true) :
      a.same c = true :=
    ((same_iff_alike.mp equal).trans (same_iff_alike.mp equal')).same
  have coherent (coding : Coding) (a b : Datum) (equal : a.same b = true) :
      codeIn coding a = codeIn coding b :=
    (same_iff_alike.mp equal).codeIn_eq coding
  have hashes (a b : Datum) (equal : a.same b = true) : a.hash = b.hash := by
    obtain ⟨coding, made⟩ := exists_coding
    rw [made, made, coherent coding a b equal]
  have grouped : groups Value.same Value.hash (data.map .datum) = scannedGroups Datum.same data :=
    groups_eq_scannedGroups Value.datum transitive
      (fun a b equal => congrArg (mixHash 1) (hashes a b equal)) data
  refine ⟨same_iff_alike, ?_, transitive a b c, same_self_iff a,
    fun equal => ⟨hashes a b equal, coherent coding a b equal⟩, grouped, ?_, ?_⟩
  · rw [Bool.eq_iff_iff, same_iff_alike, same_iff_alike]
    exact ⟨Alike.symm, Alike.symm⟩
  · have scanned : groups Datum.same (codeIn coding) (data.map id) =
        scannedGroups Datum.same data := groups_eq_scannedGroups id transitive (coherent coding) data
    rwa [List.map_id] at scanned
  · intro index x here
    rw [grouped]
    exact isLeast_of_scannedGroups here

/-- Both zeros are one number in all of it, and what is not a number keeps a list from being the
same as its copy. -/
theorem same_coherent_zeros :
    (Datum.list [.float (.ofBits 0)]).hash =
      (Datum.list [.float (.ofBits 0x8000000000000000)]).hash ∧
    (Datum.list [.float (.ofBits 0x7ff8000000000000)]).same
      (.list [.float (.ofBits 0x7ff8000000000000)]) = false ∧
    groups Value.same Value.hash ([.list [.float (.ofBits 0)],
      .list [.float (.ofBits 0x7ff8000000000000)], .list [.float (.ofBits 0x8000000000000000)],
      .list [.float (.ofBits 0x7ff8000000000000)], .integer 1, .boolean true].map .datum) =
        [0, 1, 0, 3, 4, 5] := by
  obtain ⟨coding, -⟩ := exists_coding
  obtain ⟨-, -, -, -, codes, -⟩ := same_coherent (.list [.float (.ofBits 0)])
    (.list [.float (.ofBits 0x8000000000000000)]) default coding []
  obtain ⟨-, -, -, numbers, -, grouped, -⟩ :=
    same_coherent (.list [.float (.ofBits 0x7ff8000000000000)]) default default coding
      [.list [.float (.ofBits 0)], .list [.float (.ofBits 0x7ff8000000000000)],
        .list [.float (.ofBits 0x8000000000000000)], .list [.float (.ofBits 0x7ff8000000000000)],
        .integer 1, .boolean true]
  refine ⟨(codes (by decide)).1, ?_, ?_⟩
  · rw [Bool.eq_false_iff, Ne, numbers]
    decide
  · rw [grouped]
    decide

end Datum

end SExpr
