import SExpr.Datum.Basic

/-!
# Equality of data

Two data are the same if they have the same shape with the same kind of node everywhere and
equal contents.  Doubles are compared as numbers: the zeros of either sign are the same, and what
is not a number is the same as nothing, so a datum that holds such a thing is not even the same
as itself.  Ratios are compared as they were written.

* `Datum.same` — whether two data are the same.
* `Datum.hash` — a code that data which are the same share; it looks at a zero without its sign.
-/

namespace SExpr

namespace Datum

mutual

/-- Whether two data are the same. -/
def same : Datum → Datum → Bool
  | .atom a, .atom b => a == b
  | .list as, .list bs => sameAll as bs
  | .dotted as a, .dotted bs b => sameAll as bs && same a b
  | .integer a, .integer b => a == b
  | .text a, .text b => a == b
  | .boolean a, .boolean b => a == b
  | .character a, .character b => a == b
  | .float a, .float b => a.same b
  | .ratio a, .ratio b => a == b
  | .complex a a', .complex b b' => a.same b && a'.same b'
  | _, _ => false

/-- Whether two sequences of data have the same length and the same data in each place. -/
def sameAll : List Datum → List Datum → Bool
  | [], [] => true
  | a :: as, b :: bs => same a b && sameAll as bs
  | _, _ => false

end

end Datum

namespace Binary64

/-- A code of a double; both zeros have the same one. -/
def hash (x : Binary64) : UInt64 :=
  if x.magnitude = 0 then 0 else mixHash (Hashable.hash x.negative) (Hashable.hash x.magnitude)

end Binary64

namespace Datum

mutual

/-- A code of a datum, the same for data that are the same. -/
def hash : Datum → UInt64
  | .atom name => mixHash 1 (Hashable.hash name)
  | .list items => mixHash 2 (hashAll items)
  | .dotted items tail => mixHash 3 (mixHash (hashAll items) tail.hash)
  | .integer value => mixHash 4 (Hashable.hash value)
  | .text value => mixHash 5 (Hashable.hash value)
  | .boolean value => mixHash 6 (Hashable.hash value)
  | .character value => mixHash 7 (Hashable.hash value)
  | .float value => mixHash 8 value.hash
  | .ratio value => mixHash 9 (mixHash (Hashable.hash value.numerator)
      (Hashable.hash value.denominator))
  | .complex real imaginary => mixHash 10 (mixHash real.hash imaginary.hash)

/-- A code of a sequence of data. -/
def hashAll : List Datum → UInt64
  | [] => 11
  | first :: rest => mixHash first.hash (hashAll rest)

end

end Datum

end SExpr
