import PlanarSketch.Linear.Dense

/-!
# Singular values

The singular values of a matrix are the lengths of its rows once the rows are turned, two at a time,
until any two are perpendicular. Turning two rows by the right angle makes them perpendicular and
keeps the others, and after a few rounds over all pairs every pair of rows is as good as
perpendicular. The matrix is used with the fewer of its rows and columns as rows.

Rows are compared through their lengths and the cosine of their angle, never through squares, so
rows of very different size do not disturb each other. A matrix whose largest entry is far from one
is brought nearer first.

The values come out in descending order.
-/

set_option autoImplicit false

namespace PlanarSketch

namespace Spectrum

variable {m n : Nat} {α : Type} [Scalar α]

/-- The largest absolute value in a list. -/
def largest (xs : List α) : α :=
  xs.foldl (fun held x => Scalar.atLeast held (Scalar.abs x)) Scalar.zero

/-- The spacing of doubles at one: rows whose angle has a cosine up to this count as
perpendicular. -/
def negligible : α := Scalar.one / Scalar.ofNat (Nat.pow 2 52)

/-- The length of a row, measured in units of its largest entry. -/
def length (row : Vector α n) : α :=
  let unit := largest row.toList
  if Scalar.isZero unit then Scalar.zero
  else unit * Scalar.norm (row.toList.map fun x => x / unit)

/-- The cosine of the angle between two rows; zero when one of them is zero. -/
def cosine (x y : Vector α n) : α :=
  let first := length x
  let second := length y
  if Scalar.isZero first || Scalar.isZero second then Scalar.zero
  else Scalar.sum ((List.finRange n).map fun k => x.get k / first * (y.get k / second))

/-- Whether two rows count as perpendicular. -/
def arePerpendicular (x y : Vector α n) : Bool := !Scalar.lt negligible (Scalar.abs (cosine x y))

/-- Turns two rows until they are perpendicular; the first must not be the shorter one. The tangent
of the turn is small of the order of the ratio of the lengths, and is kept as a multiple of it. -/
def turn (x y : Vector α n) : Vector α n × Vector α n :=
  let first := length x
  let second := length y
  let ratio := second / first
  let bend := (ratio * ratio - Scalar.one) / (Scalar.two * cosine x y)
  let root := Scalar.abs bend + Scalar.hypot ratio bend
  let share := if Scalar.lt bend Scalar.zero then -(Scalar.one / root) else Scalar.one / root
  let tangent := share * ratio
  let scale := Scalar.one / Scalar.hypot Scalar.one tangent
  (Vector.ofFn fun k => scale * (x.get k - tangent * y.get k),
    Vector.ofFn fun k => scale * (y.get k + share * second * (x.get k / first)))

/-- Turns two rows of a matrix, unless they already count as perpendicular. -/
def turnRows (a : Dense m n α) (p q : Fin m) : Dense m n α :=
  let x := a.get p
  let y := a.get q
  if arePerpendicular x y then a
  else if Scalar.lt (length x) (length y) then
    let turned := turn y x
    (a.set p.val turned.2 p.isLt).set q.val turned.1 q.isLt
  else
    let turned := turn x y
    (a.set p.val turned.1 p.isLt).set q.val turned.2 q.isLt

/-- All pairs of different rows. -/
def pairs (m : Nat) : List (Fin m × Fin m) :=
  (List.finRange m).flatMap fun p =>
    ((List.finRange m).filter fun q => p.val < q.val).map fun q => (p, q)

/-- Whether all pairs of rows count as perpendicular. -/
def isSettled (a : Dense m n α) : Bool :=
  (pairs m).all fun pair => arePerpendicular (a.get pair.1) (a.get pair.2)

/-- One round over all pairs of rows. -/
def round (a : Dense m n α) : Dense m n α :=
  (pairs m).foldl (fun a pair => turnRows a pair.1 pair.2) a

/-- Rounds until the matrix is settled, up to a number of them; thirty are more than any matrix of a
sketch needs. -/
def rounds : Nat → Dense m n α → Dense m n α
  | 0, a => a
  | count + 1, a => if isSettled a then a else rounds count (round a)

/-- Puts a number into a descending list. -/
def insert (x : α) : List α → List α
  | [] => [x]
  | y :: rest => if Scalar.lt x y then y :: insert x rest else x :: y :: rest

/-- The largest entry that a matrix is worked on with. -/
def upperSize : α := Scalar.ofNat (Nat.pow 2 459)

/-- The smallest largest entry that a matrix is worked on with. -/
def lowerSize : α := Scalar.one / upperSize

/-- The size that a matrix is brought to when its largest entry is `size`. -/
def workingSize (size : α) : α := Scalar.atMost upperSize (Scalar.atLeast lowerSize size)

/-- The lengths of the rows after turning, in descending order. -/
def ofRows (a : Dense m n α) : List α :=
  let size := largest (a.toList.flatMap Vector.toList)
  if Scalar.isZero size then List.replicate m Scalar.zero
  else
    let working := workingSize size
    let turned := rounds 30 (Dense.ofFn fun i j => a.entry i j * (working / size))
    (turned.toList.map fun row => length row * (size / working)).foldl
      (fun held value => insert value held) []

/-- The singular values of a matrix in descending order, as many as the smaller of its two sizes. -/
def singularValues (a : Dense m n α) : List α :=
  if m ≤ n then ofRows a else ofRows a.transpose

end Spectrum

end PlanarSketch
