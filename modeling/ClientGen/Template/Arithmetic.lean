import ClientGen.Number.Complex
import ClientGen.Template.Layout

/-!
# Operations on data

Arithmetic and the joining of texts and sequences. Integers stay exact and turn into floating-point
numbers only next to one.
-/

namespace ClientGen.Template

namespace Run

open Datum hiding none

/-! ## Numbers -/

/-- A quotient, or the fault of a zero divisor. -/
def orZeroDivision {α : Type} (quotient : Option α) : Run α := orFault .divisionByZero quotient

/-- Greatest exponent of an exact power. -/
def greatestPower : Int := 10000000

/-- A complex number, unless a part of it is too large. -/
def complexResult (z : Complex) : Run Datum :=
  match z.real, z.imaginary with
  | .infinite _, _ | _, .infinite _ => fault .overflow
  | _, _ => pure (.complex z)

/-- A power of floating-point numbers. -/
def doublePower (x y : Double) : Run Datum :=
  if x.isZero && y.isNegative && y != .nan then fault .divisionByZero
  else if x.isFinite && x.isNegative && !x.isZero && y.isFinite && !y.isInteger then
    complexResult (.ofNegativePower x y)
  else
    let power := x.pow y
    match power with
    | .infinite _ => if x.isFinite && y.isFinite then fault .overflow else pure (.float power)
    | _ => pure (.float power)

/-- A power of integers; negative exponents give fractions. -/
def intPower (base exponent : Int) : Run Datum := do
  if 0 ≤ exponent then
    if greatestPower < exponent && 1 < base.natAbs then fault .overflow
    else if base.natAbs ≤ 1 then
      pure (.int (if exponent = 0 then 1 else if base = -1 && exponent % 2 = 0 then 1 else base))
    else pure (.int (Int.pow base exponent.toNat))
  else doublePower (← toDouble (.int base)) (← toDouble (.int exponent))

/-- An operation on two integers. -/
def intOperation (operation : Operation) (a b : Int) : Run Datum :=
  match operation with
  | .add => pure (.int (a + b))
  | .subtract => pure (.int (a - b))
  | .multiply => pure (.int (a * b))
  | .divide =>
      if b = 0 then fault .divisionByZero
      else
        let x := Double.ofRatio ((a < 0) != (b < 0)) a.natAbs b.natAbs
        if x.isFinite then pure (.float x) else fault .overflow
  | .floorDivide => if b = 0 then fault .divisionByZero else pure (.int (Int.fdiv a b))
  | .modulo => if b = 0 then fault .divisionByZero else pure (.int (Int.fmod a b))
  | .power => intPower a b

/-- An operation on two floating-point numbers. -/
def doubleOperation (operation : Operation) (x y : Double) : Run Datum :=
  match operation with
  | .add => pure (.float (x.add y))
  | .subtract => pure (.float (x.sub y))
  | .multiply => pure (.float (x.mul y))
  | .divide => do pure (.float (← orZeroDivision (x.div? y)))
  | .floorDivide => do pure (.float (← orZeroDivision (x.floorDiv? y)))
  | .modulo => do pure (.float (← orZeroDivision (x.mod? y)))
  | .power => doublePower x y

/-- The greatest exponent of a power of a complex number. -/
def greatestComplexPower : Nat := 100

/-- A power of a complex number; its exponent is an integer. -/
def complexPower (z w : Complex) : Run Datum := do
  match if w.imaginary.isZero && w.real.isInteger then w.real.truncate? else none with
  | some n =>
      if greatestComplexPower < n.natAbs then unsupported
      else
        let size := z.powNat n.natAbs
        if 0 ≤ n then complexResult size
        else do complexResult (← orZeroDivision (Complex.div? (.ofReal (.ofInt 1)) size))
  | .none => unsupported

/-- An operation on two complex numbers. -/
def complexOperation (operation : Operation) (z w : Complex) : Run Datum :=
  match operation with
  | .add => pure (.complex (z.add w))
  | .subtract => pure (.complex (z.sub w))
  | .multiply => pure (.complex (z.mul w))
  | .divide => do pure (.complex (← orZeroDivision (z.div? w)))
  | .power => complexPower z w
  | .floorDivide | .modulo => unsupported

/-- An operation on two numbers. -/
def numberOperation (operation : Operation) : Number → Number → Run Datum
  | .int a, .int b => intOperation operation a b
  | x, y => do doubleOperation operation (← toDouble x) (← toDouble y)

/-! ## Calendar values -/

/-- A moment that the calendar has. -/
def momentAt (micro : Int) (offset : Option Int) : Run Datum :=
  if micro < 86400000000 || 315537984000000000 ≤ micro then fault .overflow
  else pure (.moment (.ofClock micro offset))

/-- The day at a number of days. -/
def dayAt (number : Int) : Run Datum :=
  if number < 1 || 3652059 < number then fault .overflow else pure (.day (.ofOrdinal number.toNat))

/-- The whole days of a length of time. -/
def daysOf (micro : Int) : Int := Int.fdiv micro 86400000000

/-- An operation on calendar values and lengths of time. -/
def calendarOperation (operation : Operation) (left right : Datum) : Run Datum :=
  match operation, left, right with
  | .subtract, .day a, .day b =>
      pure (.span (((a.ordinal : Int) - b.ordinal) * 86400000000))
  | .subtract, .moment a, .moment b =>
      match a.universalClock?, b.universalClock? with
      | some x, some y => pure (.span (x - y))
      | .none, .none => pure (.span (a.ownClock - b.ownClock))
      | _, _ => unsupported
  | .add, .moment m, .span s | .add, .span s, .moment m => momentAt (m.ownClock + s) m.offset
  | .subtract, .moment m, .span s => momentAt (m.ownClock - s) m.offset
  | .add, .day d, .span s | .add, .span s, .day d => dayAt (d.ordinal + daysOf s)
  | .subtract, .day d, .span s => dayAt (d.ordinal - daysOf s)
  | .add, .span a, .span b => pure (.span (a + b))
  | .subtract, .span a, .span b => pure (.span (a - b))
  | .multiply, .span a, other | .multiply, other, .span a =>
      match other.int? with
      | some n => pure (.span (a * n))
      | .none => unsupported
  | .divide, .span a, .span b => do
      intOperation .divide a b
  | _, _, _ => unsupported

/-! ## Texts and sequences -/

/-- A sequence repeated. -/
def repeated {α : Type} (count : Int) (items : List α) : List α :=
  (List.replicate count.toNat items).flatten

/-- The items of a tuple. -/
def tuple? : Datum → Option (List Datum)
  | .tuple items => some items
  | .group key items => some [key, items]
  | _ => none

/-- A sequence repeated. -/
def repeatDatum (subject : Datum) (count : Int) : Run Datum := do
  match subject, subject.text?, tuple? subject with
  | _, some s, _ => pure (subject.likeText (repeated count s.toList))
  | _, _, some items => pure (.tuple (repeated count items))
  | .list place, _, _ => do newList (repeated count (← listAt place).toList)
  | .bytes octets, _, _ => pure (.bytes (repeated count octets))
  | _, _, _ => unsupported

/-- Two texts joined. Next to marked text, plain text is escaped. -/
def joinTexts (left right : Datum) (a b : String) : Datum :=
  if left.isMarked || right.isMarked then
    .markup ((if left.isMarked then a else escapeText a) ++
      (if right.isMarked then b else escapeText b))
  else .text (a ++ b)

/-- A sum of data that are not both numbers. -/
def addData (left right : Datum) : Run Datum := do
  match left, right, left.text?, right.text? with
  | _, _, some a, some b => pure (joinTexts left right a b)
  | .markup a, .loaded _, _, _ => do pure (.markup (a ++ (← text right)))
  | .loaded _, .markup b, _, _ => do pure (.markup ((← text left) ++ b))
  | .list a, .list b, _, _ => do newList ((← listAt a).toList ++ (← listAt b).toList)
  | .bytes a, .bytes b, _, _ => pure (.bytes (a ++ b))
  | _, _, _, _ =>
      match tuple? left, tuple? right with
      | some xs, some ys => pure (.tuple (xs ++ ys))
      | _, _ => calendarOperation .add left right

/-- An operation on data that are not both numbers. -/
def otherOperation (operation : Operation) (left right : Datum) : Run Datum := do
  match operation with
  | .add => addData left right
  | .multiply =>
      match left, right, left.int?, right.int? with
      | .span _, _, _, _ | _, .span _, _, _ => calendarOperation .multiply left right
      | _, _, some n, _ => repeatDatum right n
      | _, _, _, some n => repeatDatum left n
      | _, _, _, _ => unsupported
  | .subtract => do
      match ← setItems? left, ← setItems? right with
      | some xs, some ys => do
          let kept ← xs.filterM fun item => do pure (!(← anyRelated (same item) ys))
          newSet kept
      | _, _ => calendarOperation .subtract left right
  | _ => calendarOperation operation left right

/-- An operation. Nothing can be computed with a value that is not there, but such a value can be
put into a text. -/
def operate (operation : Operation) (left right : Datum) : Run Datum := do
  match operation, left.text?, left, right with
  | .modulo, some template, _, _ => do
      pure (left.likeText (← percentFormat left.isMarked template.toList right))
  | _, _, .undefined name, _ | _, _, _, .undefined name => missing name
  | _, _, _, _ =>
      match left.number?, right.number?, left.complex?, right.complex? with
      | some a, some b, _, _ => numberOperation operation a b
      | _, _, some z, some w => complexOperation operation z w
      | _, _, _, _ => otherOperation operation left right

/-- A number with the opposite sign. -/
def negate (datum : Datum) : Run Datum :=
  match datum, datum.number? with
  | .undefined name, _ => missing name
  | .span micro, _ => pure (.span (-micro))
  | .complex z, _ => pure (.complex z.neg)
  | _, some (.int n) => pure (.int (-n))
  | _, some (.float x) => pure (.float x.neg)
  | _, .none => unsupported

/-- A number as it is. -/
def plus (datum : Datum) : Run Datum :=
  match datum, datum.number? with
  | .undefined name, _ => missing name
  | .span micro, _ => pure (.span micro)
  | .complex z, _ => pure (.complex z)
  | _, some (.int n) => pure (.int n)
  | _, some (.float x) => pure (.float x)
  | _, .none => unsupported

/-- The texts of several data one after the other. Where text is escaped, plain texts next to
marked ones are. -/
def concat (isEscaped : Bool) (data : List Datum) : Run Datum := do
  if isEscaped && data.any isMarked then
    pure (.markup (String.join (← data.mapM marked)))
  else if isEscaped then pure (.text (String.join (← data.mapM softText)))
  else pure (.text (String.join (← data.mapM text)))

/-! ## Comparison -/

/-- A comparison. -/
def compareBy (machine : Machine) (comparison : Comparison) (left right : Datum) : Run Bool := do
  match comparison with
  | .equal => same left right
  | .different => do pure (!(← same left right))
  | .less => isOrdered .less left right
  | .atMost => isOrdered .atMost left right
  | .greater => isOrdered .greater left right
  | .atLeast => isOrdered .atLeast left right
  | .member => isMember machine left right
  | .absent => do pure (!(← isMember machine left right))

end Run

end ClientGen.Template
