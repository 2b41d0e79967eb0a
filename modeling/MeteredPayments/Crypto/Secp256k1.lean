/-!
# The curve secp256k1

The elliptic curve `y² = x³ + 7` over the prime field of `p = 2^256 - 2^32 - 977`, with the
generator `G` of prime order `n`. Points are computed in Jacobian coordinates: `(X, Y, Z)`
stands for the affine point `(X / Z², Y / Z³)`, and `Z = 0` for the point at infinity, so that
additions need no field inversion; one inversion turns the result back into affine form.
-/

namespace MeteredPayments.Secp256k1

/-- The field prime `2^256 - 2^32 - 977`. -/
def fieldPrime : Nat := Nat.pow 2 256 - Nat.pow 2 32 - 977

/-- The order of the generator. -/
def order : Nat := 0xFFFFFFFFFFFFFFFFFFFFFFFFFFFFFFFEBAAEDCE6AF48A03BBFD25E8CD0364141

/-- The affine x coordinate of the generator. -/
def generatorX : Nat := 0x79BE667EF9DCBBAC55A06295CE870B07029BFCDB2DCE28D959F2815B16F81798

/-- The affine y coordinate of the generator. -/
def generatorY : Nat := 0x483ADA7726A3C4655DA4FBFC0E1108A8FD17B448A68554199C47D08FFB10D4B8

/-- `base ^ exponent % modulus`, by repeated squaring over the bits of the exponent, the most
significant first. -/
def powMod (base exponent modulus : Nat) : Nat :=
  (List.range (exponent.log2 + 1)).foldr
    (fun bit power =>
      let square := power * power % modulus
      if exponent.testBit bit then square * base % modulus else square)
    (1 % modulus)

/-- The inverse of `value` modulo a prime, by Fermat's little theorem; zero has none and gives
zero. -/
def inverse (value modulus : Nat) : Nat := powMod value (modulus - 2) modulus

/-- Field sum. -/
def add (left right : Nat) : Nat := (left + right) % fieldPrime

/-- Field difference, for reduced operands. -/
def sub (left right : Nat) : Nat := (left + fieldPrime - right % fieldPrime) % fieldPrime

/-- Field product. -/
def mul (left right : Nat) : Nat := left * right % fieldPrime

/-- A point in Jacobian coordinates; `z = 0` is the point at infinity. -/
structure Point where
  /-- `X`, for the affine `X / Z²`. -/
  x : Nat
  /-- `Y`, for the affine `Y / Z³`. -/
  y : Nat
  /-- `Z`; zero at infinity. -/
  z : Nat
deriving DecidableEq, Repr

namespace Point

/-- The point at infinity, the neutral element. -/
def infinity : Point := ⟨1, 1, 0⟩

/-- The affine point `(x, y)`. -/
def ofAffine (x y : Nat) : Point := ⟨x, y, 1⟩

/-- The generator. -/
def generator : Point := ofAffine generatorX generatorY

/-- Whether this is the point at infinity. -/
def isInfinity (point : Point) : Bool := point.z = 0

/-- Twice a point. -/
def double (point : Point) : Point :=
  if point.z = 0 ∨ point.y = 0 then infinity
  else
    let yy := mul point.y point.y
    let s := mul 4 (mul point.x yy)
    let m := mul 3 (mul point.x point.x)
    let x := sub (mul m m) (mul 2 s)
    let y := sub (mul m (sub s x)) (mul 8 (mul yy yy))
    ⟨x, y, mul 2 (mul point.y point.z)⟩

/-- The sum of two points. -/
def plus (left right : Point) : Point :=
  if left.z = 0 then right
  else if right.z = 0 then left
  else
    let leftZZ := mul left.z left.z
    let rightZZ := mul right.z right.z
    let u1 := mul left.x rightZZ
    let u2 := mul right.x leftZZ
    let s1 := mul left.y (mul right.z rightZZ)
    let s2 := mul right.y (mul left.z leftZZ)
    if u1 = u2 then
      if s1 = s2 then double left else infinity
    else
      let h := sub u2 u1
      let r := sub s2 s1
      let hh := mul h h
      let hhh := mul h hh
      let v := mul u1 hh
      let x := sub (sub (mul r r) hhh) (mul 2 v)
      let y := sub (mul r (sub v x)) (mul s1 hhh)
      ⟨x, y, mul h (mul left.z right.z)⟩

/-- `scalar` times a point, by doubling and adding over the bits of the scalar, the most
significant first. -/
def times (scalar : Nat) (point : Point) : Point :=
  (List.range (scalar.log2 + 1)).foldr
    (fun bit multiple =>
      let doubled := multiple.double
      if scalar.testBit bit then doubled.plus point else doubled)
    infinity

/-- The affine coordinates, or none at infinity. -/
def toAffine (point : Point) : Option (Nat × Nat) :=
  if point.z = 0 then none
  else
    let zInverse := inverse point.z fieldPrime
    let zz := mul zInverse zInverse
    some (mul point.x zz, mul point.y (mul zz zInverse))

end Point

/-- The point with x coordinate `x` whose y coordinate has the parity `odd`, if `x` is on the
curve. -/
def decompress (x : Nat) (odd : Bool) : Option Point :=
  if x ≥ fieldPrime then none
  else
    let square := add (mul x (mul x x)) 7
    let root := powMod square ((fieldPrime + 1) / 4) fieldPrime
    if mul root root ≠ square then none
    else
      let y := if (root % 2 = 1) = odd then root else (fieldPrime - root) % fieldPrime
      some (Point.ofAffine x y)

end MeteredPayments.Secp256k1
