/-!
# The curve secp256k1

Points of `y² = x³ + 7` over the prime field, in Jacobian coordinates: `(x, y, z)` stands for the
point `(x / z², y / z³)`, and `z = 0` for the point at infinity. Coordinates are naturals below
the field prime.

* `Secp256k1.multiply`: a multiple of a point, by doubling and adding.
* `Secp256k1.coordinates`: the affine coordinates of a point.
-/

namespace DepositGateway

namespace Secp256k1

/-- The size of the field. -/
def fieldPrime : Nat := 0xfffffffffffffffffffffffffffffffffffffffffffffffffffffffefffffc2f

/-- The number of points, which is prime too. -/
def order : Nat := 0xfffffffffffffffffffffffffffffffebaaedce6af48a03bbfd25e8cd0364141

/-- A power modulo `modulus`, by squaring. -/
def power (modulus base exponent : Nat) : Nat :=
  if exponent = 0 then 1 % modulus
  else
    let half := power modulus (base * base % modulus) (exponent / 2)
    if exponent % 2 = 0 then half else half * base % modulus
termination_by exponent
decreasing_by omega

/-- The inverse modulo a prime, by Fermat's theorem. -/
def inverse (prime value : Nat) : Nat := power prime (value % prime) (prime - 2)

/-- A point in Jacobian coordinates. -/
structure Point where
  x : Nat
  y : Nat
  z : Nat
  deriving DecidableEq

namespace Point

/-- The point at infinity, the neutral element. -/
def infinity : Point := ⟨1, 1, 0⟩

/-- The point added to itself. -/
def double (p : Point) : Point :=
  if p.z = 0 ∨ p.y = 0 then infinity
  else
    let ySquared := p.y * p.y % fieldPrime
    let s := 4 * p.x * ySquared % fieldPrime
    let m := 3 * p.x * p.x % fieldPrime
    let x := (m * m + 2 * (fieldPrime - s)) % fieldPrime
    let y := (m * (s + (fieldPrime - x)) + 8 * (fieldPrime - ySquared * ySquared % fieldPrime))
      % fieldPrime
    ⟨x, y, 2 * p.y * p.z % fieldPrime⟩

/-- The sum of two points. -/
def add (p q : Point) : Point :=
  if p.z = 0 then q
  else if q.z = 0 then p
  else
    let pz := p.z * p.z % fieldPrime
    let qz := q.z * q.z % fieldPrime
    let u := p.x * qz % fieldPrime
    let v := q.x * pz % fieldPrime
    let s := p.y * q.z % fieldPrime * qz % fieldPrime
    let t := q.y * p.z % fieldPrime * pz % fieldPrime
    if u = v then
      if s = t then double p else infinity
    else
      let h := (v + (fieldPrime - u)) % fieldPrime
      let r := (t + (fieldPrime - s)) % fieldPrime
      let hSquared := h * h % fieldPrime
      let hCubed := hSquared * h % fieldPrime
      let w := u * hSquared % fieldPrime
      let x := (r * r + (fieldPrime - hCubed) + 2 * (fieldPrime - w)) % fieldPrime
      let y := (r * (w + (fieldPrime - x)) + (fieldPrime - s * hCubed % fieldPrime)) % fieldPrime
      ⟨x, y, p.z * q.z % fieldPrime * h % fieldPrime⟩

end Point

/-- The generator of the group. -/
def generator : Point :=
  ⟨0x79be667ef9dcbbac55a06295ce870b07029bfcdb2dce28d959f2815b16f81798,
   0x483ada7726a3c4655da4fbfc0e1108a8fd17b448a68554199c47d08ffb10d4b8, 1⟩

/-- The point added to itself `scalar` times. -/
def multiply (scalar : Nat) (p : Point) : Point :=
  if scalar = 0 then .infinity
  else
    let half := multiply (scalar / 2) p
    let doubled := half.double
    if scalar % 2 = 0 then doubled else doubled.add p
termination_by scalar
decreasing_by omega

/-- The affine coordinates of a point; the point at infinity counts as `(0, 0)`. -/
def coordinates (p : Point) : Nat × Nat :=
  let inverted := inverse fieldPrime p.z
  let squared := inverted * inverted % fieldPrime
  (p.x * squared % fieldPrime, p.y * squared % fieldPrime * inverted % fieldPrime)

end Secp256k1

end DepositGateway
