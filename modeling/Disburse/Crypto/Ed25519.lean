import Disburse.Crypto.Sha512

/-!
Ed25519 signatures. Points of the twisted Edwards curve `-x² + y² = 1 + d x² y²` over the field of
`2 ^ 255 - 19` elements are kept in extended coordinates, numbers in little-endian bytes.
-/

namespace Disburse.Ed25519

/-- The prime that coordinates are taken modulo. -/
def fieldOrder : Nat := Nat.pow 2 255 - 19

/-- The order of the base point. -/
def groupOrder : Nat := Nat.pow 2 252 + 27742317777372353535851937790883648493

/-- The coefficient `d` of the curve: `-121665 / 121666`. -/
def coefficient : Nat :=
  37095705934669439343138083508754565189542113879843219016388785533085940283555

/-- A power in the field, for exponents below `2 ^ bits`. -/
def power : Nat → Nat → Nat → Nat
  | 0, _, _ => 1
  | bits + 1, x, n =>
    let rest := power bits (x * x % fieldOrder) (n / 2)
    if n % 2 = 1 then x * rest % fieldOrder else rest

/-- The inverse modulo the prime, as a power. -/
def inverse (x : Nat) : Nat :=
  power 255 x (fieldOrder - 2)

/-- The point `(x / z, y / z)`, with `t * z = x * y`. -/
structure Point where
  x : Nat
  y : Nat
  z : Nat
  t : Nat
  deriving DecidableEq

namespace Point

/-- The point that changes nothing when it is added. -/
def neutral : Point := ⟨0, 1, 1, 0⟩

/-- The generator: `y` is `4 / 5`, and `x` is even. -/
def base : Point where
  x := 15112221349535400772501151409588531511454012693041857206046113283949847762202
  y := 46316835694926478169428394003475163141307993866256225615783033603165251855960
  z := 1
  t := 46827403850823179245072216630277197565144205554125654976674165829533817101731

def minus (a b : Nat) : Nat :=
  (a + (fieldOrder - b)) % fieldOrder

/-- The sum of two points in extended coordinates. -/
def add (p q : Point) : Point :=
  let a := minus p.y p.x * minus q.y q.x % fieldOrder
  let b := (p.y + p.x) * (q.y + q.x) % fieldOrder
  let c := p.t * (2 * coefficient) * q.t % fieldOrder
  let d := p.z * 2 * q.z % fieldOrder
  let e := minus b a
  let f := minus d c
  let g := (d + c) % fieldOrder
  let h := (b + a) % fieldOrder
  { x := e * f % fieldOrder
    y := g * h % fieldOrder
    z := f * g % fieldOrder
    t := e * h % fieldOrder }

/-- A multiple of a point, by doubling for each bit. -/
def times : Nat → Nat → Point → Point
  | 0, _, _ => neutral
  | bits + 1, n, p =>
    let rest := times bits (n / 2) (p.add p)
    if n % 2 = 1 then p.add rest else rest

end Point

/-- The bytes of a number, the lowest one first. -/
def littleEndian : Nat → Nat → List UInt8
  | 0, _ => []
  | width + 1, n => UInt8.ofNat n :: littleEndian width (n / 256)

/-- The number of some bytes, the least significant first. -/
def ofLittleEndian (bytes : List UInt8) : Nat :=
  bytes.foldr (fun b n => b.toNat + 256 * n) 0

/-- The height of a point, and in the top bit whether its other coordinate is odd. -/
def Point.encode (p : Point) : List UInt8 :=
  let z := inverse p.z
  let x := p.x * z % fieldOrder
  let y := p.y * z % fieldOrder
  littleEndian 32 (y + x % 2 * Nat.pow 2 255)

/-- The secret number of a seed's digest: a multiple of eight with its top bit at place 254. -/
def secretScalar (digest : List UInt8) : Nat :=
  ofLittleEndian (digest.take 32) % Nat.pow 2 254 / 8 * 8 + Nat.pow 2 254

def publicKey (seed : List UInt8) : List UInt8 :=
  (Point.times 255 (secretScalar (Sha512.digest seed)) Point.base).encode

/-- A digest as a number below the order of the base point. -/
def digestScalar (message : List UInt8) : Nat :=
  ofLittleEndian (Sha512.digest message) % groupOrder

/-- The signature of a message, which a seed and a message determine. -/
def sign (seed message : List UInt8) : List UInt8 :=
  let digest := Sha512.digest seed
  let secret := secretScalar digest
  let nonce := digestScalar (digest.drop 32 ++ message)
  let commitment := (Point.times 255 nonce Point.base).encode
  let challenge := digestScalar (commitment ++ publicKey seed ++ message)
  commitment ++ littleEndian 32 ((nonce + challenge * secret) % groupOrder)

end Disburse.Ed25519
