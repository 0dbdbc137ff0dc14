import Iq9Pipeline.Json
import Mathlib.Data.Rat.Sqrt

/-!
The box and vector arithmetic of the rules (`utils/MathUtils.h`), over any type of
scalars. The program computes with `float`; the rationals give the same code over
exact arithmetic.
-/

namespace Iq9Pipeline.RuleProcess

class Scalar (Number : Type) extends Zero Number, Neg Number, Add Number, Sub Number,
    Mul Number, Div Number, OfScientific Number, BEq Number, LT Number, LE Number where
  decidableLt : DecidableLT Number
  decidableLe : DecidableLE Number
  sqrt : Number → Number
  toUInt64 : Number → UInt64
  ofJson : Json → Except JsonException Number

instance instDecidableLT {Number : Type} [Scalar Number] : DecidableLT Number := Scalar.decidableLt

instance instDecidableLE {Number : Type} [Scalar Number] : DecidableLE Number := Scalar.decidableLe

instance : Scalar Float32 where
  zero := 0
  decidableLt := Float32.decLt
  decidableLe := Float32.decLe
  sqrt := Float32.sqrt
  toUInt64 := Float32.toUInt64
  ofJson := Json.getFloat

def exactValue (value : Float) : ℚ :=
  let bits := value.toBits.toNat
  let mantissa : Nat := bits % 2 ^ 52
  let exponent : Nat := bits / 2 ^ 52 % 2 ^ 11
  let size : ℚ :=
    if exponent = 0 then mantissa * 2 ^ (-1074 : Int)
    else (2 ^ 52 + mantissa) * 2 ^ ((exponent : Int) - 1075)
  if bits / 2 ^ 63 = 1 then -size else size

instance : Scalar ℚ where
  decidableLt := inferInstance
  decidableLe := inferInstance
  sqrt := Rat.sqrt
  toUInt64 value := UInt64.ofNat value.floor.toNat
  ofJson := Json.getNumber (fun value => if value then 1 else 0) (fun value => value.toInt)
    (fun value => value.toNat) fun double => exactValue double.value

variable {Number : Type} [Scalar Number]

/-- `std::max`, which keeps its first argument unless the second is greater. -/
def stdMax (first second : Number) : Number :=
  if first < second then second else first

def stdMin (first second : Number) : Number :=
  if second < first then second else first

structure BBox (Number : Type) where
  x1 : Number
  y1 : Number
  x2 : Number
  y2 : Number

def BBox.area (box : BBox Number) : Number :=
  stdMax 0 (box.x2 - box.x1) * stdMax 0 (box.y2 - box.y1)

def toBBox : List Number → BBox Number
  | x1 :: y1 :: x2 :: y2 :: _ => ⟨x1, y1, x2, y2⟩
  | _ => ⟨0, 0, 0, 0⟩

def calculateIouBBox (a b : BBox Number) : Number :=
  let interX1 := stdMax a.x1 b.x1
  let interY1 := stdMax a.y1 b.y1
  let interX2 := stdMin a.x2 b.x2
  let interY2 := stdMin a.y2 b.y2
  let interArea := stdMax 0 (interX2 - interX1) * stdMax 0 (interY2 - interY1)
  let unionArea := a.area + b.area - interArea
  if unionArea ≤ 0 then 0 else interArea / unionArea

def calculateIou (boxA boxB : List Number) : Number :=
  calculateIouBBox (toBBox boxA) (toBBox boxB)

def calculateDangerZone (carBbox : List Number) (hExpand vExpand : Number) : List Number :=
  let b := toBBox carBbox
  let width := stdMax 0 (b.x2 - b.x1)
  let height := stdMax 0 (b.y2 - b.y1)
  let padX := width * hExpand
  let padY := height * vExpand
  [b.x1 - padX, b.y1, b.x2 + padX, b.y2 + padY]

def dotProduct (a b : List Number) : Number :=
  (a.zip b).foldl (fun sum pair => sum + pair.1 * pair.2) 0

def magnitude (a : List Number) : Number :=
  Scalar.sqrt (dotProduct a a)

def cosineSimilarity (a b : List Number) : Number :=
  let magA := magnitude a
  let magB := magnitude b
  if magA == 0 || magB == 0 then 0
  else dotProduct a b / (magA * magB)

end Iq9Pipeline.RuleProcess
