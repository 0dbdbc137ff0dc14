import Iq9Pipeline.Packets

/-!
JSON values as the pipeline's library holds them, with the accessors the code
calls. An accessor that meets a value of the wrong type throws, so each of them
is fallible and keeps the id and the text of the exception. A cast of a double
to an integer type whose truncated value is outside the type is undefined, so a
double comes with what its casts give, and only the others are known.
-/

namespace Iq9Pipeline

/-- A number with a fraction or an exponent, and what its casts to the integer types give. -/
structure JsonDouble where
  value : Float
  uint32 : UInt32
  uint64 : UInt64
  int32 : Int32
  int64 : Int64
  uint32_eq : -1 < value ∧ value < 4294967296 → uint32 = value.toUInt32
  uint64_eq : -1 < value ∧ value < 18446744073709551616 → uint64 = value.toUInt64
  int32_eq : -2147483649 < value ∧ value < 2147483648 → int32 = value.toInt32
  int64_eq : -9223372036854775808 ≤ value ∧ value < 9223372036854775808 → int64 = value.toInt64

namespace JsonDouble

/-- The casts as AArch64 has them: to the nearest value of the type. -/
def ofFloat (value : Float) : JsonDouble where
  value := value
  uint32 := value.toUInt32
  uint64 := value.toUInt64
  int32 := value.toInt32
  int64 := value.toInt64
  uint32_eq := fun _ => rfl
  uint64_eq := fun _ => rfl
  int32_eq := fun _ => rfl
  int64_eq := fun _ => rfl

def FitsUInt32 (double : JsonDouble) : Prop :=
  -1 < double.value ∧ double.value < 4294967296

instance (double : JsonDouble) : Decidable double.FitsUInt32 :=
  inferInstanceAs (Decidable (_ ∧ _))

end JsonDouble

inductive Json
  | null
  | boolean (value : Bool)
  | numberInteger (value : Int64)
  | numberUnsigned (value : UInt64)
  | numberFloat (value : JsonDouble)
  | string (value : String)
  | array (elements : List Json)
  | object (members : List (String × Json))

structure JsonException where
  id : Nat
  text : String
deriving DecidableEq, Repr

namespace Json

def typeName : Json → String
  | .null => "null"
  | .boolean _ => "boolean"
  | .numberInteger _ | .numberUnsigned _ | .numberFloat _ => "number"
  | .string _ => "string"
  | .array _ => "array"
  | .object _ => "object"

def isObject : Json → Bool
  | .object _ => true
  | _ => false

def find (json : Json) (key : String) : Option Json :=
  match json with
  | .object members => (members.find? fun member => member.1 = key).map Prod.snd
  | _ => none

def contains (json : Json) (key : String) : Bool :=
  (json.find key).isSome

def value {α : Type} (json : Json) (get : Json → Except JsonException α) (key : String)
    (default : α) : Except JsonException α :=
  match json with
  | .object _ =>
      match json.find key with
      | some member => get member
      | none => .ok default
  | _ => .error { id := 306, text := "cannot use value() with " ++ json.typeName }

def getNumber {α : Type} (ofBool : Bool → α) (ofInteger : Int64 → α) (ofUnsigned : UInt64 → α)
    (ofFloat : JsonDouble → α) : Json → Except JsonException α
  | .boolean value => .ok (ofBool value)
  | .numberInteger value => .ok (ofInteger value)
  | .numberUnsigned value => .ok (ofUnsigned value)
  | .numberFloat value => .ok (ofFloat value)
  | json => .error { id := 302, text := "type must be number, but is " ++ json.typeName }

def getUInt32 : Json → Except JsonException UInt32 :=
  getNumber Bool.toUInt32 (fun value => castUInt32 value.toInt) UInt64.toUInt32
    JsonDouble.uint32

def getUInt64 : Json → Except JsonException UInt64 :=
  getNumber Bool.toUInt64 Int64.toUInt64 id JsonDouble.uint64

def getInt : Json → Except JsonException Int32 :=
  getNumber Bool.toInt32 Int64.toInt32 (fun value => value.toUInt32.toInt32)
    JsonDouble.int32

def getFloat : Json → Except JsonException Float32 :=
  getNumber (fun value => if value then 1 else 0) Int64.toFloat32 UInt64.toFloat32
    (fun double => double.value.toFloat32)

def getString : Json → Except JsonException String
  | .string value => .ok value
  | json => .error { id := 302, text := "type must be string, but is " ++ json.typeName }

def getVector {α : Type} (get : Json → Except JsonException α) :
    Json → Except JsonException (List α)
  | .array elements => elements.mapM get
  | json => .error { id := 302, text := "type must be array, but is " ++ json.typeName }

end Json

end Iq9Pipeline
