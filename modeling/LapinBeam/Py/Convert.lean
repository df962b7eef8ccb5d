import LapinBeam.Lib.Json
import LapinBeam.Wire.Bincode

/-!
# Python objects and payload bytes

`convert.rs`. A payload is serialized straight from the Python objects (`serialize`); where that
fails, `py_to_json` walks them again for an error with a type. The receiver builds Python objects
straight from the bytes (`bytes_to_py`).

`serde_json` is not part of this repository, so the development takes its writer and its reader as
parameters with the one property it relies on: what was written is read back (`SerdeJson.Lawful`).
-/

namespace LapinBeam.Convert

/-- A Python string may hold surrogates, which are no characters. -/
abbrev CodePoint := Fin 0x110000

def CodePoint.toChar (point : CodePoint) : Option Char :=
  if point.val.isValidChar then some (Char.ofNat point.val) else none

def CodePoint.ofChar (c : Char) : CodePoint :=
  ⟨c.toNat, by
    have hvalid : c.toNat.isValidChar := c.valid
    unfold Nat.isValidChar at hvalid
    omega⟩

/-- Python objects as far as `convert.rs` tells them apart. -/
inductive Obj
  | none
  | bool (value : Bool)
  | int (value : Int)
  | float (bits : UInt64)
  | str (points : List CodePoint)
  | list (items : List Obj)
  | tuple (items : List Obj)
  | dict (entries : List (Obj × Obj))
  /-- An instance of any other class, with the name of the class. -/
  | other (typeName : String)

def isFinite (bits : UInt64) : Bool := bits >>> 52 &&& 0x7ff != 0x7ff

abbrev FiniteFloat := {bits : UInt64 // isFinite bits = true}

namespace Obj

def isNone : Obj → Bool
  | .none => true
  | _ => false

def castBool : Obj → Option Bool
  | .bool value => some value
  | _ => Option.none

def extractString : Obj → Option String
  | .str points => (points.mapM CodePoint.toChar).map String.ofList
  | _ => Option.none

/-- `cast::<PyInt>`; `bool` is a subclass of `int`. -/
def castInt : Obj → Option Int
  | .int value => some value
  | .bool value => some value.toInt
  | _ => Option.none

def castFloat : Obj → Option UInt64
  | .float bits => some bits
  | _ => Option.none

def typeName : Obj → String
  | .none => "NoneType"
  | .bool _ => "bool"
  | .int _ => "int"
  | .float _ => "float"
  | .str _ => "str"
  | .list _ => "list"
  | .tuple _ => "tuple"
  | .dict _ => "dict"
  | .other typeName => typeName

end Obj

def extractI64 (value : Int) : Option Json.Integer :=
  if h : -2 ^ 63 ≤ value ∧ value < 2 ^ 63 then some ⟨value, h.1, by omega⟩ else none

def extractU64 (value : Int) : Option Json.Integer :=
  if h : 0 ≤ value ∧ value < 2 ^ 64 then some ⟨value, by omega, h.2⟩ else none

inductive PyErr
  | typeError (text : String)
  | valueError (text : String)
deriving DecidableEq

/-! ### `serde_json::Value` -/

/-- Whether an integer is a `PosInt` or a `NegInt` is its sign. -/
inductive Number
  | int (value : Json.Integer)
  | float (value : FiniteFloat)

/-- The members of an object are sorted by their keys. -/
inductive Value
  | null
  | bool (value : Bool)
  | number (value : Number)
  | string (value : String)
  | array (items : List Value)
  | object (members : List (String × Value))

def Number.fromF64 (bits : UInt64) : Option Number :=
  if h : isFinite bits = true then some (.float ⟨bits, h⟩) else none

def insert (key : String) (value : Value) : List (String × Value) → List (String × Value)
  | [] => [(key, value)]
  | (other, old) :: members =>
      if key < other then (key, value) :: (other, old) :: members
      else if key = other then (key, value) :: members
      else (other, old) :: insert key value members

abbrev Tree := Json.Tree FiniteFloat

mutual

def Value.tree : Value → Tree
  | .null => .null
  | .bool value => .bool value
  | .number (.int value) => .int value
  | .number (.float value) => .float value
  | .string value => .str value
  | .array items => .arr (treeItems items)
  | .object members => .obj (treeMembers members)

def treeItems : List Value → List Tree
  | [] => []
  | item :: items => item.tree :: treeItems items

def treeMembers : List (String × Value) → List (String × Tree)
  | [] => []
  | (key, value) :: members => (key, value.tree) :: treeMembers members

end

/-- `py_to_json`, up to the containers. -/
def pyToJsonScalar (obj : Obj) : Except PyErr Value :=
  if obj.isNone then .ok .null
  else match obj.castBool with
  | some value => .ok (.bool value)
  | none => match obj.extractString with
    | some value => .ok (.string value)
    | none => match obj.castInt with
      | some value => match extractI64 value with
        | some value => .ok (.number (.int value))
        | none => match extractU64 value with
          | some value => .ok (.number (.int value))
          | none => .error (.typeError "integer out of range: must fit in i64 or u64")
      | none => match obj.castFloat with
        | some bits => match Number.fromF64 bits with
          | some value => .ok (.number value)
          | none => .error (.valueError "non-finite floats are not supported")
        | none => .error (.typeError ("value of type " ++ obj.typeName ++ " is not JSON-compatible"))

mutual

/-- `py_to_json`. A container is no scalar, so the order of these checks does not matter. -/
def pyToJson : Obj → Except PyErr Value
  | .list items => do
      let out ← pyToJsonItems items
      return .array out
  | .tuple items => do
      let out ← pyToJsonItems items
      return .array out
  | .dict entries => do
      let out ← pyToJsonEntries entries []
      return .object out
  | obj => pyToJsonScalar obj

def pyToJsonItems : List Obj → Except PyErr (List Value)
  | [] => .ok []
  | item :: items => do
      let value ← pyToJson item
      let out ← pyToJsonItems items
      return value :: out

def pyToJsonEntries : List (Obj × Obj) → List (String × Value) →
    Except PyErr (List (String × Value))
  | [], out => .ok out
  | (key, value) :: entries, out =>
      match key.extractString with
      | none => .error (.typeError "payload dict keys must be strings")
      | some key => do
          let value ← pyToJson value
          pyToJsonEntries entries (insert key value out)

end

/-- `PyJson::serialize`, up to the containers. -/
def serializeScalar (obj : Obj) : Except String Tree :=
  if obj.isNone then .ok .null
  else match obj.castBool with
  | some value => .ok (.bool value)
  | none => match obj.extractString with
    | some value => .ok (.str value)
    | none => match obj.castInt with
      | some value => match extractI64 value with
        | some value => .ok (.int value)
        | none => match extractU64 value with
          | some value => .ok (.int value)
          | none => .error "integer out of i64/u64 range"
      | none => match obj.castFloat with
        | some bits =>
            if h : isFinite bits = true then .ok (.float ⟨bits, h⟩)
            else .error "non-finite floats are not supported"
        | none => .error "value is not JSON-compatible"

mutual

/-- `PyJson::serialize`, with what it makes the serializer write. -/
def serialize : Obj → Except String Tree
  | .list items => do
      let seq ← serializeItems items
      return .arr seq
  | .tuple items => do
      let seq ← serializeItems items
      return .arr seq
  | .dict entries => do
      let map ← serializeEntries entries
      return .obj map
  | obj => serializeScalar obj

def serializeItems : List Obj → Except String (List Tree)
  | [] => .ok []
  | item :: items => do
      let element ← serialize item
      let seq ← serializeItems items
      return element :: seq

def serializeEntries : List (Obj × Obj) → Except String (List (String × Tree))
  | [] => .ok []
  | (key, value) :: entries =>
      match key.extractString with
      | none => .error "payload dict keys must be strings"
      | some key => do
          let value ← serialize value
          let map ← serializeEntries entries
          return (key, value) :: map

end

structure SerdeJson where
  toVec : Tree → Bytes
  /-- What the reader makes of the beginning of the bytes, with so many containers inside each other. -/
  fromSlice : Nat → Bytes → Option Tree
  /-- What it says of bytes it rejects. -/
  describe : Bytes → String

namespace SerdeJson

/-- `remaining_depth` starts at 128, and a container is rejected when it gets to zero. -/
def levels : Nat := 127

/-- A floating point number is read back as it was printed. -/
def Exact (serde : SerdeJson) (value : FiniteFloat) : Prop :=
  serde.fromSlice 0 (serde.toVec (.float value)) = some (.float value)

/-- A document is written as some text, and read back exactly if it is not too deep. -/
structure Lawful (serde : SerdeJson) : Prop where
  nonempty : ∀ tree, serde.toVec tree ≠ []
  fromSlice_toVec : ∀ {tree : Tree}, (∀ value ∈ tree.floatValues, serde.Exact value) → ∀ levels,
    serde.fromSlice levels (serde.toVec tree) = if tree.depth ≤ levels then some tree else none

end SerdeJson

variable (serde : SerdeJson)

def pyToJsonBytes (obj : Obj) : Except PyErr Bytes :=
  match serialize obj with
  | .ok tree => .ok (serde.toVec tree)
  | .error _ => do
      let value ← pyToJson obj
      return serde.toVec value.tree

def pyString (value : String) : Obj := .str (value.toList.map CodePoint.ofChar)

def isKey (points : List CodePoint) : Obj → Bool
  | .str other => other == points
  | _ => false

def setItem (points : List CodePoint) (value : Obj) : List (Obj × Obj) → List (Obj × Obj)
  | [] => [(.str points, value)]
  | (key, old) :: entries =>
      if isKey points key then (key, value) :: entries else (key, old) :: setItem points value entries

mutual

def visit : Tree → Obj
  | .null => .none
  | .bool value => .bool value
  | .int value => .int value
  | .float value => .float value
  | .str value => pyString value
  | .arr items => .list (visitSeq items)
  | .obj members => .dict (visitMap members [])

def visitSeq : List Tree → List Obj
  | [] => []
  | item :: items => visit item :: visitSeq items

def visitMap : List (String × Tree) → List (Obj × Obj) → List (Obj × Obj)
  | [], dict => dict
  | (key, value) :: members, dict =>
      visitMap members (setItem (key.toList.map CodePoint.ofChar) (visit value) dict)

end

def bytesToPy (data : Bytes) : Except PyErr Obj :=
  if data.isEmpty then .ok .none
  else match serde.fromSlice SerdeJson.levels data with
  | some tree => .ok (visit tree)
  | none => .error (.valueError ("payload deserialization failed: " ++ serde.describe data))

end LapinBeam.Convert
