import LapinBeam.Codec.Value

/-!
# Typed payloads

`_encode_obj` and `_decode_obj` return the object they were given where nothing in it has changed.
Here `none` stands for that object, and `some` for a new one.
-/

namespace LapinBeam.Codec

def reserved : String := "__lb_type__"

def envelope (tag : String) (data : Value) : Value :=
  .dict [(.str reserved, .str tag), (.str "data", data)]

namespace Interpreter

variable (interpreter : Interpreter)

/-- A registered codec comes first, and what it returns is taken as it is. -/
def encodeCustom (value : Value) (otherwise : Except Exc (Option Value)) :
    Except Exc (Option Value) :=
  match interpreter.registry (interpreter.tag value) with
  | some entry => do
      let data ← entry.encode value
      return some (envelope (interpreter.tag value) data)
  | none => otherwise

/-- An entry of the data of a dataclass instance whose attributes have been encoded. -/
def encodedField (attributes : List (String × Except Exc Value)) (name : String) :
    Except Exc (Value × Value) :=
  match attributes.lookup name with
  | some encoded => encoded.map fun value => (.str name, value)
  | none => .error .attributeError

/-- What is left of `_encode_obj` for an instance whose attributes have been encoded. -/
def encodeInstance (value : Value) (cls : ClassId) (attributes : List (String × Except Exc Value)) :
    Except Exc (Option Value) :=
  match (interpreter.classes cls).dataclass with
  | some dataclass => do
      let data ← dataclass.fields.mapM fun field => encodedField attributes field.name
      return some (envelope (interpreter.tag value) (.dict data))
  | none =>
      match interpreter.pydantic (.cls cls) with
      | some model => do
          let data ← model.dump value
          return some (envelope (interpreter.tag value) data)
      | none => .ok none

mutual

def encodeObj : Value → Except Exc (Option Value)
  | .none | .bool _ | .int _ | .float _ | .str _ => .ok none
  | .list items => interpreter.encodeCustom (.list items) do
      let (changed, out) ← encodeItems items
      return if changed then some (.list out) else none
  | .tuple items => interpreter.encodeCustom (.tuple items) do
      let (changed, out) ← encodeItems items
      return if changed then some (.list out) else none
  | .dict entries => interpreter.encodeCustom (.dict entries) do
      let (changed, out) ← encodeEntries entries
      return if changed then some (.dict out) else none
  | .object cls attributes => interpreter.encodeCustom (.object cls attributes)
      (interpreter.encodeInstance (.object cls attributes) cls (encodeAttributes attributes))

/-- The loop over a list or tuple: whether something changed, and `out_list`. -/
def encodeItems : List Value → Except Exc (Bool × List Value)
  | [] => .ok (false, [])
  | item :: items => do
      let encoded ← encodeObj item
      let (changed, out) ← encodeItems items
      return (encoded.isSome || changed, encoded.getD item :: out)

def encodeEntries : List (Value × Value) → Except Exc (Bool × List (Value × Value))
  | [] => .ok (false, [])
  | (key, value) :: entries => do
      let encoded ← encodeObj value
      let (changed, out) ← encodeEntries entries
      return (encoded.isSome || changed, (key, encoded.getD value) :: out)

def encodeAttributes : List (String × Value) → List (String × Except Exc Value)
  | [] => []
  | (name, value) :: attributes =>
      (name, (encodeObj value).map fun encoded => encoded.getD value) :: encodeAttributes attributes

end

def noCodec (tag : Value) : Exc :=
  .valueError ("no codec registered for " ++ interpreter.repr tag)

/-- What `_rebuild` makes of the object it has imported. -/
def instantiate (tag data : Value) (kwargs : Except Exc (List (Value × Value))) :
    Imported → Except Exc Value
  | .cls cls =>
      match (interpreter.classes cls).dataclass with
      | some dataclass => do
          let attributes ← dataclass.construct (← kwargs)
          return .object cls attributes
      | none => validate tag data (interpreter.pydantic (.cls cls))
  | .other id => validate tag data (interpreter.pydantic (.other id))
where
  validate (tag data : Value) : Option Pydantic → Except Exc Value
    | some model => model.validate data
    | none => .error (interpreter.noCodec tag)

/-- `_rebuild`; `kwargs` are the entries of `data`, decoded. -/
def rebuild (tag data : Value) (kwargs : Except Exc (List (Value × Value))) : Except Exc Value :=
  match tag with
  | .str name =>
      match interpreter.registry name with
      | some entry => entry.decode data
      | none =>
          match interpreter.importClass name with
          | .ok imported => interpreter.instantiate tag data kwargs imported
          | .error .importError | .error .attributeError => .error (interpreter.noCodec tag)
          | .error exc => .error exc
  -- These are not hashable.
  | .list _ | .dict _ => .error .typeError
  | _ => .error (interpreter.noCodec tag)

mutual

def decodeObj : Value → Except Exc (Option Value)
  | .dict entries =>
      let tag := Value.get reserved entries
      if tag.isNone then do
        let (changed, out) ← decodeEntries entries
        return if changed then some (.dict out) else none
      else do
        let (data, kwargs) ← decodeData entries
        let value ← interpreter.rebuild tag data kwargs
        return some value
  | .list items => do
      let (changed, out) ← decodeItems items
      return if changed then some (.list out) else none
  | _ => .ok none

def decodeItems : List Value → Except Exc (Bool × List Value)
  | [] => .ok (false, [])
  | item :: items => do
      let decoded ← decodeObj item
      let (changed, out) ← decodeItems items
      return (decoded.isSome || changed, decoded.getD item :: out)

def decodeEntries : List (Value × Value) → Except Exc (Bool × List (Value × Value))
  | [] => .ok (false, [])
  | (key, value) :: entries => do
      let decoded ← decodeObj value
      let (changed, out) ← decodeEntries entries
      return (decoded.isSome || changed, (key, decoded.getD value) :: out)

/-- `obj["data"]`, with what decoding the values in it yields. -/
def decodeData : List (Value × Value) → Except Exc (Value × Except Exc (List (Value × Value)))
  | [] => .error .keyError
  | (key, data) :: entries =>
      if key.isStr "data" then .ok (data, decodeKwargs data) else decodeData entries

/-- The keyword arguments for the constructor of a dataclass. -/
def decodeKwargs : Value → Except Exc (List (Value × Value))
  | .dict entries => (decodeEntries entries).map Prod.snd
  | _ => .error .attributeError

end

def encodePayload (value : Value) : Except Exc Value :=
  (interpreter.encodeObj value).map fun encoded => encoded.getD value

def decodePayload (value : Value) : Except Exc Value :=
  (interpreter.decodeObj value).map fun decoded => decoded.getD value

end Interpreter

mutual

/-- What arrives of a payload: tuples become lists, and only JSON values arrive. -/
def Value.jsonImage : Value → Option Value
  | .list items => (jsonItems items).map .list
  | .tuple items => (jsonItems items).map .list
  | .dict entries => (jsonEntries entries).map .dict
  | .object _ _ => Option.none
  | value => some value

def Value.jsonItems : List Value → Option (List Value)
  | [] => some []
  | item :: items => do return (← item.jsonImage) :: (← jsonItems items)

def Value.jsonEntries : List (Value × Value) → Option (List (Value × Value))
  | [] => some []
  | (.str key, value) :: entries => do
      return (.str key, ← value.jsonImage) :: (← jsonEntries entries)
  | _ :: _ => Option.none

end

end LapinBeam.Codec
