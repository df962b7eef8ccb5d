/-!
# Python values and classes

What `codec.py` sees of the interpreter. A value is a tree of the built-in types and of instances of
classes; identity is left to the functions that compare it. Modules, classes and what third parties
define (codecs, Pydantic models, `__post_init__`) are parameters.
-/

namespace LapinBeam.Codec

abbrev ClassId := Nat

inductive Value
  | none
  | bool (value : Bool)
  | int (value : Int)
  | float (bits : UInt64)
  | str (value : String)
  | list (items : List Value)
  | tuple (items : List Value)
  | dict (entries : List (Value × Value))
  | object (cls : ClassId) (attributes : List (String × Value))

inductive Exc
  | importError
  | attributeError
  | keyError
  | typeError
  | valueError (text : String)
  | other (typeName : String)

namespace Value

def isNone : Value → Bool
  | .none => true
  | _ => false

def isStr (key : String) : Value → Bool
  | .str value => value == key
  | _ => false

def get (key : String) (entries : List (Value × Value)) : Value :=
  ((entries.find? fun entry => entry.1.isStr key).map Prod.snd).getD .none

end Value

structure Field where
  name : String
  init : Bool := true
  default : Option Value := none

/-- An `InitVar`: a parameter of the constructor that is not a field. -/
structure InitVar where
  name : String
  default : Option Value := none

structure Dataclass where
  fields : List Field
  initVars : List InitVar := []
  /-- `__post_init__`, from the fields and the `InitVar`s to the fields it leaves. -/
  postInit : List (String × Value) → List (String × Value) → Except Exc (List (String × Value)) :=
    fun fields _ => .ok fields
  nodup : (fields.map Field.name ++ initVars.map InitVar.name).Nodup

def argument (kwargs : List (Value × Value)) (name : String) (default : Option Value) :
    Except Exc Value :=
  match (kwargs.find? fun entry => entry.1.isStr name).map Prod.snd <|> default with
  | some value => .ok value
  | none => .error .typeError

namespace Dataclass

variable (dataclass : Dataclass)

def takes (key : Value) : Bool :=
  (dataclass.fields.any fun field => field.init && key.isStr field.name) ||
    dataclass.initVars.any fun initVar => key.isStr initVar.name

/-- What `__init__` does for one field. One without a default that is no parameter stays unset. -/
def assign (kwargs : List (Value × Value)) (field : Field) :
    Except Exc (Option (String × Value)) :=
  if field.init then (argument kwargs field.name field.default).map fun value =>
    some (field.name, value)
  else .ok (field.default.map fun value => (field.name, value))

/-- The generated `__init__`, called with keyword arguments. -/
def construct (kwargs : List (Value × Value)) : Except Exc (List (String × Value)) :=
  if kwargs.all fun entry => dataclass.takes entry.1 then do
    let fields ← dataclass.fields.mapM (assign kwargs)
    let initVars ← dataclass.initVars.mapM fun initVar =>
      (argument kwargs initVar.name initVar.default).map fun value => (initVar.name, value)
    dataclass.postInit (fields.filterMap id) initVars
  else .error .typeError

end Dataclass

structure ClassInfo where
  moduleName : String
  qualname : String
  dataclass : Option Dataclass := none

inductive Imported
  | cls (id : ClassId)
  | other (id : Nat)

structure CodecEntry where
  encode : Value → Except Exc Value
  decode : Value → Except Exc Value

structure Pydantic where
  dump : Value → Except Exc Value
  validate : Value → Except Exc Value

structure Interpreter where
  classes : ClassId → ClassInfo
  registry : String → Option CodecEntry
  importModule : String → Except Exc Imported
  getattr : Imported → String → Except Exc Imported
  pydantic : Imported → Option Pydantic
  repr : Value → String

def ClassInfo.tag (info : ClassInfo) : String := info.moduleName ++ "." ++ info.qualname

def Interpreter.tag (interpreter : Interpreter) : Value → String
  | .none => "builtins.NoneType"
  | .bool _ => "builtins.bool"
  | .int _ => "builtins.int"
  | .float _ => "builtins.float"
  | .str _ => "builtins.str"
  | .list _ => "builtins.list"
  | .tuple _ => "builtins.tuple"
  | .dict _ => "builtins.dict"
  | .object cls _ => (interpreter.classes cls).tag

/-- `str.rpartition(".")`, without the separator. -/
def rpartition (text : String) : String × String :=
  let last := text.toList.reverse.takeWhile (· != '.')
  let front := text.toList.reverse.dropWhile (· != '.')
  (String.ofList front.tail.reverse, String.ofList last.reverse)

def Interpreter.importClass (interpreter : Interpreter) (tag : String) : Except Exc Imported := do
  let (moduleName, qualname) := rpartition tag
  let imported ← interpreter.importModule moduleName
  (qualname.toList.splitOn '.').foldlM (fun object part =>
    interpreter.getattr object (String.ofList part)) imported

end LapinBeam.Codec
