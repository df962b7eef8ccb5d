import LapinBeam.Actor.Runtime

/-!
# Typed handlers

`@on` marks the methods of an actor class, `_build_metadata` collects the marks when the class is
decorated, and `_drive` and the `_dispatch_to_instance` of a pool look the handler of a message up in
what it has collected. Message types are compared as dictionary keys; their names are a parameter.
-/

namespace LapinBeam.Dispatch

open Actor (Exc)

variable {MsgType Msg : Type*}

/-- What `on` leaves on a method; `none` stands for `_UNSET`. -/
structure Mark (MsgType : Type*) where
  type : Option MsgType
  default : Bool
  exclusive : default = type.isNone

def on (type : Option MsgType) (default : Bool) : Except Exc (Mark MsgType) :=
  if h : default = type.isNone then .ok ⟨type, default, h⟩
  else if default then
    .error ⟨"TypeError", "on(msg_type) and on(default=True) are mutually exclusive"⟩
  else .error ⟨"TypeError", "on() requires a message type, e.g. on(Task), or on(default=True)"⟩

/-- A class, with `dir(cls)` and the marks found there. -/
structure ActorClass (MsgType : Type*) where
  name : String
  attributes : List (String × Option (Mark MsgType))

structure Metadata (MsgType : Type*) where
  handlers : List (Option MsgType × String) := []
  defaultHandler : Option String := none

structure Messages (MsgType Msg : Type*) where
  type : Msg → MsgType
  typeName : MsgType → String
  typeRepr : Option MsgType → String

variable [DecidableEq MsgType] (messages : Messages MsgType Msg)

def quoted (name : String) : String := "'" ++ name ++ "'"

def collect (className : String) :
    List (String × Option (Mark MsgType)) → Metadata MsgType → Except Exc (Metadata MsgType)
  | [], metadata => .ok metadata
  | (_, none) :: rest, metadata => collect className rest metadata
  | (name, some mark) :: rest, metadata =>
      if mark.default then
        match metadata.defaultHandler with
        | some existing =>
            .error ⟨"TypeError", className ++ " defines more than one @on(default=True) handler (" ++
              quoted existing ++ " and " ++ quoted name ++ ")"⟩
        | none => collect className rest { metadata with defaultHandler := some name }
      else
        match metadata.handlers.lookup mark.type with
        | some existing =>
            .error ⟨"TypeError", className ++ " defines more than one @on handler for " ++
              messages.typeRepr mark.type ++ " (" ++ quoted existing ++ " and " ++ quoted name ++
              ")"⟩
        | none =>
            collect className rest
              { metadata with handlers := metadata.handlers ++ [(mark.type, name)] }

def buildMetadata (cls : ActorClass MsgType) : Except Exc (Metadata MsgType) :=
  collect messages cls.name cls.attributes {}

inductive Call
  | receive
  | handler (name : String)
deriving DecidableEq

def noHandler (className : String) (msg : Msg) : Exc :=
  ⟨"TypeError", className ++ " has no @on handler for " ++ messages.typeName (messages.type msg) ++
    " messages and no @on(default=True) fallback"⟩

def dispatch (className : String) (metadata : Metadata MsgType) (msg : Msg) : Except Exc Call :=
  if metadata.handlers.isEmpty then .ok .receive
  else
    match metadata.handlers.lookup (some (messages.type msg)) <|> metadata.defaultHandler with
    | none => .error (noHandler messages className msg)
    | some name => .ok (.handler name)

def dispatchToInstance (className : String) (metadata : Metadata MsgType) (msg : Msg) :
    Except Exc Call :=
  dispatch messages className metadata msg

/-- What a loop over messages has called, in order, and the exception that ended it. -/
structure Driven where
  calls : List Call
  raised : Option Exc
deriving DecidableEq

/-- A loop that awaits one method for each message; `choose` picks it, and `run` is what it raises. -/
def loop (choose : Msg → Except Exc Call) (run : Call → Msg → Option Exc) : List Msg → Driven
  | [] => ⟨[], none⟩
  | msg :: msgs =>
      match choose msg with
      | .error exc => ⟨[], some exc⟩
      | .ok call =>
          match run call msg with
          | some exc => ⟨[call], some exc⟩
          | none =>
              let later := loop choose run msgs
              ⟨call :: later.calls, later.raised⟩

/-- `_drive`, over the messages it takes out of the mailbox. -/
def drive (className : String) (metadata : Metadata MsgType) (run : Call → Msg → Option Exc) :
    List Msg → Driven :=
  loop (dispatch messages className metadata) run

/-! ### What the declarations say -/

namespace ActorClass

variable (cls : ActorClass MsgType)

def marks : List (String × Mark MsgType) :=
  cls.attributes.filterMap fun (name, mark) => mark.map fun mark => (name, mark)

def typed (type : MsgType) : Option String :=
  (cls.marks.find? fun (_, mark) => mark.type = some type).map Prod.fst

def fallback : Option String :=
  (cls.marks.find? fun (_, mark) => mark.default).map Prod.fst

def hasTyped : Bool := cls.marks.any fun (_, mark) => !mark.default

def declared (msg : Msg) : Except Exc Call :=
  if cls.marks.isEmpty then .ok .receive
  else
    match cls.typed (messages.type msg) with
    | some name => .ok (.handler name)
    | none =>
        match cls.fallback with
        | some name => .ok (.handler name)
        | none => .error (noHandler messages cls.name msg)

end ActorClass

end LapinBeam.Dispatch
