import LapinBeam.Actor.Pool

/-!
# Asking

`ask` and `ask_stream` register a hidden mailbox under a name made from a number of their own, send
their message with that name as its reply address, and read the mailbox until they have what they
wait for. The handler of the message, of an actor or of a pool, answers with the metadata it was
given along with the message: through `_send_local` when the message came from its own node, over
the wire otherwise. There a reply goes through the channel of the mailbox's registration, its
`drain_loop` and a callback on the event loop.

Callers, handlers, connections, drain loops and event loops take their steps in any order.
Connections neither lose nor reorder frames. A payload that `bytes_to_py` cannot read is dropped by
the `drain_loop`, one that `decode_payload` cannot decode by the callback; the others arrive as they
were sent. A handler may answer as often and as late as it likes.
-/

namespace LapinBeam.Ask

open Bridge (MessageMeta)
open Actor (Exc)

/-- The coroutine of `_ask` or the generator of `_ask_stream`. -/
abbrev CallId := Nat

abbrev PoolId := Nat

/-- What `reply`, `reply_stream` and `reply_final` send. The key that marks the envelope of the last two is reserved, so a plain reply does not have it. -/
inductive Reply (Value : Type)
  | plain (value : Value)
  | item (value : Value)
  | final (value : Value)
deriving DecidableEq

def Reply.method {Value : Type} : Reply Value → String
  | .plain _ => "reply"
  | .item _ => "reply_stream"
  | .final _ => "reply_final"

/-- The name of the mailbox, from `next(_ask_ids)`. -/
def askName (number : Nat) : String := "__lapinbeam_ask_" ++ toString number ++ "__"

inductive Stage
  | created
  /-- The mailbox is registered, the message not yet sent. -/
  | sending
  | waiting
  /-- The generator has yielded a reply, and whether it was the final one. -/
  | yielded (last : Bool)
  | ended (raised : Option Exc)
deriving DecidableEq

structure Call (Msg Value : Type) where
  node : String
  stream : Bool
  msg : Msg
  stage : Stage := .created
  number : Option Nat := none
  home : Option String := none
  channel : List (Reply Value) := []
  scheduled : List (Reply Value) := []
  queue : List (Reply Value) := []
  got : List (Reply Value) := []
  /-- Bookkeeping: the replies the handler of the message has sent. -/
  made : List (Reply Value) := []

namespace Call

variable {Msg Value : Type} (call : Call Msg Value)

def name : Option String := call.number.map askName

/-- Between the registration of the mailbox and the `finally`. -/
def live : Bool :=
  match call.stage with
  | .sending | .waiting | .yielded _ => true
  | .created | .ended _ => false

def ended : Bool :=
  match call.stage with
  | .ended _ => true
  | _ => false

def maxsize : Nat := if call.stream then 0 else 1

/-- `put_nowait`, where `QueueFull` drops the reply. -/
def put (reply : Reply Value) : Call Msg Value :=
  if 0 < call.maxsize ∧ call.maxsize ≤ call.queue.length then call
  else { call with queue := call.queue ++ [reply] }

def info (msgId : Option UInt64) : MessageMeta :=
  ⟨call.node, call.name, call.number.map UInt64.ofNat, msgId⟩

end Call

inductive Owner
  | actor
  | call (id : CallId)
deriving DecidableEq

/-- A reply on its way to another node. Whose message it answers is bookkeeping. -/
structure Frame (Value : Type) where
  dstActor : String
  reply : Reply Value
  call : Option CallId

inductive Raised
  /-- `current_message()` is `None`. -/
  | noMessage (method : String)
  | noReplyTo
  | noLocalActor (name : String)
  | sendFailed (exc : Exc)
deriving DecidableEq

def Raised.exc : Raised → Exc
  | .noMessage method =>
      ⟨"AttributeError", "'NoneType' object has no attribute '" ++ method ++ "'"⟩
  | .noReplyTo => ⟨"RuntimeError", "message has no reply_to; nothing to reply to"⟩
  | .noLocalActor name => ⟨"ValueError", "no local actor named '" ++ name ++ "'"⟩
  | .sendFailed exc => exc

def nameTaken (name : String) : Exc :=
  ⟨"ValueError", "actor name '" ++ name ++ "' is already registered on this node"⟩

def notStreamed : Exc :=
  ⟨"RuntimeError", "ask_stream() received a reply not sent via reply_stream()/reply_final() — did the handler use current_message().reply() instead?"⟩

structure Traffic (Msg Value : Type) where
  calls : List (Call Msg Value) := []
  nextAsk : Nat := 1
  /-- The names registered on each node, in Python and in the routing table. -/
  names : String → String → Option Owner := fun _ _ => none
  wire : String → String → List (Frame Value) := fun _ _ => []
  raised : List Raised := []

namespace Traffic

variable {Msg Value : Type} (traffic : Traffic Msg Value)

def modify (id : CallId) (change : Call Msg Value → Call Msg Value) : Traffic Msg Value :=
  { traffic with calls := traffic.calls.modify id change }

def setName (node name : String) (owner : Option Owner) : Traffic Msg Value :=
  { traffic with
    names := Function.update traffic.names node (Function.update (traffic.names node) name owner) }

def setWire (source target : String) (frames : List (Frame Value)) : Traffic Msg Value :=
  { traffic with
    wire := Function.update traffic.wire source
      (Function.update (traffic.wire source) target frames) }

def create (node : String) (stream : Bool) (msgs : List Msg) : Traffic Msg Value :=
  { traffic with calls := traffic.calls ++ msgs.map fun msg => { node, stream, msg } }

def finish (id : CallId) (call : Call Msg Value) (raised : Option Exc) : Traffic Msg Value :=
  (call.name.elim traffic fun name => traffic.setName call.node name none).modify id fun _ =>
    { call with stage := .ended raised }

def register (id : CallId) : Option (Traffic Msg Value) :=
  match traffic.calls[id]? with
  | some call =>
      if call.stage = .created then
        let number := traffic.nextAsk
        let traffic := { traffic with nextAsk := number + 1 }
        if (traffic.names call.node (askName number)).isSome then
          some (traffic.modify id
            ({ · with stage := .ended (some (nameTaken (askName number))) }))
        else
          some ((traffic.setName call.node (askName number) (some (.call id))).modify id
            ({ · with stage := .sending, number := some number }))
      else none
  | none => none

/-- `ref.send` to an actor of the node `home`. -/
def send (id : CallId) (home : Option String) (raised : Option Exc) :
    Option (Traffic Msg Value) :=
  match traffic.calls[id]? with
  | some call =>
      if call.stage = .sending then
        match raised with
        | none => some (traffic.modify id ({ · with stage := .waiting, home }))
        | some exc => some (traffic.finish id { call with home } (some exc))
      else none
  | none => none

/-- `mailbox.get()` and what follows it: `return`, `yield` or `raise`. -/
def receive (id : CallId) : Option (Traffic Msg Value) :=
  match traffic.calls[id]? with
  | some call =>
      match call.stage, call.queue with
      | .waiting, reply :: queue =>
          if call.stream then
            match reply with
            | .plain _ => some (traffic.finish id { call with queue } (some notStreamed))
            | .item _ =>
                some (traffic.modify id
                  ({ · with queue, got := call.got ++ [reply], stage := .yielded false }))
            | .final _ =>
                some (traffic.modify id
                  ({ · with queue, got := call.got ++ [reply], stage := .yielded true }))
          else some (traffic.finish id { call with queue, got := call.got ++ [reply] } none)
      | _, _ => none
  | none => none

def resume (id : CallId) : Option (Traffic Msg Value) :=
  match traffic.calls[id]? with
  | some call =>
      match call.stage with
      | .yielded true => some (traffic.finish id call none)
      | .yielded false => some (traffic.modify id ({ · with stage := .waiting }))
      | _ => none
  | none => none

/-- A timeout, a cancellation, or `aclose`. -/
def abort (id : CallId) (exc : Exc) : Option (Traffic Msg Value) :=
  match traffic.calls[id]? with
  | some call =>
      match call.stage with
      | .created => some (traffic.modify id ({ · with stage := .ended (some exc) }))
      | .waiting | .yielded _ => some (traffic.finish id call (some exc))
      | _ => none
  | none => none

section Replies

def credit (call : Option CallId) (reply : Reply Value) : Traffic Msg Value :=
  call.elim traffic fun id => traffic.modify id fun call => { call with made := call.made ++ [reply] }

def raise (exc : Raised) : Traffic Msg Value := { traffic with raised := traffic.raised ++ [exc] }

def sendLocal (node name : String) (call : Option CallId) (reply : Reply Value) :
    Traffic Msg Value :=
  match traffic.names node name with
  | none => traffic.raise (.noLocalActor name)
  | some .actor => traffic.credit call reply
  | some (.call id) => (traffic.credit call reply).modify id (·.put reply)

def sendRemote (source target name : String) (call : Option CallId) (reply : Reply Value)
    (failure : Option Exc) : Traffic Msg Value :=
  match failure with
  | some exc => traffic.raise (.sendFailed exc)
  | none =>
      (traffic.credit call reply).setWire source target
        (traffic.wire source target ++ [⟨name, reply, call⟩])

/-- A handler on the node `home` replies with the metadata it has, to the message of `call`. -/
def answer (home : String) (call : Option CallId) (info : Option MessageMeta)
    (reply : Reply Value) (failure : Option Exc) : Traffic Msg Value :=
  match info with
  | none => traffic.raise (.noMessage reply.method)
  | some info =>
      match info.replyTo with
      | none => traffic.raise .noReplyTo
      | some name =>
          if info.src = home then traffic.sendLocal home name call reply
          else traffic.sendRemote home info.src name call reply failure

/-- `route` for the next frame of a connection. -/
def deliver (source target : String) : Option (Traffic Msg Value) :=
  match traffic.wire source target with
  | [] => none
  | frame :: frames =>
      let popped := traffic.setWire source target frames
      match traffic.names target frame.dstActor with
      | some (.call id) =>
          some (popped.modify id fun call =>
            if call.channel.length < Bridge.channelCapacity then
              { call with channel := call.channel ++ [frame.reply] }
            else call)
      | _ => some popped

def drain (id : CallId) (readable : Bool) : Option (Traffic Msg Value) :=
  match traffic.calls[id]? with
  | some call =>
      match call.channel with
      | [] => none
      | reply :: channel =>
          some (traffic.modify id fun call =>
            if readable then { call with channel, scheduled := call.scheduled ++ [reply] }
            else { call with channel })
  | none => none

def callback (id : CallId) (decodes : Bool) : Option (Traffic Msg Value) :=
  match traffic.calls[id]? with
  | some call =>
      match call.scheduled with
      | [] => none
      | reply :: scheduled =>
          some (traffic.modify id fun call =>
            if decodes then { call with scheduled }.put reply else { call with scheduled })
  | none => none

end Replies

end Traffic

structure Tagged (Msg : Type) where
  msg : Msg
  call : Option CallId

structure Pools (Msg Key : Type) where
  settings : PoolId → Pool.Settings (Tagged Msg) Key
  home : PoolId → String

inductive Target
  | actor (home : String)
  | pool (id : PoolId)

structure Request (Msg : Type) where
  message : Tagged Msg
  home : String
  info : MessageMeta

/-- One call of `PoolRef.map`. -/
structure Gather (Msg : Type) where
  items : List Msg
  calls : List CallId
  returnExceptions : Bool

structure System {Msg Key : Type} (pools : Pools Msg Key) (Value : Type) where
  traffic : Traffic Msg Value := {}
  requests : List (Request Msg) := []
  inboxes : PoolId → List (Tagged Msg × MessageMeta) := fun _ => []
  pools (id : PoolId) : Pool (pools.settings id) := {}
  maps : List (Gather Msg) := []

variable {Msg Key Value : Type} {pools : Pools Msg Key}

def Target.home (pools : Pools Msg Key) : Target → String
  | .actor home => home
  | .pool id => pools.home id

def Call.result (call : Call Msg Value) : Option (Except Exc (Reply Value)) :=
  match call.stage, call.got with
  | .ended none, reply :: _ => some (.ok reply)
  | .ended (some exc), _ => some (.error exc)
  | _, _ => none

namespace System

variable (system : System pools Value)

def results (gather : Gather Msg) : Option (List (Except Exc (Reply Value))) :=
  match gather.calls.mapM fun id => (system.traffic.calls[id]?).bind Call.result with
  | none => none
  | some results =>
      if gather.returnExceptions ∨ results.all Except.isOk then some results else none

/-- A message comes in for an actor, or for the dispatcher of a pool. -/
def accept (message : Tagged Msg) (info : MessageMeta) : Target → System pools Value
  | .actor home => { system with requests := system.requests ++ [⟨message, home, info⟩] }
  | .pool id =>
      { system with
        inboxes := Function.update system.inboxes id (system.inboxes id ++ [(message, info)]) }

/-- The message a worker is about to reply to, and the metadata it does so with: `current_message()` inside a handler on the event loop, and the metadata of its message after an executor has returned. -/
def replier (id : PoolId) (index : Fin (pools.settings id).nWorkers) :
    Option (Tagged Msg × Option MessageMeta) :=
  match (pools.settings id).handler, ((system.pools id).workers index).stage with
  | .executor, .handling _ => none
  | _, .handling job => some (job.item.msg, ((system.pools id).workers index).current)
  | _, .replying job => some (job.item.msg, job.item.info)
  | _, _ => none

end System

inductive Action {Msg Key : Type} (pools : Pools Msg Key) (Value : Type)
  | ask (node : String) (stream : Bool) (msg : Msg)
  | map (node : String) (items : List Msg) (returnExceptions : Bool)
  | register (id : CallId)
  /-- Where the message gets to, if anywhere, and what `send` raises. -/
  | send (id : CallId) (target : Option Target) (msgId : Option UInt64) (raised : Option Exc)
  | receive (id : CallId)
  | resume (id : CallId)
  | abort (id : CallId) (exc : Exc)
  /-- Some other message, without a reply address. -/
  | tell (msg : Msg) (target : Target) (src : String) (correlationId msgId : Option UInt64)
  /-- The handler of an actor replies, and what `send_data` raises. -/
  | reply (request : Nat) (reply : Reply Value) (failure : Option Exc)
  | dispatch (id : PoolId) (keying : Pool.Keying Key)
  | work (id : PoolId) (index : Fin (pools.settings id).nWorkers) (input : Pool.Input)
  | workerReply (id : PoolId) (index : Fin (pools.settings id).nWorkers) (reply : Reply Value)
      (failure : Option Exc)
  | deliver (source target : String)
  /-- Whether `bytes_to_py` can read the payload, and whether `decode_payload` can decode it. -/
  | drain (id : CallId) (readable : Bool)
  | callback (id : CallId) (decodes : Bool)
  /-- An actor is registered under a name that is free, or gives its name up. -/
  | registerActor (node name : String)
  | unregisterActor (node name : String)

namespace System

variable (system : System pools Value)

def withTraffic (traffic : Traffic Msg Value) : System pools Value := { system with traffic }

def setPool (id : PoolId) (pool : Pool (pools.settings id)) : System pools Value :=
  { system with pools := Function.update system.pools id pool }

def send (id : CallId) (target : Option Target) (msgId : Option UInt64) (raised : Option Exc) :
    Option (System pools Value) :=
  match system.traffic.calls[id]?, system.traffic.send id (target.map (·.home pools)) raised with
  | some call, some traffic =>
      let system := system.withTraffic traffic
      some (target.elim system (system.accept ⟨call.msg, some id⟩ (call.info msgId)))
  | _, _ => none

def step : Action pools Value → Option (System pools Value)
  | .ask node stream msg => some (system.withTraffic (system.traffic.create node stream [msg]))
  | .map node items returnExceptions =>
      some { system with
        traffic := system.traffic.create node false items
        maps := system.maps ++
          [⟨items, List.range' system.traffic.calls.length items.length, returnExceptions⟩] }
  | .register id => (system.traffic.register id).map system.withTraffic
  | .send id target msgId raised => system.send id target msgId raised
  | .receive id => (system.traffic.receive id).map system.withTraffic
  | .resume id => (system.traffic.resume id).map system.withTraffic
  | .abort id exc => (system.traffic.abort id exc).map system.withTraffic
  | .tell msg target src correlationId msgId =>
      some (system.accept ⟨msg, none⟩ ⟨src, none, correlationId, msgId⟩ target)
  | .reply index reply failure =>
      (system.requests[index]?).map fun request =>
        system.withTraffic (system.traffic.answer request.home request.message.call
          (some request.info) reply failure)
  | .dispatch id keying =>
      match system.inboxes id with
      | [] => none
      | (message, info) :: inbox =>
          ((system.pools id).step (.receive message (some info) keying)).map
            ({ system with inboxes := Function.update system.inboxes id inbox }.setPool id)
  | .work id index input => ((system.pools id).step (.work index input)).map (system.setPool id)
  | .workerReply id index reply failure =>
      (system.replier id index).map fun (message, info) =>
        system.withTraffic (system.traffic.answer (pools.home id) message.call info reply failure)
  | .deliver source target => (system.traffic.deliver source target).map system.withTraffic
  | .drain id readable => (system.traffic.drain id readable).map system.withTraffic
  | .callback id decodes => (system.traffic.callback id decodes).map system.withTraffic
  | .registerActor node name =>
      if (system.traffic.names node name).isNone then
        some (system.withTraffic (system.traffic.setName node name (some .actor)))
      else none
  | .unregisterActor node name =>
      if system.traffic.names node name = some .actor then
        some (system.withTraffic (system.traffic.setName node name none))
      else none

end System

end LapinBeam.Ask
