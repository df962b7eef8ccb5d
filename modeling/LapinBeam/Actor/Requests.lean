import LapinBeam.Actor.Runtime
import LapinBeam.Py.Convert
import LapinBeam.Transport.State

/-!
# Links and monitors that may fail

`link` and `monitor` as they are called: from inside an actor or not, and with a request to another
node that may fail anywhere on its way into the core. What is sent is the dict of the request, as
JSON.
-/

namespace LapinBeam

def NodeIdError.text : NodeIdError → String
  | .missingAt => "expected 'name@host:port'"
  | .missingPort => "expected 'host:port' in node id"
  | .emptyName => "node name must not be empty"
  | .emptyHost => "host must not be empty"
  | .invalidPort => "port must be a number"

def SendError.text : SendError → String
  | .closed => "peer connection is closed"
  | .peerNotFound => "peer not connected"
  | .payloadTooLarge size => "payload too large (" ++ toString size ++ " bytes)"

def Convert.PyErr.exc : Convert.PyErr → Actor.Exc
  | .typeError text => ⟨"TypeError", text⟩
  | .valueError text => ⟨"ValueError", text⟩

namespace Actor

open LapinBeam.Convert (Obj pyString)

structure Core where
  serde : Convert.SerdeJson
  running : Bool
  /-- What becomes of a message for a peer: it is queued, or the peer is not connected, or its queue is closed. -/
  enqueue : NodeId → Except SendError Unit

def notStarted : Exc := ⟨"RuntimeError", "node has not been started"⟩

def Core.sendData (core : Core) (peerId : String) (payload : Obj) : Except Exc Unit :=
  match NodeId.parse peerId with
  | .error e => .error ⟨"ValueError", "invalid peer id: " ++ e.text⟩
  | .ok peer =>
      match Convert.pyToJsonBytes core.serde payload with
      | .error e => .error e.exc
      | .ok bytes =>
          if !core.running then .error notStarted
          else
            let sent : Except SendError Unit :=
              if bytes.length > maxFrameSize then .error (.payloadTooLarge bytes.length)
              else core.enqueue peer
            match sent with
            | .error e => .error ⟨"ValueError", "send failed: " ++ e.text⟩
            | .ok () => .ok ()

def request (fields : List (String × String)) : Obj :=
  .dict (fields.map fun (key, value) => (pyString key, pyString value))

namespace Runtime

variable (core : Core) (runtime : Runtime)

/-- `_send_remote`; a dict of texts is its own payload. -/
def sendRemote (peerId : String) (payload : Obj) : Except Exc Unit :=
  if !runtime.started then .error notStarted else core.sendData peerId payload

def linkRequest (me name : String) : Obj :=
  request [("op", "link"), ("from", me), ("to", name), ("from_node", runtime.localId)]

/-- The reference is sent as the text `ref`. -/
def monitorRequest (me name ref : String) : Obj :=
  request [("op", "monitor"), ("ref", ref), ("watcher", me), ("watcher_node", runtime.localId),
    ("target", name)]

/-- `link(other)`, with the name of the actor it is called in. -/
def tryLink (me : Option String) (other : Address) : Except Exc Unit × Runtime :=
  match me with
  | none => (.error ⟨"RuntimeError",
      "link()/unlink()/trap_exit() must be called from inside a running actor"⟩, runtime)
  | some me =>
      match other.node with
      | none => (.ok (), runtime.link me other)
      | some peer =>
          match runtime.sendRemote core peer (runtime.linkRequest me other.name) with
          | .error exc => (.error exc, { runtime with signals := runtime.signals.addLink me other })
          | .ok () => (.ok (), runtime.link me other)

/-- `monitor(other)`, with a new reference and its text. -/
def tryMonitor (me : Option String) (other : Address) (ref : Ref) (refText : String) :
    Except Exc Ref × Runtime :=
  match me with
  | none => (.error ⟨"RuntimeError",
      "monitor()/demonitor() must be called from inside a running actor"⟩, runtime)
  | some me =>
      match other.node with
      | none => (.ok ref, runtime.monitor me other ref)
      | some peer =>
          match runtime.sendRemote core peer (runtime.monitorRequest me other.name refText) with
          | .error exc =>
              (.error exc,
                { runtime with signals := runtime.signals.addMonitor ref ⟨me, other⟩ })
          | .ok () => (.ok ref, runtime.monitor me other ref)

end Runtime

end Actor

end LapinBeam
