import Bindery.NodeProtocol.Codec
import Bindery.Session.RemoteCall

/-!
# The commands and events of the node protocol

Each command with the method it calls, the record of its parameters and that of its result, and
each event with the record of its payload.
-/

namespace Bindery.NodeProtocol

open Bindery.Json
open Bindery.Session

/-- Reads a payload by the decoder of its record. -/
def readBy {ρ : Type} (decode : Decoder ρ) (raw : RawText) : Except Fault ρ :=
  decodeText decode raw.text

/-- A command without parameters and without a result. -/
def plainCommand (method : String) : RemoteCall Unit :=
  ⟨method, none, fun _ => .ok ()⟩

def enableA : RemoteCall Unit := plainCommand "A.enable"

def getNode (params : GetNodeParams) : RemoteCall GetNodeResult :=
  ⟨"A.getNode", some (.ofChars params.chars), readBy getNodeResultForm.decode⟩

def setMode (params : SetModeParams) : RemoteCall Unit :=
  ⟨"A.setMode", some (.ofChars params.chars), fun _ => .ok ()⟩

def countNodes : RemoteCall CountNodesResult :=
  ⟨"A.countNodes", none, readBy countNodesResultForm.decode⟩

def enableB : RemoteCall Unit := plainCommand "B.enable"

def secret : RemoteCall Unit := plainCommand "B.secret"

def startLab : RemoteCall Unit := plainCommand "Lab.start"

def documentUpdated : EventForm DocumentUpdatedEvent :=
  ⟨"A.documentUpdated", readBy documentUpdatedForm.decode⟩

def nodeChanged : EventForm NodeChangedEvent :=
  ⟨"A.nodeChanged", readBy nodeChangedForm.decode⟩

def frameAttached : EventForm FrameAttachedEvent :=
  ⟨"B.frameAttached", readBy frameAttachedForm.decode⟩

end Bindery.NodeProtocol
