import Bindery.NodeProtocol.Record

/-!
# Reading and writing the records of the node protocol

The forms of the records: the wire name of each member and whether it may be left out. A record
that holds records of its own kind is read as deep as its document goes. In the text of a record
the members stand in declaration order, those that are absent left out.
-/

namespace Bindery.NodeProtocol

open Bindery.Json

/-! ## Reading -/

def decodeInt64 : Decoder Int64 := fun scope doc => Int64.ofInt <$> decodeInt scope doc

def decodeMode : Decoder Mode := fun scope doc => Mode.mk <$> decodeString scope doc

/-- The form of a node, given a decoder for its children. -/
def nodeForm (child : Decoder ANode) : RecordForm ANode where
  name := "ANode"
  fields := [
    .of "nodeId" .required decodeInt64 fun r x => { r with nodeId := x },
    .of "nodeName" .required decodeString fun r x => { r with nodeName := x },
    .of "children" .optional (decodeOption (decodeList child)) fun r x => { r with children := x },
    .of "attributes" .optional (decodeOption StringMap.decode)
      fun r x => { r with attributes := x },
    .of "value" .optional (decodeOption decodeRaw) fun r x => { r with value := x }]
  initial := {}

/-- The form of nodes nested at most `depth` deep. -/
def nodeFormAt : Nat → RecordForm ANode
  | 0 => nodeForm fun _ _ => .error .malformed
  | depth + 1 => nodeForm (nodeFormAt depth).decode

def decodeNode : Decoder ANode := fun scope doc => (nodeFormAt doc.height).decode scope doc

def bNodeForm : RecordForm BNode where
  name := "BNode"
  fields := [.of "frameId" .required decodeString fun r x => { r with frameId := x }]
  initial := {}

def holderForm : RecordForm Holder where
  name := "Holder"
  fields := [
    .of "local" .required decodeNode fun r x => { r with localNode := x },
    .of "remote" .required bNodeForm.decode fun r x => { r with remoteNode := x },
    .of "mode" .required decodeMode fun r x => { r with mode := x },
    .of "type" .required decodeString fun r x => { r with kind := x }]
  initial := {}

/-- The form of a frame, given a decoder for its parent. -/
def frameForm (parent : Decoder FrameInfo) : RecordForm FrameInfo where
  name := "Frame"
  fields := [
    .of "id" .required decodeString fun r x => { r with id := x },
    .of "parent" .optional (decodeOption parent) fun r x => { r with parent := x },
    .of "owner" .optional (decodeOption decodeInt64) fun r x => { r with owner := x }]
  initial := {}

/-- The form of frames nested at most `depth` deep. -/
def frameFormAt : Nat → RecordForm FrameInfo
  | 0 => frameForm fun _ _ => .error .malformed
  | depth + 1 => frameForm (frameFormAt depth).decode

def decodeFrame : Decoder FrameInfo := fun scope doc => (frameFormAt doc.height).decode scope doc

def headersForm : RecordForm Headers where
  name := "Headers"
  fields := []
  initial := {}

def getNodeParamsForm : RecordForm GetNodeParams where
  name := "GetNodeParams"
  fields := [
    .of "nodeId" .required decodeInt64 fun r x => { r with nodeId := x },
    .of "depth" .optional (decodeOption decodeInt64) fun r x => { r with depth := x }]
  initial := {}

def getNodeResultForm : RecordForm GetNodeResult where
  name := "GetNodeResult"
  fields := [.of "node" .required decodeNode fun r x => { r with node := x }]
  initial := {}

def setModeParamsForm : RecordForm SetModeParams where
  name := "SetModeParams"
  fields := [.of "mode" .required decodeMode fun r x => { r with mode := x }]
  initial := {}

def countNodesResultForm : RecordForm CountNodesResult where
  name := "CountNodesResult"
  fields := [.of "count" .required decodeInt64 fun r x => { r with count := x }]
  initial := {}

def documentUpdatedForm : RecordForm DocumentUpdatedEvent where
  name := "DocumentUpdatedEvent"
  fields := []
  initial := {}

def nodeChangedForm : RecordForm NodeChangedEvent where
  name := "NodeChangedEvent"
  fields := [.of "node" .required decodeNode fun r x => { r with node := x }]
  initial := {}

def frameAttachedForm : RecordForm FrameAttachedEvent where
  name := "FrameAttachedEvent"
  fields := [.of "frame" .required decodeFrame fun r x => { r with frame := x }]
  initial := {}

/-! ## Writing -/

def int64Chars (n : Int64) : List Char := intChars n.toInt

def Mode.chars (m : Mode) : List Char := stringChars m.literal

mutual

def ANode.chars : ANode → List Char
  | ⟨nodeId, nodeName, children, attributes, value⟩ =>
    objectChars (
      [("nodeId", int64Chars nodeId), ("nodeName", stringChars nodeName)] ++
        ANode.childrenMember children ++
        optionalMember "attributes" StringMap.chars attributes ++
        optionalMember "value" RawText.chars value)

/-- The member that holds the children of a node. -/
def ANode.childrenMember : Option (List ANode) → List (String × List Char)
  | some children => [("children", arrayChars (ANode.listChars children))]
  | none => []

def ANode.listChars : List ANode → List (List Char)
  | [] => []
  | node :: rest => node.chars :: ANode.listChars rest

end

def BNode.chars (n : BNode) : List Char := objectChars [("frameId", stringChars n.frameId)]

def Holder.chars (h : Holder) : List Char :=
  objectChars [("local", h.localNode.chars), ("remote", h.remoteNode.chars),
    ("mode", h.mode.chars), ("type", stringChars h.kind)]

mutual

def FrameInfo.chars : FrameInfo → List Char
  | ⟨id, parent, owner⟩ =>
    objectChars ([("id", stringChars id)] ++ FrameInfo.parentMember parent ++
      optionalMember "owner" int64Chars owner)

/-- The member that holds the parent of a frame. -/
def FrameInfo.parentMember : Option FrameInfo → List (String × List Char)
  | some parent => [("parent", parent.chars)]
  | none => []

end

def Headers.chars (_ : Headers) : List Char := objectChars []

def GetNodeParams.chars (p : GetNodeParams) : List Char :=
  objectChars ([("nodeId", int64Chars p.nodeId)] ++ optionalMember "depth" int64Chars p.depth)

def GetNodeResult.chars (r : GetNodeResult) : List Char := objectChars [("node", r.node.chars)]

def SetModeParams.chars (p : SetModeParams) : List Char := objectChars [("mode", p.mode.chars)]

def CountNodesResult.chars (r : CountNodesResult) : List Char :=
  objectChars [("count", int64Chars r.count)]

def DocumentUpdatedEvent.chars (_ : DocumentUpdatedEvent) : List Char := objectChars []

def NodeChangedEvent.chars (e : NodeChangedEvent) : List Char :=
  objectChars [("node", e.node.chars)]

def FrameAttachedEvent.chars (e : FrameAttachedEvent) : List Char :=
  objectChars [("frame", e.frame.chars)]

end Bindery.NodeProtocol
