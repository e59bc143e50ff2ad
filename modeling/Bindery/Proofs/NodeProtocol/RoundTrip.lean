import Bindery.NodeProtocol.Command
import Bindery.Proofs.Json.Filling

/-!
# Records come back as they were

For each record of the node protocol, `members` lists what a value says under each of its wire
names. `RoundTrips` says of a record type that its text is the object of the members that are
present, and that this text is read as the value it was written from; `records_roundTrip` is this
for all of the records. Nodes and frames hold records of their own kind and are read to the height of
their text, so that for these the reader has to be deep enough (`ANode.decode_members`,
`FrameInfo.decode_members`).
-/

namespace Bindery.NodeProtocol

open Bindery.Json

/-! ## Members -/

/-- The content of a map. -/
def StringMap.content (m : StringMap) : Content :=
  .object (m.entries.map fun entry => (entry.1, .string entry.2))

mutual

/-- What a node says under each wire name. -/
def ANode.members : ANode → List (String × Option Content)
  | ⟨nodeId, nodeName, children, attributes, value⟩ =>
    [("nodeId", some (.integer nodeId.toInt)), ("nodeName", some (.string nodeName)),
      ("children", ANode.childrenContent children),
      ("attributes", attributes.map StringMap.content), ("value", value.map .raw)]

def ANode.childrenContent : Option (List ANode) → Option Content
  | some children => some (.array (ANode.contents children))
  | none => none

def ANode.contents : List ANode → List Content
  | [] => []
  | node :: rest => .record node.members :: ANode.contents rest

end

def BNode.members (n : BNode) : List (String × Option Content) :=
  [("frameId", some (.string n.frameId))]

def Holder.members (h : Holder) : List (String × Option Content) :=
  [("local", some (.record h.localNode.members)), ("remote", some (.record h.remoteNode.members)),
    ("mode", some (.string h.mode.literal)), ("type", some (.string h.kind))]

mutual

/-- What a frame says under each wire name. -/
def FrameInfo.members : FrameInfo → List (String × Option Content)
  | ⟨id, parent, owner⟩ =>
    [("id", some (.string id)), ("parent", FrameInfo.parentContent parent),
      ("owner", owner.map fun n => .integer n.toInt)]

def FrameInfo.parentContent : Option FrameInfo → Option Content
  | some parent => some (.record parent.members)
  | none => none

end

def Headers.members (_ : Headers) : List (String × Option Content) := []

def GetNodeParams.members (p : GetNodeParams) : List (String × Option Content) :=
  [("nodeId", some (.integer p.nodeId.toInt)), ("depth", p.depth.map fun n => .integer n.toInt)]

def GetNodeResult.members (r : GetNodeResult) : List (String × Option Content) :=
  [("node", some (.record r.node.members))]

def SetModeParams.members (p : SetModeParams) : List (String × Option Content) :=
  [("mode", some (.string p.mode.literal))]

def CountNodesResult.members (r : CountNodesResult) : List (String × Option Content) :=
  [("count", some (.integer r.count.toInt))]

def DocumentUpdatedEvent.members (_ : DocumentUpdatedEvent) : List (String × Option Content) := []

def NodeChangedEvent.members (e : NodeChangedEvent) : List (String × Option Content) :=
  [("node", some (.record e.node.members))]

def FrameAttachedEvent.members (e : FrameAttachedEvent) : List (String × Option Content) :=
  [("frame", some (.record e.frame.members))]

theorem ANode.members_eq (n : ANode) :
    n.members =
      [("nodeId", some (.integer n.nodeId.toInt)), ("nodeName", some (.string n.nodeName)),
        ("children", n.children.map fun nodes => .array (nodes.map fun c => .record c.members)),
        ("attributes", n.attributes.map StringMap.content), ("value", n.value.map .raw)] := by
  have hcontents (nodes : List ANode) :
      ANode.contents nodes = nodes.map fun c => .record c.members := by
    induction nodes with
    | nil => rfl
    | cons node rest ih => rw [ANode.contents, ih, List.map_cons]
  obtain ⟨nodeId, nodeName, children, attributes, value⟩ := n
  cases children with
  | none => rfl
  | some nodes => simp only [ANode.members, ANode.childrenContent, hcontents, Option.map_some]

theorem FrameInfo.members_eq (f : FrameInfo) :
    f.members =
      [("id", some (.string f.id)), ("parent", f.parent.map fun p => .record p.members),
        ("owner", f.owner.map fun n => .integer n.toInt)] := by
  obtain ⟨id, parent, owner⟩ := f
  cases parent <;> rfl

/-! ## Induction on records -/

/-- What holds of a node if it holds of its children holds of every node. -/
@[elab_as_elim]
theorem ANode.induct {motive : ANode → Prop}
    (step : ∀ n : ANode, (∀ nodes, n.children = some nodes → ∀ c ∈ nodes, motive c) → motive n)
    (n : ANode) : motive n := by
  refine @ANode.rec motive
    (fun children => ∀ nodes, children = some nodes → ∀ c ∈ nodes, motive c)
    (fun nodes => ∀ c ∈ nodes, motive c) ?node ?absent ?children ?nil ?cons n
  case node =>
    intro nodeId nodeName children attributes value ih
    exact step ⟨nodeId, nodeName, children, attributes, value⟩ ih
  case absent =>
    intro nodes h
    cases h
  case children =>
    intro nodes ih nodes' h
    obtain rfl := Option.some.inj h
    exact ih
  case nil =>
    intro c hc
    cases hc
  case cons =>
    intro node rest hnode hrest c hc
    rcases List.mem_cons.mp hc with rfl | hc
    · exact hnode
    · exact hrest c hc

/-- What holds of a frame if it holds of its parent holds of every frame. -/
@[elab_as_elim]
theorem FrameInfo.induct {motive : FrameInfo → Prop}
    (step : ∀ f : FrameInfo, (∀ p, f.parent = some p → motive p) → motive f) (f : FrameInfo) :
    motive f := by
  refine @FrameInfo.rec motive (fun parent => ∀ p, parent = some p → motive p) ?frame ?absent
    ?parent f
  case frame =>
    intro id parent owner ih
    exact step ⟨id, parent, owner⟩ ih
  case absent =>
    intro p h
    cases h
  case parent =>
    intro parent ih p h
    obtain rfl := Option.some.inj h
    exact ih

/-! ## Texts -/

theorem StringMap.text_content (m : StringMap) : m.content.doc.text = m.chars := by
  show (Doc.object (.ofList true (Content.memberDocs _))).text = _
  rw [Members.text_object, Content.memberDocs_eq_map, List.map_map, List.map_map, StringMap.chars]
  rfl

theorem text_raw {raw : RawText} (h : raw.IsValue) : (Content.raw raw).doc.text = raw.chars :=
  h.doc_spec.2.2

theorem ANode.chars_eq (n : ANode) :
    n.chars = objectChars (
      [("nodeId", int64Chars n.nodeId), ("nodeName", stringChars n.nodeName)] ++
        optionalMember "children" (fun nodes => arrayChars (nodes.map ANode.chars)) n.children ++
        optionalMember "attributes" StringMap.chars n.attributes ++
        optionalMember "value" RawText.chars n.value) := by
  have hlist (nodes : List ANode) : ANode.listChars nodes = nodes.map ANode.chars := by
    induction nodes with
    | nil => rfl
    | cons node rest ih => rw [ANode.listChars, ih, List.map_cons]
  obtain ⟨nodeId, nodeName, children, attributes, value⟩ := n
  rw [ANode.chars]
  cases children with
  | none => rfl
  | some nodes =>
    rw [ANode.childrenMember, hlist]
    rfl

theorem ANode.mem_children {n : ANode} {nodes : List ANode} (h : n.children = some nodes) :
    ("children", some (Content.array (nodes.map fun c => .record c.members))) ∈ n.members := by
  rw [n.members_eq, h]
  simp

theorem ANode.mem_attributes {n : ANode} {m : StringMap} (h : n.attributes = some m) :
    ("attributes", some m.content) ∈ n.members := by
  rw [n.members_eq, h]
  simp

theorem ANode.mem_value {n : ANode} {raw : RawText} (h : n.value = some raw) :
    ("value", some (Content.raw raw)) ∈ n.members := by
  rw [n.members_eq, h]
  simp

theorem FrameInfo.mem_parent {f p : FrameInfo} (h : f.parent = some p) :
    ("parent", some (Content.record p.members)) ∈ f.members := by
  rw [f.members_eq, h]
  simp

theorem ANode.text_members (n : ANode) (h : (Content.record n.members).Valid) :
    (Content.record n.members).doc.text = n.chars := by
  induction n using ANode.induct with
  | step n ih =>
    have hchildren (nodes : List ANode) (hnodes : n.children = some nodes) :
        (Content.array (nodes.map fun c => .record c.members)).doc.text =
          arrayChars (nodes.map ANode.chars) := by
      have hvalid := h.of_mem_record (ANode.mem_children hnodes)
      rw [Content.text_array, List.map_map]
      refine congrArg arrayChars (List.map_congr_left fun c hc => ?_)
      exact ih nodes hnodes c hc (hvalid.of_mem_array (List.mem_map_of_mem hc))
    have hvalue (raw : RawText) (hraw : n.value = some raw) :
        (Content.raw raw).doc.text = raw.chars :=
      text_raw (h.of_mem_record (ANode.mem_value hraw) raw List.mem_cons_self)
    rw [n.members_eq, n.chars_eq, Content.text_record, Content.memberTexts_some,
      Content.memberTexts_some, Content.memberTexts_optional hchildren,
      Content.memberTexts_optional (fun m _ => StringMap.text_content m),
      Content.memberTexts_optional hvalue, Content.memberTexts_nil]
    simp
    rfl

theorem FrameInfo.chars_eq (f : FrameInfo) :
    f.chars = objectChars ([("id", stringChars f.id)] ++
      optionalMember "parent" FrameInfo.chars f.parent ++
      optionalMember "owner" int64Chars f.owner) := by
  obtain ⟨id, parent, owner⟩ := f
  rw [FrameInfo.chars]
  cases parent <;> rfl

theorem FrameInfo.text_members (f : FrameInfo) :
    (Content.record f.members).doc.text = f.chars := by
  induction f using FrameInfo.induct with
  | step f ih =>
    rw [f.members_eq, f.chars_eq, Content.text_record, Content.memberTexts_some,
      Content.memberTexts_optional ih, Content.memberTexts_optional (fun _ _ => rfl),
      Content.memberTexts_nil, List.append_nil]
    rfl

/-! ## Reading -/

theorem decodeInt64_content (scope : Scope) (n : Int64) :
    decodeInt64 scope (Content.integer n.toInt).doc = .ok n := by
  show Int64.ofInt <$> decodeInt scope (.number (intChars n.toInt)) = .ok n
  rw [decodeInt_intChars]
  exact congrArg Except.ok n.ofInt_toInt

theorem decodeMode_content (scope : Scope) (m : Mode) :
    decodeMode scope (Content.string m.literal).doc = .ok m := by
  show Mode.mk <$> decodeString scope (.string (escape m.literal.toList)) = .ok m
  rw [decodeString_escape]
  rfl

theorem putEntry_of_not_mem {key value : String} {entries : List (String × String)}
    (h : key ∉ entries.map (·.1)) : putEntry key value entries = entries ++ [(key, value)] := by
  induction entries with
  | nil => rfl
  | cons entry rest ih =>
    obtain ⟨k, v⟩ := entry
    rw [List.map_cons, List.mem_cons, not_or] at h
    rw [putEntry, if_neg (Ne.symm h.1), ih h.2]
    rfl

theorem StringMap.readMembers_entries (scope : Scope) (rest : List (String × String)) :
    ∀ (m : StringMap) (first : Bool) (h : ((m.entries ++ rest).map (·.1)).Nodup),
      readMembers scope m
        (.ofList first (rest.map fun entry => (entry.1, (Content.string entry.2).doc))) =
          .ok ⟨m.entries ++ rest, h⟩ := by
  induction rest with
  | nil =>
    intro m first h
    simp [Members.ofList, readMembers]
  | cons entry rest ih =>
    intro m first h
    obtain ⟨key, value⟩ := entry
    have hkey : key ∉ m.entries.map (·.1) := by
      intro hmem
      rw [List.map_append, List.map_cons, List.nodup_append] at h
      exact h.2.2 key hmem key List.mem_cons_self rfl
    have hput : (m.insert key value).entries = m.entries ++ [(key, value)] :=
      putEntry_of_not_mem hkey
    have hentries : (m.insert key value).entries ++ rest = m.entries ++ (key, value) :: rest := by
      rw [hput, List.append_assoc, List.singleton_append]
    have hread := ih (m.insert key value) false (hentries ▸ h)
    rw [List.map_cons, Members.ofList, readMembers, stringText?_of_unescape (unescape_escape _)]
    simp only [Except.ok_bind]
    show (decodeString scope (.string (escape value.toList)) >>= _) = _
    rw [decodeString_escape, Except.ok_bind, hread]
    simp only [hentries]

theorem StringMap.decode_content {room : Nat} (m : StringMap) (h : m.content.depth ≤ room) :
    StringMap.decode (.streamed room) m.content.doc = .ok m := by
  have hpos : 0 < m.content.depth := Nat.succ_pos _
  obtain ⟨inner, henter, -⟩ := enter_of_le hpos h
  have hread := readMembers_entries (.streamed inner) m.entries {} true m.nodup
  show ((Scope.streamed room).enter >>= fun inner => readMembers inner {}
    (.ofList true (Content.memberDocs _))) = _
  rw [henter, Content.memberDocs_eq_map, List.map_map]
  exact hread

theorem nodup_nodeForm (child : Decoder ANode) : ((nodeForm child).fields.map (·.name)).Nodup := by
  show ["nodeId", "nodeName", "children", "attributes", "value"].Nodup
  decide

theorem nodup_frameForm (parent : Decoder FrameInfo) :
    ((frameForm parent).fields.map (·.name)).Nodup := by
  show ["id", "parent", "owner"].Nodup
  decide

/-- **A node is read back** by a reader for nodes that are nested as deep as its text. -/
theorem ANode.decode_members (n : ANode) : ∀ {height room : Nat},
    (Content.record n.members).doc.height ≤ height → (Content.record n.members).Valid →
    (Content.record n.members).depth ≤ room →
      (nodeFormAt height).decode (.streamed room) (Content.record n.members).doc = .ok n := by
  -- a child is lower than its parent, so the form that is one less deep reads it
  induction n using ANode.induct with
  | step n ih =>
    intro height room hheight hvalid hdepth
    have hpos : 0 < (Content.record n.members).doc.height := Nat.succ_pos _
    obtain ⟨height, rfl⟩ : ∃ k, height = k + 1 := ⟨height - 1, by omega⟩
    refine RecordForm.decode_record (nodup_nodeForm _) hdepth fun inner hinner => ?_
    have hchildren (nodes : List ANode) (hnodes : n.children = some nodes) :
        decodeOption (decodeList (nodeFormAt height).decode) (.streamed inner)
          (Content.array (nodes.map fun c => .record c.members)).doc = .ok (some nodes) := by
      have hmem := ANode.mem_children hnodes
      have hlist := (Content.of_mem_object (mem_present hmem)).2.1
      refine decodeOption_of_ne_null nofun (decodeList_content (hinner _ _ hmem) ?_)
      intro room c hc hroom
      have hitem : Content.record c.members ∈ nodes.map fun c => Content.record c.members :=
        List.mem_map_of_mem hc
      have hnode := (Content.of_mem_array hitem).2.1
      refine ih nodes hnodes c hc ?_ ((hvalid.of_mem_record hmem).of_mem_array hitem) hroom
      exact Nat.le_of_lt_succ (Nat.lt_of_lt_of_le (Nat.lt_trans hnode hlist) hheight)
    have hattributes (m : StringMap) (hm : n.attributes = some m) :
        decodeOption StringMap.decode (.streamed inner) m.content.doc = .ok (some m) :=
      decodeOption_of_ne_null nofun (m.decode_content (hinner _ _ (ANode.mem_attributes hm)))
    have hvalue (raw : RawText) (hraw : n.value = some raw) :
        decodeOption decodeRaw (.streamed inner) (Content.raw raw).doc = .ok (some raw) := by
      have hjson : raw.IsValue :=
        hvalid.of_mem_record (ANode.mem_value hraw) raw List.mem_cons_self
      exact decodeOption_of_ne_null hjson.doc_spec.2.1 (decodeRaw_doc hjson _)
    rw [n.members_eq]
    simp only [Content.entries, List.map_cons, List.map_nil, Option.map_some, Option.map_map]
    exact .required (decodeInt64_content _ _) (.required (decodeString_escape _ _)
      (.optional (by decide) rfl hchildren (.optional (by decide) rfl hattributes
        (.optional (by decide) rfl hvalue (.done (by cases n; rfl))))))

/-- **A frame is read back** by a reader for frames that are nested as deep as its text. -/
theorem FrameInfo.decode_members (f : FrameInfo) : ∀ {height room : Nat},
    (Content.record f.members).doc.height ≤ height → (Content.record f.members).depth ≤ room →
      (frameFormAt height).decode (.streamed room) (Content.record f.members).doc = .ok f := by
  induction f using FrameInfo.induct with
  | step f ih =>
    intro height room hheight hdepth
    have hpos : 0 < (Content.record f.members).doc.height := Nat.succ_pos _
    obtain ⟨height, rfl⟩ : ∃ k, height = k + 1 := ⟨height - 1, by omega⟩
    refine RecordForm.decode_record (nodup_frameForm _) hdepth fun inner hinner => ?_
    have hparent (p : FrameInfo) (hp : f.parent = some p) :
        decodeOption (frameFormAt height).decode (.streamed inner)
          (Content.record p.members).doc = .ok (some p) := by
      have hmem := FrameInfo.mem_parent hp
      have hless := (Content.of_mem_object (mem_present hmem)).2.1
      refine decodeOption_of_ne_null nofun (ih p hp ?_ (hinner _ _ hmem))
      exact Nat.le_of_lt_succ (Nat.lt_of_lt_of_le hless hheight)
    have howner (n : Int64) (_ : f.owner = some n) :
        decodeOption decodeInt64 (.streamed inner) (Content.integer n.toInt).doc = .ok (some n) :=
      decodeOption_of_ne_null nofun (decodeInt64_content _ n)
    rw [f.members_eq]
    simp only [Content.entries, List.map_cons, List.map_nil, Option.map_some, Option.map_map]
    exact .required (decodeString_escape _ _) (.optional (by decide) rfl hparent
      (.optional (by decide) rfl howner (.done (by cases f; rfl))))

theorem decodeNode_content {n : ANode} {room : Nat} (hvalid : (Content.record n.members).Valid)
    (hdepth : (Content.record n.members).depth ≤ room) :
    decodeNode (.streamed room) (Content.record n.members).doc = .ok n :=
  n.decode_members (Nat.le_refl _) hvalid hdepth

theorem decodeFrame_content {f : FrameInfo} {room : Nat}
    (hdepth : (Content.record f.members).depth ≤ room) :
    decodeFrame (.streamed room) (Content.record f.members).doc = .ok f :=
  f.decode_members (Nat.le_refl _) hdepth

/-! ## Round trips -/

/-- The values of a record type come back from their text: `members` says of each value what stands
under which of the wire names, `write` writes just this, and `decode` makes the value of it. Raw
texts are to be JSON, and lists and objects to be nested at most 127 deep. -/
structure RoundTrips {ρ : Type} (wireNames : List String)
    (members : ρ → List (String × Option Content)) (write : ρ → List Char)
    (decode : Decoder ρ) : Prop where
  names (v : ρ) : (members v).map (·.1) = wireNames
  written {v : ρ} (hvalid : (Content.record (members v)).Valid) :
    ∃ object : Members, IsTextOf (RawText.ofChars (write v)).text (.object object) ∧
      object.keys.map unescape = (present (members v)).map fun member => some member.1.toList
  read {v : ρ} (hvalid : (Content.record (members v)).Valid)
    (hdepth : (Content.record (members v)).depth ≤ 127) :
    readBy decode (.ofChars (write v)) = .ok v

/-- It is enough that the text and the decoder agree on the content of each value. -/
theorem RoundTrips.of_content {ρ : Type} {wireNames : List String}
    {members : ρ → List (String × Option Content)} {write : ρ → List Char} {decode : Decoder ρ}
    (names : ∀ v, (members v).map (·.1) = wireNames)
    (text : ∀ v, (Content.record (members v)).Valid →
      (Content.record (members v)).doc.text = write v)
    (content : ∀ v {room : Nat}, (Content.record (members v)).Valid →
      (Content.record (members v)).depth ≤ room →
        decode (.streamed room) (Content.record (members v)).doc = .ok v) :
    RoundTrips wireNames members write decode := by
  have htext (v : ρ) (hvalid : (Content.record (members v)).Valid) :
      IsTextOf (RawText.ofChars (write v)).text (Content.record (members v)).doc :=
    (Content.wellFormed_doc hvalid).isTextOf (String.toList_ofList.trans (text v hvalid).symm)
  refine ⟨names, fun {v} hvalid => ?_, fun {v} hvalid hdepth => ?_⟩
  · have hwhole := htext v hvalid
    rw [Content.doc_record] at hwhole
    refine ⟨_, hwhole, ?_⟩
    rw [Members.keys_ofList, List.map_map, Content.entries, ← map_present, List.map_map]
    exact List.map_congr_left fun member _ => unescape_escape _
  · exact (htext v hvalid).decodeText (content v hvalid hdepth)

theorem ANode.roundTrips :
    RoundTrips ["nodeId", "nodeName", "children", "attributes", "value"] ANode.members ANode.chars
      decodeNode :=
  .of_content (fun n => by rw [n.members_eq]; rfl) ANode.text_members fun _ _ => decodeNode_content

theorem BNode.decode_members (n : BNode) {room : Nat}
    (hdepth : (Content.record n.members).depth ≤ room) :
    bNodeForm.decode (.streamed room) (Content.record n.members).doc = .ok n :=
  RecordForm.decode_record (by decide) hdepth fun _ _ =>
    .required (decodeString_escape _ _) (.nil _)

theorem BNode.roundTrips : RoundTrips ["frameId"] BNode.members BNode.chars bNodeForm.decode :=
  .of_content (fun _ => rfl) (fun _ _ => Content.text_record _) fun n _ _ hdepth =>
    n.decode_members hdepth

theorem Holder.roundTrips :
    RoundTrips ["local", "remote", "mode", "type"] Holder.members Holder.chars
      holderForm.decode := by
  refine .of_content (fun _ => rfl) (fun h hvalid => ?text) fun h room hvalid hdepth => ?content
  case text =>
    have hlocal := h.localNode.text_members (hvalid.of_mem_record List.mem_cons_self)
    have hremote : (Content.record h.remoteNode.members).doc.text = h.remoteNode.chars :=
      Content.text_record _
    rw [Content.text_record]
    show objectChars [("local", (Content.record h.localNode.members).doc.text),
      ("remote", (Content.record h.remoteNode.members).doc.text), _, _] = h.chars
    rw [hlocal, hremote]
    rfl
  case content =>
    refine RecordForm.decode_record (by decide) hdepth fun inner hinner => ?_
    have hlocal : decodeNode (.streamed inner) (Content.record h.localNode.members).doc =
        .ok h.localNode :=
      decodeNode_content (hvalid.of_mem_record List.mem_cons_self)
        (hinner "local" _ List.mem_cons_self)
    have hremote : bNodeForm.decode (.streamed inner) (Content.record h.remoteNode.members).doc =
        .ok h.remoteNode :=
      h.remoteNode.decode_members (hinner "remote" _ (List.mem_cons_of_mem _ List.mem_cons_self))
    exact .required hlocal (.required hremote (.required (decodeMode_content _ _)
      (.required (decodeString_escape _ _) (.nil _))))

theorem FrameInfo.roundTrips :
    RoundTrips ["id", "parent", "owner"] FrameInfo.members FrameInfo.chars decodeFrame :=
  .of_content (fun f => by rw [f.members_eq]; rfl) (fun f _ => f.text_members)
    fun _ _ _ => decodeFrame_content

theorem GetNodeParams.roundTrips :
    RoundTrips ["nodeId", "depth"] GetNodeParams.members GetNodeParams.chars
      getNodeParamsForm.decode := by
  refine .of_content (fun _ => rfl) (fun p _ => ?text) fun p room _ hdepth => ?content
  case text =>
    rw [Content.text_record]
    obtain ⟨nodeId, depth⟩ := p
    cases depth <;> rfl
  case content =>
    refine RecordForm.decode_record (by decide) hdepth fun inner _ => ?_
    have hnodeDepth (n : Int64) (_ : p.depth = some n) :
        decodeOption decodeInt64 (.streamed inner) (Content.integer n.toInt).doc = .ok (some n) :=
      decodeOption_of_ne_null nofun (decodeInt64_content _ n)
    simp only [Content.entries, GetNodeParams.members, List.map_cons, List.map_nil,
      Option.map_some, Option.map_map]
    exact .required (decodeInt64_content _ _) (.optional (by decide) rfl hnodeDepth (.nil _))

theorem SetModeParams.roundTrips :
    RoundTrips ["mode"] SetModeParams.members SetModeParams.chars setModeParamsForm.decode :=
  .of_content (fun _ => rfl) (fun _ _ => Content.text_record _) fun _ _ _ hdepth =>
    RecordForm.decode_record (by decide) hdepth fun _ _ =>
      .required (decodeMode_content _ _) (.nil _)

theorem CountNodesResult.roundTrips :
    RoundTrips ["count"] CountNodesResult.members CountNodesResult.chars
      countNodesResultForm.decode :=
  .of_content (fun _ => rfl) (fun _ _ => Content.text_record _) fun _ _ _ hdepth =>
    RecordForm.decode_record (by decide) hdepth fun _ _ =>
      .required (decodeInt64_content _ _) (.nil _)

/-- A record whose only member is another record. -/
theorem RoundTrips.of_member {ρ σ : Type} {name : String} {inner : σ → ρ}
    {innerMembers : ρ → List (String × Option Content)} {innerWrite : ρ → List Char}
    {innerDecode : Decoder ρ} {form : RecordForm σ} {set : σ → ρ → σ}
    (hfields : form.fields = [.of name .required innerDecode set])
    (hset : ∀ v, set form.initial (inner v) = v)
    (text : ∀ x, (Content.record (innerMembers x)).Valid →
      (Content.record (innerMembers x)).doc.text = innerWrite x)
    (content : ∀ x {room : Nat}, (Content.record (innerMembers x)).Valid →
      (Content.record (innerMembers x)).depth ≤ room →
        innerDecode (.streamed room) (Content.record (innerMembers x)).doc = .ok x) :
    RoundTrips [name] (fun v => [(name, some (.record (innerMembers (inner v))))])
      (fun v => objectChars [(name, innerWrite (inner v))]) form.decode := by
  refine .of_content (fun _ => rfl) (fun v hvalid => ?_) fun v room hvalid hdepth => ?_
  · rw [Content.text_record, ← text _ (hvalid.of_mem_record List.mem_cons_self)]
    rfl
  · have hnodup : (form.fields.map (·.name)).Nodup := by
      rw [hfields]
      exact List.nodup_cons.mpr ⟨List.not_mem_nil, List.nodup_nil⟩
    refine RecordForm.decode_record hnodup hdepth fun room hroom => ?_
    rw [hfields]
    have hread := content (inner v) (hvalid.of_mem_record List.mem_cons_self)
      (hroom name _ List.mem_cons_self)
    exact .required hread (.done (hset v))

/-- A record without members. -/
theorem RoundTrips.of_empty {ρ : Type} {form : RecordForm ρ} (hfields : form.fields = [])
    (honly : ∀ v, form.initial = v) :
    RoundTrips [] (fun _ => []) (fun _ => objectChars []) form.decode := by
  refine .of_content (fun _ => rfl) (fun _ _ => rfl) fun v room _ hdepth => ?_
  have hnodup : (form.fields.map (·.name)).Nodup := by
    rw [hfields]
    exact List.nodup_nil
  refine RecordForm.decode_record hnodup hdepth fun _ _ => ?_
  rw [hfields]
  exact .done (honly v)

theorem Mode.decode_chars (m : Mode) : readBy decodeMode (.ofChars m.chars) = .ok m := by
  have hdoc : (Content.string m.literal).doc.WellFormed := isBody_escape _
  exact (hdoc.isTextOf String.toList_ofList).decodeText (decodeMode_content _ m)

/-- **Every record of the protocol comes back from its text**, with its raw texts as they were. -/
theorem records_roundTrip :
    RoundTrips ["nodeId", "nodeName", "children", "attributes", "value"] ANode.members ANode.chars
        decodeNode ∧
      RoundTrips ["frameId"] BNode.members BNode.chars bNodeForm.decode ∧
      RoundTrips ["local", "remote", "mode", "type"] Holder.members Holder.chars
        holderForm.decode ∧
      RoundTrips ["id", "parent", "owner"] FrameInfo.members FrameInfo.chars decodeFrame ∧
      RoundTrips [] Headers.members Headers.chars headersForm.decode ∧
      RoundTrips ["nodeId", "depth"] GetNodeParams.members GetNodeParams.chars
        getNodeParamsForm.decode ∧
      RoundTrips ["node"] GetNodeResult.members GetNodeResult.chars getNodeResultForm.decode ∧
      RoundTrips ["mode"] SetModeParams.members SetModeParams.chars setModeParamsForm.decode ∧
      RoundTrips ["count"] CountNodesResult.members CountNodesResult.chars
        countNodesResultForm.decode ∧
      RoundTrips [] DocumentUpdatedEvent.members DocumentUpdatedEvent.chars
        documentUpdatedForm.decode ∧
      RoundTrips ["node"] NodeChangedEvent.members NodeChangedEvent.chars
        nodeChangedForm.decode ∧
      RoundTrips ["frame"] FrameAttachedEvent.members FrameAttachedEvent.chars
        frameAttachedForm.decode ∧
      ∀ m : Mode, readBy decodeMode (.ofChars m.chars) = .ok m := by
  have hresult : RoundTrips ["node"] GetNodeResult.members GetNodeResult.chars
      getNodeResultForm.decode :=
    .of_member rfl (fun _ => rfl) ANode.text_members fun _ _ => decodeNode_content
  have hchanged : RoundTrips ["node"] NodeChangedEvent.members NodeChangedEvent.chars
      nodeChangedForm.decode :=
    .of_member rfl (fun _ => rfl) ANode.text_members fun _ _ => decodeNode_content
  have hattached : RoundTrips ["frame"] FrameAttachedEvent.members FrameAttachedEvent.chars
      frameAttachedForm.decode :=
    .of_member rfl (fun _ => rfl) (fun f _ => f.text_members) fun _ _ _ => decodeFrame_content
  have hheaders : RoundTrips [] Headers.members Headers.chars headersForm.decode :=
    .of_empty rfl fun _ => rfl
  have hupdated : RoundTrips [] DocumentUpdatedEvent.members DocumentUpdatedEvent.chars
      documentUpdatedForm.decode := .of_empty rfl fun _ => rfl
  exact ⟨ANode.roundTrips, BNode.roundTrips, Holder.roundTrips, FrameInfo.roundTrips, hheaders,
    GetNodeParams.roundTrips, hresult, SetModeParams.roundTrips, CountNodesResult.roundTrips,
    hupdated, hchanged, hattached, Mode.decode_chars⟩

/-- A node with a child, attributes and a value that is written with white space. -/
def parentNode : ANode where
  nodeId := -9223372036854775808
  nodeName := "a\n\"é\""
  children := some [{ nodeId := 2, nodeName := "" }]
  attributes := some ⟨[("b", "\\"), ("a", "")], by decide⟩
  value := some ⟨"[1 ,null]"⟩

theorem parentNode_roundTrip :
    (Content.record parentNode.members).Valid ∧ (Content.record parentNode.members).depth ≤ 127 ∧
      readBy decodeNode (.ofChars parentNode.chars) = .ok parentNode := by
  have hvalid : (Content.record parentNode.members).Valid := by
    intro raw hraw
    rw [List.mem_singleton.mp hraw]
    decide +kernel
  have hdepth : (Content.record parentNode.members).depth ≤ 127 := by decide
  exact ⟨hvalid, hdepth, records_roundTrip.1.read hvalid hdepth⟩

end Bindery.NodeProtocol
