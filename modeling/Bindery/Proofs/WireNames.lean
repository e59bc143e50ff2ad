import Bindery.Proofs.Definitions
import Bindery.Proofs.Emission
import Bindery.Proofs.GeneratedLines
import Bindery.Proofs.Pieces
import Bindery.Proofs.WireMarks

/-!
# Names in messages

What a declaration is called in messages is what the schema calls it, although its identifier may be
qualified and is spelled in another way (`names_reach_messages`). For each form of generated item
there is a law of what it says (`Says.record`, `Says.enumeration`, `Says.blocking`, `Says.callback`,
`Says.registration`); a declaration says what its items say one after the other
(`Declaration.says_piece`), and a domain what its declarations say.
-/

namespace Bindery

open Text

namespace WireMark

/-! ## What generated items say -/

/-- A structure with the given members. -/
def ofMembers (names : List String) : List WireMark :=
  .struct :: names.map fun name => .member (some name)

namespace Says

theorem recordField {f : RecordField} (hf : IsWord f.ident) :
    Says f.layout [.member (some f.wireName)] :=
  skip (doc _ _ _) (field hf)

theorem record {r : Record} (h : ∀ f ∈ r.fields, IsWord f.ident) :
    Says r.layout (ofMembers (r.fields.map (·.wireName))) := by
  have hstart : Says [.doc .item r.description r.experimental,
      .line "#[derive(Debug, Clone, Serialize, Deserialize)]"] [] :=
    skip (doc _ _ _) (line (.of_front .lit (by decide)))
  have hheader : Starts s!"pub struct {r.ident}" "pub struct ".toList := .append .self
  have hrest : ∀ fs : List RecordField, (∀ f ∈ fs, IsWord f.ident) →
      Says (fs.flatMap fun f => .blank :: f.layout)
        (fs.map fun f => .member (some f.wireName)) := by
    intro fs hfs
    induction fs with
    | nil => exact nil
    | cons f fs ih =>
      have hf := recordField (hfs f List.mem_cons_self)
      exact (skip blank hf).append (ih fun g hg => hfs g (List.mem_cons_of_mem _ hg))
  unfold Record.layout ofMembers
  rw [List.map_map]
  cases hfields : r.fields with
  | nil => exact hstart.append (struct (hheader.append))
  | cons first rest =>
    rw [hfields] at h
    have hfirst := recordField (h first List.mem_cons_self)
    refine hstart.append (structBlock hheader ?_)
    exact hfirst.append (hrest rest fun f hf => h f (List.mem_cons_of_mem _ hf))

theorem enumeration (ident : String) (description : Option String) (experimental : Bool)
    (literals : List String) :
    Says (Enumeration.layout ident description experimental literals)
      (.struct :: literals.map fun literal => .constant (some literal)) := by
  have hconstants : ∀ cs : List (String × String), (∀ c ∈ cs, IsWord c.1) →
      Says (cs.map fun c => .line (Enumeration.constantLine c))
        (cs.map fun c => .constant (some c.2)) := by
    intro cs hcs
    induction cs with
    | nil => exact nil
    | cons c cs ih =>
      exact cons (constant (hcs c List.mem_cons_self))
        (ih fun d hd => hcs d (List.mem_cons_of_mem _ hd))
  have hall : Says
      ((Enumeration.constants literals).map fun c => .line (Enumeration.constantLine c))
      (literals.map fun literal => .constant (some literal)) := by
    have hmap := congrArg (List.map fun literal => WireMark.constant (some literal))
      (map_snd_constants literals)
    rw [List.map_map] at hmap
    rw [← hmap]
    exact hconstants _ fun c hc => isWord_of_mem_constants hc
  have hgap : Says (if literals.isEmpty then [] else [.blank]) [] := by
    split
    · exact nil
    · exact blank
  have hfunction : Says [.line "/// Returns the wire literal.",
      .block "pub fn as_str(&self) -> &str" "" [.line "&self.0"]] [] :=
    skip (line (.of_front .lit (by decide)))
      (block (.of_pub (.append .lit) (by decide) (.append (.lit rfl)) (by decide))
        (line (.of_front .lit (by decide))))
  have himpl : Quiet (s!"impl {ident}" ++ " \x7b") :=
    .of_front (.append (.append .lit)) (by decide)
  have hbody := (hall.append hgap).append hfunction
  rw [List.append_nil, List.append_nil] at hbody
  unfold Enumeration.layout
  exact skip (doc _ _ _) (skip (line (.of_front .lit (by decide)))
    (skip (line (.of_front .lit (by decide))) (cons (struct (.append (.append .self))) (skip blank
      (skip (line (.of_front .lit (by decide))) (block himpl hbody))))))

/-! ### Commands -/

section

variable (shape : CommandShape)

/-- A line whose first character settles that it says nothing. -/
theorem text {s : String} {c : Char} {cs : List Char} (h : Starts s (c :: cs))
    (hc : c ∉ [' ', 'p', 'f', 't']) : Says [.line s] [] :=
  line (.of_front h hc)

/-- A public function says nothing. -/
theorem function {header : String} {body : List Layout} {cs : List Char}
    (h : Starts header ('p' :: 'u' :: 'b' :: ' ' :: 'f' :: cs)) (hbody : Says body []) :
    Says [.block header "" body] [] :=
  block (.of_pub h.append (by decide) (.append (.lit rfl)) (by decide)) hbody

theorem paramsField : Says shape.paramsField [] := by
  unfold CommandShape.paramsField
  cases shape.paramsIdent with
  | none => exact nil
  | some ident =>
    refine line (.of_starts (.append (.append .lit)) (by decide) fun _ => ?_)
    exact silent_of_not_pub (by decide)

theorem ifParams {ls : List Layout} (h : Says ls []) : Says (shape.ifParams ls) [] := by
  unfold CommandShape.ifParams
  split
  · exact h
  · exact nil

theorem ifResult {ls : List Layout} (h : Says ls []) : Says (shape.ifResult ls) [] := by
  unfold CommandShape.ifResult
  split
  · exact h
  · exact nil

/-- The line that passes the parameters on. -/
theorem passing : Says [.line "params,"] [] :=
  line (.of_starts .lit (by decide) fun _ => silent_of_not_pub (by decide))

/-- A handle says its name, and nothing else. -/
theorem identity : Says shape.identity [.method (some shape.method)] := by
  refine cons (method _) (skip blank (block (.of_starts (.append .lit) (by decide) fun _ => ?_) ?_))
  · exact silent_of_fn (by decide)
  · split
    · exact text .lit (by decide)
    · exact text .lit (by decide)

theorem done {body : List Layout} (h : Says body []) :
    Says [.block CommandShape.doneHeader "" body] [] :=
  block (.of_starts (.append .lit) (by decide) fun _ => silent_of_fn (by decide)) h

theorem blockingHandle : Says (Blocking.handle shape) [.struct] := by
  refine skip (text (.append (.append .lit)) (by decide)) (structBlock (.append .self) ?_)
  have hresult : Says [.line s!"result: Mutex<Option<{shape.resultType}>>,"] [] :=
    text (.append (.append .lit)) (by decide)
  refine ((paramsField shape).append (ifResult shape hresult)).append ?_
  exact skip (text .lit (by decide)) (text .lit (by decide))

theorem blockingConstructor : Says [Blocking.constructor shape] [] := by
  refine function (.append (.append .lit)) (block (.of_front (.append .lit) (by decide)) ?_)
  refine ((ifParams shape passing).append (ifResult shape (text .lit (by decide)))).append ?_
  exact skip (text .lit (by decide)) (text .lit (by decide))

theorem blockingRunning : Says (Blocking.running shape) [] := by
  have hrun : Says [.line "self.run_timeout(transport, rt::DEFAULT_COMMAND_TIMEOUT)"] [] :=
    text .lit (by decide)
  have habandon : Quiet "transport.cancel(&command);" :=
    .of_starts .lit (by decide) fun _ => silent_of_transport (by decide)
  have hcancel : Says [.line "transport.cancel(&command);",
      .line s!"return Err(rt::ProtocolError::timeout({quote shape.method}, timeout));"] [] :=
    skip (line habandon) (text (.append (.append .lit)) (by decide))
  have herr : Says [.line "Some(err) => Err(err),", .line "None => Ok(()),"] [] :=
    skip (text .lit (by decide)) (text .lit (by decide))
  have hwait : Says [.block "if !self.latch.wait_timeout(timeout)" ""
      [.line "transport.cancel(&command);",
        .line s!"return Err(rt::ProtocolError::timeout({quote shape.method}, timeout));"],
      .block "match self.err.lock().take()" ""
        [.line "Some(err) => Err(err),", .line "None => Ok(()),"]] [] :=
    skip (block (.of_front (.append .lit) (by decide)) hcancel)
      (block (.of_front (.append .lit) (by decide)) herr)
  have hsubmit : Quiet "transport.submit(Arc::clone(&command));" :=
    .of_starts .lit (by decide) fun _ => silent_of_transport (by decide)
  refine skip (text .lit (by decide)) (skip (text .lit (by decide)) (skip (text .lit (by decide))
    (skip (function (.append .lit) hrun) (skip blank (skip (text .lit (by decide))
      (function (.append .lit) ?_))))))
  exact skip (text .lit (by decide)) (skip (line hsubmit) hwait)

theorem blockingResults : Says (Blocking.results shape) [] := by
  unfold Blocking.results
  refine ifResult shape (skip blank (skip (text .lit (by decide))
    (skip (function (.append (.append .lit)) ?_)
      (skip blank (function (.append (.append .lit)) ?_)))))
  · exact text .lit (by decide)
  · exact text .lit (by decide)

theorem blockingDone : Says [Blocking.done shape] [] := by
  refine done (skip (block (.of_front (.append (.append .lit)) (by decide)) (skip ?_ ?_)) ?_)
  · split
    · exact text .lit (by decide)
    · exact text .lit (by decide)
  · exact text .lit (by decide)
  · exact text .lit (by decide)

theorem blockingConvenience : Says (Blocking.convenience shape) [] := by
  have hlast : Says [.line (if shape.result.isSome then
      "command.take_result().ok_or(rt::ProtocolError::MissingResult)" else "Ok(())")] [] := by
    split
    · exact text .lit (by decide)
    · exact text .lit (by decide)
  exact skip (doc _ _ _) (function (.append (.append (.append (.append (.append .lit)))))
    (skip (text (.append (.append (.append (.append .lit)))) (by decide))
      (skip (text .lit (by decide)) hlast)))

theorem blocking :
    Says (Blocking.layout shape) [.struct, .method (some shape.method)] := by
  have himpl : Quiet (s!"impl {shape.blockingIdent}" ++ " \x7b") :=
    .of_front (.append (.append .lit)) (by decide)
  have hcommand : Quiet (s!"impl rt::Command for {shape.blockingIdent}" ++ " \x7b") :=
    .of_front (.append (.append .lit)) (by decide)
  have hmethods := ((skip (blockingConstructor shape) blank).append (blockingRunning shape)).append
    (blockingResults shape)
  have hidentity := (identity shape).append (skip blank (blockingDone shape))
  exact ((((((blockingHandle shape).append blank).append (block himpl hmethods)).append
    blank).append (block hcommand hidentity)).append blank).append
      ((blockingConvenience shape).append blank)

theorem callbackType : Says (Callback.callbackType shape) [] := by
  exact skip (text (.append (.append .lit)) (by decide))
    (line (.of_pub (.append (.append (.append .lit))) (by decide) (.append (.append (.lit rfl)))
      (by decide)))

theorem callbackHandle : Says (Callback.handle shape) [.struct] := by
  refine skip (text (.append (.append .lit)) (by decide)) (structBlock (.append .self) ?_)
  exact (paramsField shape).append (text (.append (.append .lit)) (by decide))

theorem callbackFunctions : Says (Callback.functions shape) [] := by
  have hmade : Says [.block "Arc::new(Self" ")" <|
      shape.ifParams [.line "params,"] ++ [.line "callback: Mutex::new(callback),"]] [] :=
    block (.of_front (.append .lit) (by decide))
      ((ifParams shape passing).append (text .lit (by decide)))
  have hsubmit : Quiet "transport.submit(Arc::clone(self) as Arc<dyn rt::Command>);" :=
    .of_starts .lit (by decide) fun _ => silent_of_transport (by decide)
  refine skip (function (.append (.append .lit)) hmade) (skip blank
    (skip (text .lit (by decide)) (function .lit (line hsubmit))))

theorem callbackDone : Says [Callback.done shape] [] := by
  have hwarn : Says [.line (s!"warn!(method = {quote shape.method}, error = %err, " ++
      "\"Command failed without callback\");")] [] :=
    text (.append (.append (.append .lit))) (by decide)
  have hnone : Says [.block "None =>" "" [.block "if let Err(err) = outcome" ""
      [.line (s!"warn!(method = {quote shape.method}, error = %err, " ++
        "\"Command failed without callback\");")]]] [] :=
    block (.of_front (.append .lit) (by decide))
      (block (.of_front (.append .lit) (by decide)) hwarn)
  refine done (skip (text (.append (.append .lit)) (by decide)) (skip (text .lit (by decide))
    (block (.of_front (.append .lit) (by decide)) (skip (text .lit (by decide)) hnone))))

theorem callback :
    Says (Callback.layout shape) [.struct, .method (some shape.method)] := by
  have himpl : Quiet (s!"impl {shape.callbackHandleIdent}" ++ " \x7b") :=
    .of_front (.append (.append .lit)) (by decide)
  have hcommand : Quiet (s!"impl rt::Command for {shape.callbackHandleIdent}" ++ " \x7b") :=
    .of_front (.append (.append .lit)) (by decide)
  have hidentity := (identity shape).append (skip blank (callbackDone shape))
  exact (((((callbackType shape).append blank).append (callbackHandle shape)).append blank).append
    (skip (block himpl (callbackFunctions shape)) blank)).append
      (block hcommand hidentity) |>.append blank

end

/-! ### Events -/

theorem registration (ident recordIdent method : String) :
    Says (Event.registration ident recordIdent method) [.event (some method)] := by
  have hmalformed : Says [.line (s!"Err(err) => warn!(event = {quote method}, error = %err, " ++
      "\"Dropping malformed event\"),")] [] :=
    text (.append (.append (.append .lit))) (by decide)
  have hcallback : Says [.block ("Box::new(move |params: &RawValue| " ++
      s!"match rt::decode::<{recordIdent}>(params)") "),"
        [.line "Ok(event) => callback(event),",
          .line (s!"Err(err) => warn!(event = {quote method}, error = %err, " ++
            "\"Dropping malformed event\"),")]] [] :=
    block (.of_front (.append (.append .lit)) (by decide))
      (skip (text .lit (by decide)) hmalformed)
  have hheader : Quiet (s!"pub fn on_{Naming.snakeCase ident}<F>" ++
      "(transport: &dyn rt::Transport, callback: F) " ++
        s!"where F: Fn({recordIdent}) + Send + Sync + 'static" ++ " \x7b") :=
    .of_pub (.append (.append (.append (.append (.append .lit))))) (by decide)
      (.append (.lit rfl)) (by decide)
  exact skip (text (.append (.append .lit)) (by decide)) (skip (text .lit (by decide))
    (skip (text .lit (by decide)) (block hheader (event method hcallback))))

end Says

end WireMark

/-! ## What declarations say -/

open WireMark

/-- A type says the names of its members, or the literals of its constants. -/
def TypeDecl.wire (t : TypeDecl) : List WireMark :=
  match t.shape with
  | .enumeration literals => .struct :: literals.map fun literal => .constant (some literal)
  | .composite properties => ofMembers (properties.map (·.name))
  | _ => []

/-- The record of a command says the names of its members. There is no record of nothing. -/
def Command.recordWire (properties : List Property) : List WireMark :=
  if properties.isEmpty then [] else ofMembers (properties.map (·.name))

/-- A command says its parameters and returns, and its own name twice: both handles call themselves
by it. -/
def Command.wire (domain : String) (c : Command) : List WireMark :=
  recordWire c.parameters ++ recordWire c.returns ++
    [.struct, .method (some s!"{domain}.{c.name}")] ++
    [.struct, .method (some s!"{domain}.{c.name}")]

/-- An event says its parameters, and its own name. -/
def Event.wire (domain : String) (e : Event) : List WireMark :=
  ofMembers (e.parameters.map (·.name)) ++ [.event (some s!"{domain}.{e.name}")]

def Declaration.wire (domain : String) : Declaration → List WireMark
  | .type decl => decl.wire
  | .command decl => decl.wire domain
  | .event decl => decl.wire domain

/-- A record says the names of its properties. -/
theorem Record.says_of_properties {table : NameTable} {domain ident declaration : String}
    {properties : List Property} {record : Record}
    (h : ofProperties? table domain ident declaration properties = .ok record)
    (description : Option String) (experimental : Bool) :
    Says (record.withDoc description experimental).layout
      (ofMembers (properties.map (·.name))) := by
  obtain ⟨fields, hfields, rfl⟩ := ofProperties?_eq_ok h
  have hcarries := forall₂_carries hfields
  rw [← wireNames_eq hcarries]
  refine Says.record fun f hf => ?_
  obtain ⟨p, -, hp⟩ := exists_of_forall₂_of_mem hcarries hf
  exact hp.ident

theorem TypeDecl.says_piece {table : NameTable} {domain : String} {t : TypeDecl} {piece : Piece}
    (h : t.piece? table domain = .ok piece) : Says piece.layout t.wire := by
  rcases piece?_eq_ok h with ⟨literals, hshape, hlayout⟩ |
    ⟨properties, record, hshape, hrecord, hlayout⟩ | ⟨type, hnoenum, hnorecord, -, hlayout⟩
  · rw [wire, hshape, hlayout]
    exact (Says.enumeration _ _ _ literals).trail .blank
  · rw [wire, hshape, hlayout]
    exact (Record.says_of_properties hrecord _ _).trail .blank
  · have halias : Says [.line s!"pub type {table.ident domain t.name} = {type.text};"] [] :=
      .line (.of_pub (.append (.append (.append (.append .lit)))) (by decide) (.append (.lit rfl))
        (by decide))
    rw [hlayout]
    unfold wire
    split
    · rename_i literals hshape
      exact absurd hshape (hnoenum literals)
    · rename_i properties hshape
      exact absurd hshape (hnorecord properties)
    · exact .skip (.doc _ _ _) (.skip halias .blank)

theorem Command.says_record {table : NameTable} {domain ident title : String} {c : Command}
    {properties : List Property} {record : Option Record}
    (h : c.record? table domain ident title properties = .ok record) :
    Says (record.toList.flatMap fun r => r.layout ++ [.blank]) (recordWire properties) := by
  unfold recordWire
  rcases record?_eq_ok h with ⟨hempty, rfl⟩ | ⟨hsome, r, hr, rfl⟩
  · rw [if_pos hempty]
    exact .nil
  · rw [if_neg (by rw [hsome]; decide)]
    exact ((Record.says_of_properties hr _ _).trail .blank).trail .nil

theorem Command.says_piece {table : NameTable} {domain : String} {c : Command} {piece : Piece}
    (h : c.piece? table domain = .ok piece) : Says piece.layout (c.wire domain) := by
  obtain ⟨params, result, hparams, hresult, hlayout⟩ := piece?_eq_ok h
  have hrecords := (says_record hparams).append (says_record hresult)
  rw [← List.flatMap_append] at hrecords
  rw [hlayout]
  exact (hrecords.append (Says.blocking _)).append (Says.callback _)

theorem Event.says_piece {table : NameTable} {domain : String} {e : Event} {piece : Piece}
    (h : e.piece? table domain = .ok piece) : Says piece.layout (e.wire domain) := by
  obtain ⟨record, hrecord, hlayout⟩ := piece?_eq_ok h
  rw [hlayout]
  exact (((Record.says_of_properties hrecord _ _).trail .blank).append
    (Says.registration _ _ _)).trail .blank

theorem Declaration.says_piece {table : NameTable} {domain : String} {x : Declaration}
    {piece : Piece} (h : x.piece? table domain = .ok piece) :
    Says piece.layout (x.wire domain) := by
  cases x with
  | type decl => exact decl.says_piece h
  | command decl => exact decl.says_piece h
  | event decl => exact decl.says_piece h

/-! ## What domains say -/

theorem says_pieces {table : NameTable} {domain : String} {xs : List Declaration}
    {pieces : List Piece}
    (h : List.Forall₂ (fun x piece => Declaration.piece? table domain x = .ok piece) xs pieces) :
    Says (pieces.flatMap (·.layout)) (xs.flatMap (·.wire domain)) := by
  induction h with
  | nil => exact .nil
  | cons hpiece _ ih => exact (Declaration.says_piece hpiece).append ih

/-- What the pieces of a unit say is read from its text as well, cut at its newlines, as long as the
names that identifiers are made of hold none. -/
theorem Domain.wire_of_text {domains : List Domain} (h : ∀ d ∈ domains, d.HasLineNames) {d : Domain}
    (hd : d ∈ domains) {s : Selection} {u : DomainUnit}
    (hunit : d.unit? (NameTable.build domains) s = .ok u) :
    WireMark.read ((splitNewlines u.body.toList).map String.ofList) =
      (d.declarations.filter (s.includes ·.experimental)).flatMap (·.wire d.name) := by
  obtain ⟨pieces, hpieces, hlines⟩ := d.lines_of_unit h hd hunit
  -- the empty line at the end is that of a blank layout, which says nothing
  have hblank : Says [.blank] [] := .blank
  have hread := WireMark.read_of_says ((says_pieces hpieces).trail hblank) 0
  rw [Layout.allLinesAt_append, ← Piece.flatMap_lines] at hread
  rw [hlines]
  exact hread

/-- **Names reach messages unchanged.** The literal of any text is one line between two quotes, no
quote inside ends it early, and it denotes the text. So whatever the names of a domain are made of,
the lines that are generated for its declarations say exactly what these are called: the members of
records under the names of the properties, in their order, the constants of enumerations as their
literals, in their order, and commands and events as the domain and the declaration with a dot
between them, as the schema spells them. -/
theorem names_reach_messages :
    (∀ s : String, ∃ body, (quote s).toList = '"' :: body ++ ['"'] ∧
      '\n' ∉ body ∧ '\r' ∉ body ∧ hasBareQuote body = false ∧
      readLiteral? (quote s).toList = some (s.toList, [])) ∧
    ∀ (table : NameTable) (s : Selection) (d : Domain) (u : DomainUnit),
      d.unit? table s = .ok u → ∃ pieces,
        List.Forall₂ (fun x piece => Declaration.piece? table d.name x = .ok piece ∧
            WireMark.read piece.lines = x.wire d.name)
          (d.declarations.filter (s.includes ·.experimental)) pieces ∧
        u.body = joinLines (pieces.flatMap (·.lines)) ∧
        WireMark.read (pieces.flatMap (·.lines)) =
          (d.declarations.filter (s.includes ·.experimental)).flatMap (·.wire d.name) := by
  constructor
  · intro s
    obtain ⟨body, hbody, hnewline, hreturn, hbare⟩ := quote_form s
    have hread := readLiteral?_quote s []
    rw [List.append_nil] at hread
    exact ⟨body, hbody, hnewline, hreturn, hbare, hread⟩
  · intro table s d u h
    obtain ⟨pieces, hpieces, rfl⟩ := Domain.unit?_eq_ok_iff.mp h
    refine ⟨pieces, ?_, ?_, ?_⟩
    · refine hpieces.imp fun x piece hpiece => ⟨hpiece, ?_⟩
      exact WireMark.read_of_says (Declaration.says_piece hpiece) 0
    · rw [Piece.flatMap_lines]
      exact Layout.textAll_eq_joinLines 0 _
    · rw [Piece.flatMap_lines]
      exact WireMark.read_of_says (says_pieces hpieces) 0

/-- A domain in which names hold what literals have to escape, and a command is spelled in another
way than its identifier. -/
def hostile : Domain where
  name := "Page.x"
  description := none
  experimental := false
  types := [⟨"Mode", none, false, .enumeration ["\"", "on\n"]⟩]
  commands := [⟨"navigate", none, false, [⟨"\\", none, false, false, .primitive .string⟩], []⟩]
  events := [⟨"\t\"done", none, false, [⟨"#", none, true, false, .primitive .integer⟩]⟩]

theorem names_reach_messages_hostile :
    ∃ (u : DomainUnit) (pieces : List Piece),
      hostile.unit? (NameTable.build [hostile]) ⟨false⟩ = .ok u ∧
      u.body = joinLines (pieces.flatMap (·.lines)) ∧
      WireMark.read (pieces.flatMap (·.lines)) =
        [.struct, .constant (some "\""), .constant (some "on\n"),
          .struct, .member (some "\\"),
          .struct, .method (some "Page.x.navigate"), .struct, .method (some "Page.x.navigate"),
          .struct, .member (some "#"), .event (some "Page.x.\t\"done")] := by
  have hunit : ∃ u, hostile.unit? (NameTable.build [hostile]) ⟨false⟩ = .ok u := ⟨_, rfl⟩
  obtain ⟨u, hu⟩ := hunit
  obtain ⟨pieces, -, hbody, hread⟩ := names_reach_messages.2 _ _ hostile u hu
  exact ⟨u, pieces, hu, hbody, hread⟩

end Bindery
