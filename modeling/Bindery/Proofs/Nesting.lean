import Bindery.Proofs.Brackets
import Bindery.Proofs.Emission
import Bindery.Proofs.Identifiers
import Bindery.Proofs.Pieces

/-!
# Nesting of generated code

Brackets are opened and closed by different lines of a layout, and texts of a schema stand between
them. Those that may hold anything are kept in literals and comments, or have been made words; plain
names hold no brackets (`Domain.HasPlainNames`). So each form of generated item is `Matched`, from
fields up to whole domains, and the brackets in the code of a domain are properly nested
(`wellNested_of_plainNames`).
-/

namespace Bindery

open Text

/-! ## Types -/

/-- All types that can be referred to, and their domains, have plain names. -/
def NameTable.IsPlain (table : NameTable) : Prop :=
  ∀ p ∈ table.declared, IsPlainName p.1 ∧ IsPlainName p.2

theorem CodeType.brackets_ofShape {table : NameTable} (htable : table.IsPlain)
    {domain declaration : String} :
    ∀ {shape : Shape} {type : CodeType}, ofShape? table domain declaration shape = .ok type →
      Brackets type.text []
  | .primitive kind, type, h => by
    obtain rfl := Except.ok.inj h
    cases kind <;> exact .lit rfl
  | .enumeration _, type, h => by
    obtain rfl := Except.ok.inj h
    exact .lit rfl
  | .composite _, type, h => by
    obtain rfl := Except.ok.inj h
    exact .lit rfl
  | .array items, type, h => by
    rw [ofShape?] at h
    obtain ⟨inner, hinner, h⟩ := Except.bind_eq_ok_iff.mp h
    obtain rfl := Except.ok.inj h
    exact .closed (.append (.append (.lit rfl) (brackets_ofShape htable hinner)) (.lit rfl)) rfl
  | .reference target, type, h => by
    rw [ofShape?] at h
    cases hresolve : table.resolve? domain target with
    | none => rw [hresolve] at h; cases h
    | some p =>
      rw [hresolve] at h
      obtain ⟨howner, hname⟩ := htable p (NameTable.mem_declared_of_resolve? hresolve)
      have hident : Brackets (table.ident p.1 p.2) [] := .word (howner.ident hname).isWord
      obtain rfl := Except.ok.inj h
      split
      · exact hident
      · exact .closed (.append (.append (.lit rfl) hident) (.lit rfl)) rfl

/-! ## Records and enumerations -/

/-- Names and types of a record have no brackets. -/
structure Record.IsPlain (r : Record) : Prop where
  ident : IsWord r.ident
  fields : ∀ f ∈ r.fields, IsWord f.ident ∧ Brackets f.type.text []

theorem Record.IsPlain.withDoc {r : Record} (h : r.IsPlain) (description : Option String)
    (experimental : Bool) : (r.withDoc description experimental).IsPlain :=
  ⟨h.ident, h.fields⟩

namespace Text.Matched

theorem recordField {f : RecordField} (hident : IsWord f.ident)
    (htype : Brackets f.type.text []) : Matched f.layout := by
  have hoptional : Brackets
      (if f.optional then ", skip_serializing_if = \"Option::is_none\"" else "") [] := by
    split
    · exact .lit rfl
    · exact .lit rfl
  have hattribute : Matched [.line f.attribute] :=
    line (.append (.append (.append (.lit rfl) (.quote _)) hoptional) (.lit rfl)) rfl
  exact cons (doc _ _ _) (cons hattribute
    (line (.append (.append (.append (.append (.lit rfl) (.word hident)) (.lit rfl)) htype)
      (.lit rfl)) rfl))

theorem record {r : Record} (h : r.IsPlain) : Matched r.layout := by
  have hstart : Matched [.doc .item r.description r.experimental,
      .line "#[derive(Debug, Clone, Serialize, Deserialize)]"] :=
    cons (doc _ _ _) (line (.lit rfl) rfl)
  have hheader : Brackets s!"pub struct {r.ident}" [] :=
    .closed (.append (.lit rfl) (.word h.ident)) rfl
  have hfield : ∀ f ∈ r.fields, Matched f.layout := fun f hf =>
    recordField (h.fields f hf).1 (h.fields f hf).2
  unfold Record.layout
  cases hfields : r.fields with
  | nil => exact hstart.append (line (hheader.append (.lit rfl)) rfl)
  | cons first rest =>
    rw [hfields] at hfield
    refine hstart.append (block hheader rfl (.append .lit) (by decide) ?_)
    refine (hfield first List.mem_cons_self).append (flatMap fun f hf => ?_)
    exact cons blank (hfield f (List.mem_cons_of_mem _ hf))

theorem enumeration {ident : String} (hident : IsWord ident) (description : Option String)
    (experimental : Bool) (literals : List String) :
    Matched (Enumeration.layout ident description experimental literals) := by
  have hconstants : Matched ((Enumeration.constants literals).map fun c =>
      .line (Enumeration.constantLine c)) := by
    rw [List.map_eq_flatMap]
    refine flatMap fun c hc => ?_
    have hword := Brackets.word (isWord_of_mem_constants hc)
    exact line (.append (.append (.append (.append (.lit rfl) hword) (.lit rfl)) (.quote _))
      (.lit rfl)) rfl
  have hgap : Matched (if literals.isEmpty then [] else [.blank]) := by
    split
    · exact nil
    · exact blank
  have hfunction : Matched [.line "/// Returns the wire literal.",
      .block "pub fn as_str(&self) -> &str" "" [.line "&self.0"]] :=
    cons (line (.lit rfl) rfl) (block (.lit rfl) rfl .lit (by decide) (line (.lit rfl) rfl))
  have hbody := (hconstants.append hgap).append hfunction
  have hstruct : Matched [.line s!"pub struct {ident}(pub Cow<'static, str>);"] :=
    line (.append (.append (.lit rfl) (.word hident)) (.lit rfl)) rfl
  have himpl : Brackets s!"impl {ident}" [] := .closed (.append (.lit rfl) (.word hident)) rfl
  exact cons (doc _ _ _) (cons (line (.lit rfl) rfl) (cons (line (.lit rfl) rfl) (cons hstruct
    (cons blank (cons (line (.lit rfl) rfl)
      (block himpl rfl (.append .lit) (by decide) hbody))))))

end Text.Matched

/-! ## Commands -/

/-- The names that a command is generated with have no brackets. -/
structure CommandShape.IsPlain (shape : CommandShape) : Prop where
  ident : IsPlainName shape.ident
  method : Brackets shape.method []
  params : ∀ r ∈ shape.params, IsWord r.ident
  result : ∀ r ∈ shape.result, IsWord r.ident

namespace CommandShape.IsPlain

variable {shape : CommandShape} (h : shape.IsPlain)

include h

theorem blockingIdent : Brackets shape.blockingIdent [] :=
  .closed (.append (.word h.ident.isWord) (.lit rfl)) rfl

theorem callbackHandleIdent : Brackets shape.callbackHandleIdent [] :=
  .closed (.append (.append (.lit rfl) (.word h.ident.isWord)) (.lit rfl)) rfl

theorem callbackIdent : Brackets shape.callbackIdent [] :=
  .closed (.append (.word h.ident.isWord) (.lit rfl)) rfl

theorem fnIdent : Brackets (Naming.fnIdent shape.ident) [] :=
  .word (isWord_escapeKeyword h.ident.snakeCase.isWord)

/-- A result that is nothing is spelled by a pair of brackets. -/
theorem resultType : Brackets shape.resultType [] := by
  unfold CommandShape.resultType
  cases hresult : shape.result with
  | none => exact .closed (.lit rfl) rfl
  | some r => exact .word (h.result r hresult)

theorem paramsArg {arg : String} (harg : arg ∈ shape.paramsArg) : Brackets arg [] := by
  unfold CommandShape.paramsArg CommandShape.paramsIdent at harg
  cases hparams : shape.params with
  | none => rw [hparams] at harg; cases harg
  | some r =>
    rw [hparams] at harg
    obtain rfl := Option.some.inj harg
    exact .closed (.append (.lit rfl) (.word (h.params r hparams))) rfl

theorem withParamsArg {others : String} (hothers : Brackets others []) :
    Brackets (shape.withParamsArg others) [] := by
  unfold CommandShape.withParamsArg
  split
  · rename_i arg harg
    exact .closed (.append (.append (h.paramsArg harg) (.lit rfl)) hothers) rfl
  · exact hothers

theorem outcome : Brackets shape.outcome [] := by
  unfold CommandShape.outcome
  split
  · rename_i r hresult
    exact .closed (.append (.append (.lit rfl) (.word (h.result r hresult))) (.lit rfl)) rfl
  · exact .closed (.lit rfl) rfl

end CommandShape.IsPlain

namespace Text.Matched

section

variable {shape : CommandShape} (h : shape.IsPlain)

include h

theorem paramsField : Matched shape.paramsField := by
  unfold CommandShape.paramsField CommandShape.paramsIdent
  cases hparams : shape.params with
  | none => exact nil
  | some r =>
    exact line (.append (.append (.lit rfl) (.word (h.params r hparams))) (.lit rfl)) rfl

omit h in
theorem ifParams {ls : List Layout} (hls : Matched ls) : Matched (shape.ifParams ls) := by
  unfold CommandShape.ifParams
  split
  · exact hls
  · exact nil

omit h in
theorem ifResult {ls : List Layout} (hls : Matched ls) : Matched (shape.ifResult ls) := by
  unfold CommandShape.ifResult
  split
  · exact hls
  · exact nil

omit h in
/-- A value that is made: the group ends in a bracket of its own. -/
theorem made {body : List Layout} (hbody : Matched body) :
    Matched [.block "Arc::new(Self" ")" body] := by
  have hheader : Brackets ("Arc::new(Self" ++ " \x7b") (['('] ++ ['\x7b']) :=
    .append (.lit rfl) (.lit rfl)
  have hclose : Brackets ("\x7d" ++ ")") (['\x7d'] ++ [')']) := .append (.lit rfl) (.lit rfl)
  exact group hheader hclose hbody rfl rfl (.append .lit) (by decide) (.append .lit) (by decide)

omit h in
theorem identity (shape : CommandShape) : Matched shape.identity := by
  have hname : Matched [.line (quote shape.method)] := line (.quote _) rfl
  have hparams : Matched [.line
      (if shape.params.isSome then "rt::encode(&self.params).map(Some)" else "Ok(None)")] := by
    split
    · exact line (.lit rfl) rfl
    · exact line (.lit rfl) rfl
  exact cons (block (.lit rfl) rfl .lit (by decide) hname)
    (cons blank (block (.lit rfl) rfl .lit (by decide) hparams))

omit h in
theorem done {body : List Layout} (hbody : Matched body) :
    Matched [.block CommandShape.doneHeader "" body] :=
  block (.lit rfl) rfl .lit (by decide) hbody

theorem blockingHandle : Matched (Blocking.handle shape) := by
  have hresult : Matched (shape.ifResult [.line s!"result: Mutex<Option<{shape.resultType}>>,"]) :=
    ifResult (line (.append (.append (.lit rfl) h.resultType) (.lit rfl)) rfl)
  have hheader : Brackets s!"pub struct {shape.blockingIdent}" [] :=
    .closed (.append (.lit rfl) h.blockingIdent) rfl
  have hoptional := (paramsField h).append hresult
  refine cons (line (.append (.append (.lit rfl) h.method) (.lit rfl)) rfl)
    (block hheader rfl (.append .lit) (by decide) (hoptional.append ?_))
  exact cons (line (.lit rfl) rfl) (line (.lit rfl) rfl)

omit h in
theorem newHeader {args : String} (hargs : Brackets args []) :
    Brackets s!"pub fn new({args}) -> Arc<Self>" [] :=
  .closed (.append (.append (.lit rfl) hargs) (.lit rfl)) rfl

theorem blockingConstructor : Matched [Blocking.constructor shape] := by
  have hargs : Brackets (shape.paramsArg.getD "") [] := by
    cases harg : shape.paramsArg with
    | none => exact .lit rfl
    | some arg => exact h.paramsArg harg
  have hparams : Matched (shape.ifParams [.line "params,"]) := ifParams (line (.lit rfl) rfl)
  have hresult : Matched (shape.ifResult [.line "result: Mutex::new(None),"]) :=
    ifResult (line (.lit rfl) rfl)
  refine block (newHeader hargs) rfl (.append (.append .lit)) (by decide)
    (made ((hparams.append hresult).append ?_))
  exact cons (line (.lit rfl) rfl) (line (.lit rfl) rfl)

omit h in
theorem blockingRunning (shape : CommandShape) : Matched (Blocking.running shape) := by
  have hcancel : Matched [.line "transport.cancel(&command);",
      .line s!"return Err(rt::ProtocolError::timeout({quote shape.method}, timeout));"] :=
    cons (line (.lit rfl) rfl) (line (.append (.append (.lit rfl) (.quote _)) (.lit rfl)) rfl)
  have herr : Matched [.line "Some(err) => Err(err),", .line "None => Ok(()),"] :=
    cons (line (.lit rfl) rfl) (line (.lit rfl) rfl)
  have hrun : Brackets ("pub fn run(self: &Arc<Self>, transport: &dyn rt::Transport) " ++
      "-> Result<(), rt::ProtocolError>") [] := .closed (.append (.lit rfl) (.lit rfl)) rfl
  have htimeout : Brackets
      ("pub fn run_timeout(self: &Arc<Self>, transport: &dyn rt::Transport, " ++
        "timeout: ::std::time::Duration) -> Result<(), rt::ProtocolError>") [] :=
    .closed (.append (.lit rfl) (.lit rfl)) rfl
  refine cons (line (.lit rfl) rfl) (cons (line (.lit rfl) rfl) (cons (line (.lit rfl) rfl)
    (cons (block hrun rfl (.append .lit) (by decide) (line (.lit rfl) rfl)) (cons blank
      (cons (line (.lit rfl) rfl) (block htimeout rfl (.append .lit) (by decide) ?_))))))
  exact cons (line (.lit rfl) rfl) (cons (line (.lit rfl) rfl)
    (cons (block (.lit rfl) rfl .lit (by decide) hcancel)
      (block (.lit rfl) rfl .lit (by decide) herr)))

theorem blockingResults : Matched (Blocking.results shape) := by
  have hresult : Brackets s!"pub fn result(&self) -> Option<{shape.resultType}>" [] :=
    .closed (.append (.append (.lit rfl) h.resultType) (.lit rfl)) rfl
  have htake : Brackets s!"pub fn take_result(&self) -> Option<{shape.resultType}>" [] :=
    .closed (.append (.append (.lit rfl) h.resultType) (.lit rfl)) rfl
  exact ifResult (cons blank (cons (line (.lit rfl) rfl)
    (cons (block hresult rfl (.append (.append .lit)) (by decide) (line (.lit rfl) rfl))
      (cons blank
        (block htake rfl (.append (.append .lit)) (by decide) (line (.lit rfl) rfl))))))

theorem blockingDone : Matched [Blocking.done shape] := by
  have hstored : Matched [.line (if shape.result.isSome then
      "Ok(result) => *self.result.lock() = Some(result)," else "Ok(()) => \x7b\x7d")] := by
    split
    · exact line (.lit rfl) rfl
    · exact line (.lit rfl) rfl
  have hmatch : Brackets s!"match {shape.outcome}" [] := .closed (.append (.lit rfl) h.outcome) rfl
  exact done (cons (block hmatch rfl (.append .lit) (by decide)
    (cons hstored (line (.lit rfl) rfl))) (line (.lit rfl) rfl))

theorem blockingConvenience : Matched (Blocking.convenience shape) := by
  have hargs : Brackets (shape.withParamsArg "transport: &dyn rt::Transport") [] :=
    h.withParamsArg (.lit rfl)
  have hcall : Brackets (if shape.params.isSome then "new(params)" else "new()") [] := by
    split
    · exact .closed (.lit rfl) rfl
    · exact .closed (.lit rfl) rfl
  have hlast : Matched [.line (if shape.result.isSome then
      "command.take_result().ok_or(rt::ProtocolError::MissingResult)" else "Ok(())")] := by
    split
    · exact line (.lit rfl) rfl
    · exact line (.lit rfl) rfl
  have hheader {args : String} (hargs : Brackets args []) :
      Brackets (s!"pub fn {Naming.fnIdent shape.ident}({args}) " ++
        s!"-> Result<{shape.resultType}, rt::ProtocolError>") [] :=
    .closed (.append (.append (.append (.append (.append (.lit rfl) h.fnIdent) (.lit rfl)) hargs)
      (.lit rfl)) (.append (.append (.lit rfl) h.resultType) (.lit rfl))) rfl
  refine cons (doc _ _ _) (block (hheader hargs) rfl
    (.append (.append (.append (.append (.append .lit))))) (by decide) ?_)
  exact cons (line (.append (.append (.append (.append (.lit rfl) h.blockingIdent) (.lit rfl))
    hcall) (.lit rfl)) rfl) (cons (line (.lit rfl) rfl) hlast)

theorem callbackType : Matched (Callback.callbackType shape) := by
  have halias : Matched [.line (s!"pub type {shape.callbackIdent} = " ++
      s!"Box<dyn FnOnce(Result<{shape.resultType}, rt::ProtocolError>) + Send>;")] :=
    line (.append (.append (.append (.lit rfl) h.callbackIdent) (.lit rfl))
      (.append (.append (.lit rfl) h.resultType) (.lit rfl))) rfl
  exact cons (line (.append (.append (.lit rfl) h.method) (.lit rfl)) rfl) halias

theorem callbackHandle : Matched (Callback.handle shape) := by
  have hheader : Brackets s!"pub struct {shape.callbackHandleIdent}" [] :=
    .closed (.append (.lit rfl) h.callbackHandleIdent) rfl
  have hcallback : Matched [.line s!"callback: Mutex<Option<{shape.callbackIdent}>>,"] :=
    line (.append (.append (.lit rfl) h.callbackIdent) (.lit rfl)) rfl
  exact cons (line (.append (.append (.lit rfl) h.method) (.lit rfl)) rfl)
    (block hheader rfl (.append .lit) (by decide) ((paramsField h).append hcallback))

theorem callbackFunctions : Matched (Callback.functions shape) := by
  have hothers : Brackets s!"callback: Option<{shape.callbackIdent}>" [] :=
    .closed (.append (.append (.lit rfl) h.callbackIdent) (.lit rfl)) rfl
  have hheader := newHeader (h.withParamsArg hothers)
  have hparams : Matched (shape.ifParams [.line "params,"]) := ifParams (line (.lit rfl) rfl)
  refine cons (block hheader rfl (.append (.append .lit)) (by decide)
    (made (hparams.append (line (.lit rfl) rfl)))) (cons blank ?_)
  exact cons (line (.lit rfl) rfl) (block (.lit rfl) rfl .lit (by decide) (line (.lit rfl) rfl))

theorem callbackDone : Matched [Callback.done shape] := by
  have houtcome : Matched [.line s!"let outcome = {shape.outcome};"] :=
    line (.append (.append (.lit rfl) h.outcome) (.lit rfl)) rfl
  have hwarn : Matched [.line (s!"warn!(method = {quote shape.method}, error = %err, " ++
      "\"Command failed without callback\");")] :=
    line (.append (.append (.append (.lit rfl) (.quote _)) (.lit rfl)) (.lit rfl)) rfl
  refine done (cons houtcome (cons (line (.lit rfl) rfl)
    (block (.lit rfl) rfl .lit (by decide) ?_)))
  exact cons (line (.lit rfl) rfl) (block (.lit rfl) rfl .lit (by decide)
    (block (.lit rfl) rfl .lit (by decide) hwarn))

theorem blocking : Matched (Blocking.layout shape) := by
  have himpl : Brackets s!"impl {shape.blockingIdent}" [] :=
    .closed (.append (.lit rfl) h.blockingIdent) rfl
  have hcommand : Brackets s!"impl rt::Command for {shape.blockingIdent}" [] :=
    .closed (.append (.lit rfl) h.blockingIdent) rfl
  have hmethods := ((cons (blockingConstructor h) blank).append (blockingRunning shape)).append
    (blockingResults h)
  have hidentity := (identity shape).append (cons blank (blockingDone h))
  exact ((((((blockingHandle h).append blank).append
    (block himpl rfl (.append .lit) (by decide) hmethods)).append blank).append
      (block hcommand rfl (.append .lit) (by decide) hidentity)).append blank).append
        (blockingConvenience h) |>.append blank

theorem callback : Matched (Callback.layout shape) := by
  have himpl : Brackets s!"impl {shape.callbackHandleIdent}" [] :=
    .closed (.append (.lit rfl) h.callbackHandleIdent) rfl
  have hcommand : Brackets s!"impl rt::Command for {shape.callbackHandleIdent}" [] :=
    .closed (.append (.lit rfl) h.callbackHandleIdent) rfl
  have hidentity := (identity shape).append (cons blank (callbackDone h))
  exact (((((callbackType h).append blank).append (callbackHandle h)).append blank).append
    (cons (block himpl rfl (.append .lit) (by decide) (callbackFunctions h)) blank)).append
      (block hcommand rfl (.append .lit) (by decide) hidentity) |>.append blank

end

/-! ## Events -/

theorem registration {ident recordIdent method : String} (hident : IsPlainName ident)
    (hrecord : IsWord recordIdent) (hmethod : Brackets method []) :
    Matched (Event.registration ident recordIdent method) := by
  have hheader : Brackets (s!"pub fn on_{Naming.snakeCase ident}<F>" ++
      "(transport: &dyn rt::Transport, callback: F) " ++
        s!"where F: Fn({recordIdent}) + Send + Sync + 'static") [] :=
    .closed (.append (.append (.append (.append (.lit rfl) (.word hident.snakeCase.isWord))
      (.lit rfl)) (.lit rfl)) (.append (.append (.lit rfl) (.word hrecord)) (.lit rfl))) rfl
  have hmalformed : Matched [.line (s!"Err(err) => warn!(event = {quote method}, error = %err, " ++
      "\"Dropping malformed event\"),")] :=
    line (.append (.append (.append (.lit rfl) (.quote _)) (.lit rfl)) (.lit rfl)) rfl
  have hcallback : Matched [.line "Ok(event) => callback(event),",
      .line (s!"Err(err) => warn!(event = {quote method}, error = %err, " ++
        "\"Dropping malformed event\"),")] := cons (line (.lit rfl) rfl) hmalformed
  have hbox : Matched [.block ("Box::new(move |params: &RawValue| " ++
      s!"match rt::decode::<{recordIdent}>(params)") "),"
        [.line "Ok(event) => callback(event),",
          .line (s!"Err(err) => warn!(event = {quote method}, error = %err, " ++
            "\"Dropping malformed event\"),")]] :=
    group (.append (.append (.lit rfl) (.append (.append (.lit rfl) (.word hrecord)) (.lit rfl)))
      (.lit rfl)) (.append (.lit rfl) (.lit rfl)) hcallback rfl rfl (.append (.append .lit))
      (by decide) (.append .lit) (by decide)
  have hmethodLine : Matched [.line s!"{quote method},"] :=
    line (.append (.quote _) (.lit rfl)) rfl
  refine cons (line (.append (.append (.lit rfl) hmethod) (.lit rfl)) rfl)
    (cons (line (.lit rfl) rfl) (cons (line (.lit rfl) rfl)
      (block hheader rfl (.append (.append (.append (.append .lit)))) (by decide) ?_)))
  exact group (.lit rfl) (.lit rfl) (cons hmethodLine hbox) rfl rfl .lit (by decide) .lit
    (by decide)

end Text.Matched

/-! ## Declarations -/

/-- The names in a domain that identifiers are made of are plain: its own, and those of its types,
commands and events. -/
structure Domain.HasPlainNames (d : Domain) : Prop where
  name : IsPlainName d.name
  declared : ∀ name ∈ d.declaredNames, IsPlainName name

theorem NameTable.isPlain_build {domains : List Domain}
    (h : ∀ d ∈ domains, d.HasPlainNames) : (build domains).IsPlain := by
  intro p hp
  obtain ⟨d, hd, t, ht, rfl⟩ := mem_declared_build.mp hp
  exact ⟨(h d hd).name, (h d hd).declared _ (Domain.name_mem_declaredNames_of_type ht)⟩

section

variable {table : NameTable} (htable : table.IsPlain) {domain : String}
  (hdomain : IsPlainName domain)

include htable

theorem Record.isPlain_of_properties {ident declaration : String} (hident : IsPlainName ident)
    {properties : List Property} {record : Record}
    (h : ofProperties? table domain ident declaration properties = .ok record) :
    record.IsPlain := by
  obtain ⟨fields, hfields, rfl⟩ := ofProperties?_eq_ok h
  refine ⟨hident.isWord, fun f hf => ?_⟩
  obtain ⟨p, -, hcarries⟩ := exists_of_forall₂_of_mem (forall₂_carries hfields) hf
  refine ⟨hcarries.ident, ?_⟩
  obtain ⟨type, htype, h⟩ := Except.bind_eq_ok_iff.mp hcarries.type
  have hbrackets := CodeType.brackets_ofShape htable htype
  rw [← Except.ok.inj h]
  split
  · exact .closed (.append (.append (.lit rfl) hbrackets) (.lit rfl)) rfl
  · exact hbrackets

theorem Command.isPlain_of_record {c : Command} {ident title : String}
    (hident : IsPlainName ident) {properties : List Property} {record : Option Record}
    (h : c.record? table domain ident title properties = .ok record) :
    ∀ r ∈ record, r.IsPlain := by
  rcases record?_eq_ok h with ⟨-, rfl⟩ | ⟨-, r, hr, rfl⟩
  · intro r hr
    cases hr
  · intro r' hr'
    obtain rfl := Option.some.inj hr'
    exact (Record.isPlain_of_properties htable hident hr).withDoc _ _

include hdomain

theorem TypeDecl.matched_piece {t : TypeDecl} (hname : IsPlainName t.name) {piece : Piece}
    (h : t.piece? table domain = .ok piece) : Matched piece.layout := by
  have hident : IsPlainName (table.ident domain t.name) := hdomain.ident hname
  rcases piece?_eq_ok h with ⟨literals, -, hlayout⟩ | ⟨_, record, -, hrecord, hlayout⟩ |
    ⟨type, -, -, htype, hlayout⟩
  · rw [hlayout]
    exact (Matched.enumeration hident.isWord _ _ _).append .blank
  · have hrecord := Record.isPlain_of_properties htable hident hrecord
    rw [hlayout]
    exact (Matched.record (hrecord.withDoc _ _)).append .blank
  · rw [hlayout]
    have halias : Matched [.line s!"pub type {table.ident domain t.name} = {type.text};"] :=
      .line (.append (.append (.append (.append (.lit rfl) (.word hident.isWord)) (.lit rfl))
        (CodeType.brackets_ofShape htable htype)) (.lit rfl)) rfl
    exact .cons (.doc _ _ _) (.cons halias .blank)

omit htable in
/-- The name of a declaration in messages has no brackets. -/
theorem brackets_method {name : String} (hname : IsPlainName name) :
    Brackets s!"{domain}.{name}" [] :=
  .closed (.append (.append (.word hdomain.isWord) (.lit rfl)) (.word hname.isWord)) rfl

theorem Command.matched_piece {c : Command} (hname : IsPlainName c.name) {piece : Piece}
    (h : c.piece? table domain = .ok piece) : Matched piece.layout := by
  obtain ⟨params, result, hparams, hresult, hlayout⟩ := piece?_eq_ok h
  have hident : IsPlainName (table.ident domain c.name) := hdomain.ident hname
  have hparams := isPlain_of_record htable
    (hident.append (t := "Params") (by decide)) hparams
  have hresult := isPlain_of_record htable
    (hident.append (t := "Result") (by decide)) hresult
  have hshape : (c.shapeWith table domain params result).IsPlain :=
    ⟨hident, brackets_method hdomain hname, fun r hr => (hparams r hr).ident,
      fun r hr => (hresult r hr).ident⟩
  rw [hlayout]
  refine ((Matched.flatMap fun r hr => ?_).append (.blocking hshape)).append (.callback hshape)
  refine (Matched.record ?_).append .blank
  rcases List.mem_append.mp hr with hr | hr
  · exact hparams r (Option.mem_toList.mp hr)
  · exact hresult r (Option.mem_toList.mp hr)

theorem Event.matched_piece {e : Event} (hname : IsPlainName e.name) {piece : Piece}
    (h : e.piece? table domain = .ok piece) : Matched piece.layout := by
  obtain ⟨record, hrecord, hlayout⟩ := piece?_eq_ok h
  have hident : IsPlainName (table.ident domain e.name) := hdomain.ident hname
  have hevent : IsPlainName s!"{table.ident domain e.name}Event" :=
    hident.append (t := "Event") (by decide)
  have hrecord := Record.isPlain_of_properties htable hevent hrecord
  rw [hlayout]
  exact (((Matched.record (hrecord.withDoc _ _)).append .blank).append
    (.registration hident hevent.isWord (brackets_method hdomain hname))).append .blank

end

/-! ## Domains -/

theorem Declaration.matched_piece {table : NameTable} (htable : table.IsPlain) {d : Domain}
    (hd : d.HasPlainNames) {x : Declaration} (hx : x ∈ d.declarations) {piece : Piece}
    (h : x.piece? table d.name = .ok piece) : Matched piece.layout := by
  have hname := hd.declared x.name (Domain.name_mem_declaredNames hx)
  cases x with
  | type decl => exact decl.matched_piece htable hd.name hname h
  | command decl => exact decl.matched_piece htable hd.name hname h
  | event decl => exact decl.matched_piece htable hd.name hname h

/-- **The brackets of generated code match.** Let the names of domains, types, commands and events
be made of ASCII letters, digits and underscores. Then whatever properties, literals and
descriptions hold, the brackets in the code of a domain are matched and properly nested, once
comment lines and string literals are removed. -/
theorem wellNested_of_plainNames {domains : List Domain} (h : ∀ d ∈ domains, d.HasPlainNames)
    {d : Domain} (hd : d ∈ domains) {s : Selection} {u : DomainUnit}
    (hunit : d.unit? (NameTable.build domains) s = .ok u) : WellNested u.body := by
  obtain ⟨pieces, hpieces, rfl⟩ := Domain.unit?_eq_ok_iff.mp hunit
  have htable := NameTable.isPlain_build h
  have hmatched : Matched (pieces.flatMap (·.layout)) := by
    refine .flatMap fun piece hpiece => ?_
    obtain ⟨x, hx, hpiece⟩ := exists_of_forall₂_of_mem hpieces hpiece
    exact Declaration.matched_piece htable (h d hd) (List.mem_filter.mp hx).1 hpiece
  obtain ⟨bs, hlines, hbs⟩ := hmatched 0
  show WellNested (Layout.textAll 0 _)
  rw [Layout.textAll_eq_joinLines]
  exact hlines.wellNested hbs

/-- Plain names, and brackets and quotes wherever else there can be any. -/
def bracketed : Domain where
  name := "DOM_1"
  description := some "\x7d"
  experimental := false
  types := [⟨"Mode", some "]\n\"(", false, .enumeration [")\"", "\x7d\\"]⟩]
  commands := [⟨"open", none, false, [⟨"](\"", some "\x7b", true, true, .primitive .any⟩], []⟩]
  events := [⟨"closed", none, false, [⟨"\\\")", none, false, false, .reference "Mode"⟩]⟩]

theorem wellNested_bracketed :
    (∀ d ∈ [bracketed], d.HasPlainNames) ∧ bracketed ∈ [bracketed] ∧
      ∃ u, bracketed.unit? (NameTable.build [bracketed]) ⟨false⟩ = .ok u ∧ WellNested u.body := by
  have hplain : ∀ d ∈ [bracketed], d.HasPlainNames := by
    intro d hd
    obtain rfl := List.mem_singleton.mp hd
    exact ⟨by decide, by decide⟩
  have hunit : ∃ u, bracketed.unit? (NameTable.build [bracketed]) ⟨false⟩ = .ok u := ⟨_, rfl⟩
  obtain ⟨u, hu⟩ := hunit
  exact ⟨hplain, List.mem_singleton_self _, u, hu,
    wellNested_of_plainNames hplain (List.mem_singleton_self _) hu⟩

end Bindery
