import Bindery.Proofs.Definitions
import Bindery.Proofs.Identifiers
import Bindery.Proofs.Indentation
import Bindery.Proofs.Literals
import Bindery.Proofs.Lowercase
import Bindery.Proofs.Pieces
import Bindery.Proofs.Words

/-!
# The lines of generated code

What the generator means as one line is one line of the text, as long as the names that identifiers
are made of hold no newline: those of domains, types, commands and events
(`Domain.HasLineNames`). Properties, literals and descriptions may hold any text, since they are
made words, quoted, or taken apart at their newlines. So the code of a domain, cut at its newlines,
gives back the lines of its pieces (`Domain.lines_of_unit`).
-/

namespace Bindery

open Text Layout

/-! ## Names on one line -/

/-- What a case mapping gives is the image of a run, a character of a sequence, or the character
itself. -/
theorem Text.mem_mapCase {runs : List CaseRun} {sequences : List (Nat × List Nat)} {c d : Char}
    (h : d ∈ mapCase runs sequences c) :
    (∃ r ∈ runs, ∃ code, r.map? c.toNat = some code ∧ d = Char.ofNat code) ∨
      (∃ p ∈ sequences, ∃ code ∈ p.2, d = Char.ofNat code) ∨ d = c := by
  unfold mapCase at h
  split at h
  · rename_i code hcode
    obtain ⟨r, hr, hmap⟩ := List.exists_of_findSome?_eq_some hcode
    exact .inl ⟨r, hr, code, hmap, List.mem_singleton.mp h⟩
  · split at h
    · rename_i codes hcodes
      obtain ⟨front, back, hsplit, -⟩ := List.lookup_eq_some_iff.mp hcodes
      obtain ⟨code, hcode, rfl⟩ := List.mem_map.mp h
      exact .inr (.inl ⟨(c.toNat, codes), by simp [hsplit], code, hcode, rfl⟩)
    · exact .inr (.inr (List.mem_singleton.mp h))

theorem Text.ofNat_ne_newline {code : Nat} (h : 10 < code) : Char.ofNat code ≠ '\n' := by
  intro heq
  have hvalue := congrArg (fun c : Char => c.val.toNat) heq
  by_cases hvalid : code.isValidChar
  · have hcode : (Char.ofNat code).val.toNat = code := by
      rw [Char.ofNat, dif_pos hvalid]
      rfl
    have hnewline : '\n'.val.toNat = 10 := rfl
    omega
  · -- a code that no character has stands for the first one
    rw [Char.ofNat, dif_neg hvalid] at heq
    exact absurd heq (by decide)

/-- No other character becomes a newline in upper case. -/
theorem Text.eq_newline_of_mem_toUpper {c : Char} (h : '\n' ∈ toUpper c) : c = '\n' := by
  have hruns : ∀ r ∈ upperRuns, 10 < r.image := by decide +kernel
  have hsequences : ∀ p ∈ upperSequences, ∀ code ∈ p.2, 10 < code := by decide +kernel
  unfold toUpper at h
  split at h
  · rename_i hascii
    exact forall_ascii (p := fun c => '\n' ∈ [c.toUpper] → c = '\n') (by decide) hascii h
  · rcases mem_mapCase h with ⟨r, hr, code, hmap, heq⟩ | ⟨p, hp, code, hcode, heq⟩ | heq
    · obtain ⟨-, -, -, rfl⟩ := CaseRun.map?_eq_some hmap
      have himage := hruns r hr
      exact absurd heq.symm (ofNat_ne_newline (by omega))
    · exact absurd heq.symm (ofNat_ne_newline (hsequences p hp code hcode))
    · exact heq.symm

namespace Naming

theorem newline_not_mem_typeIdent {name : String} (h : '\n' ∉ name.toList) :
    '\n' ∉ (typeIdent name).toList := by
  rw [typeIdent, String.toList_ofList]
  cases hname : name.toList with
  | nil => exact List.not_mem_nil
  | cons c cs =>
    rw [hname, List.mem_cons, not_or] at h
    rw [typeChars, List.mem_append, not_or]
    exact ⟨fun hmem => h.1 (eq_newline_of_mem_toUpper hmem).symm, h.2⟩

theorem newline_not_mem_snakeCase {name : String} (h : '\n' ∉ name.toList) :
    '\n' ∉ (snakeCase name).toList := by
  have hlower : ∀ c, c ≠ '\n' → ∀ d ∈ toLower c, d ≠ '\n' :=
    fun c hc d hd heq => hc ((toLower_of_mem_toLower hd).2 heq)
  have hcs : ∀ c ∈ name.toList, c ≠ '\n' := fun c hc heq => h (heq ▸ hc)
  rw [snakeCase, String.toList_ofList]
  exact fun hmem => forall_mem_snakeCharsFrom (by decide) hlower hcs _ hmem rfl

theorem newline_not_mem_fnIdent {ident : String} (h : '\n' ∉ ident.toList) :
    '\n' ∉ (fnIdent ident).toList := by
  rw [fnIdent, mem_escapeKeyword (by decide)]
  exact newline_not_mem_snakeCase h

end Naming

/-- An identifier has a newline only from the names that it is made of. -/
theorem NameTable.newline_not_mem_ident {table : NameTable} {domain name : String}
    (hdomain : '\n' ∉ domain.toList) (hname : '\n' ∉ name.toList) :
    '\n' ∉ (table.ident domain name).toList := by
  have hident := Naming.newline_not_mem_typeIdent hname
  unfold ident
  split
  · simp [hdomain, hident]
  · exact hident

/-! ## Lines and layouts -/

namespace Text

/-- A text that is one line. -/
def IsLine (s : String) : Prop := '\n' ∉ s.toList

namespace IsLine

/-- A fixed text is looked through. -/
theorem lit {cs : List Char} (h : cs.contains '\n' = false) : IsLine (String.ofList cs) := by
  rw [IsLine, String.toList_ofList, ← List.contains_iff_mem, h]
  decide

theorem append {s t : String} (hs : IsLine s) (ht : IsLine t) : IsLine (s ++ t) := by
  rw [IsLine, String.toList_append, List.mem_append, not_or]
  exact ⟨hs, ht⟩

theorem quote (s : String) : IsLine (quote s) := by
  obtain ⟨body, hbody, hnewline, -⟩ := quote_form s
  rw [IsLine, hbody]
  simpa using hnewline

theorem word {s : String} (h : IsWord s) : IsLine s := h.not_mem (by decide)

end IsLine

namespace Layout

namespace OneLine

theorem line {content : String} (h : IsLine content) : OneLine (.line content) := h

theorem blank : OneLine .blank := line (.lit rfl)

theorem block {header close : String} {body : List Layout} (hheader : IsLine header)
    (hclose : IsLine close) (hbody : AllOneLine body) : OneLine (.block header close body) :=
  ⟨hheader.append (.lit rfl), IsLine.append (.lit rfl) hclose, hbody⟩

end OneLine

namespace AllOneLine

theorem append {xs ys : List Layout} (hxs : AllOneLine xs) (hys : AllOneLine ys) :
    AllOneLine (xs ++ ys) := by
  induction xs with
  | nil => exact hys
  | cons x xs ih => exact ⟨hxs.1, ih hxs.2⟩

theorem flatMap {α : Type} {f : α → List Layout} {xs : List α}
    (h : ∀ x ∈ xs, AllOneLine (f x)) : AllOneLine (xs.flatMap f) := by
  induction xs with
  | nil => trivial
  | cons x xs ih =>
    exact (h x List.mem_cons_self).append (ih fun y hy => h y (List.mem_cons_of_mem _ hy))

theorem blank : AllOneLine [.blank] := ⟨.blank, trivial⟩

theorem line {content : String} (h : IsLine content) : AllOneLine [.line content] := ⟨h, trivial⟩

theorem block {header : String} {body : List Layout} (hheader : IsLine header)
    (hbody : AllOneLine body) : AllOneLine [.block header "" body] :=
  ⟨.block hheader (.lit rfl) hbody, trivial⟩

end AllOneLine

end Layout

end Text

/-! ## Records and enumerations -/

/-- Names and types of a record are lines. -/
structure Record.OnLines (r : Record) : Prop where
  ident : IsLine r.ident
  fields : ∀ f ∈ r.fields, IsLine f.ident ∧ IsLine f.type.text

theorem Record.OnLines.withDoc {r : Record} (h : r.OnLines) (description : Option String)
    (experimental : Bool) : (r.withDoc description experimental).OnLines :=
  ⟨h.ident, h.fields⟩

theorem RecordField.allOneLine {f : RecordField} (hident : IsLine f.ident)
    (htype : IsLine f.type.text) : AllOneLine f.layout := by
  have hoptional : IsLine
      (if f.optional then ", skip_serializing_if = \"Option::is_none\"" else "") := by
    split
    · exact .lit rfl
    · exact .lit rfl
  have hattribute : IsLine f.attribute :=
    .append (.append (.append (.lit rfl) (.quote _)) hoptional) (.lit rfl)
  have hfield : IsLine s!"pub {f.ident}: {f.type.text}," :=
    .append (.append (.append (.append (.lit rfl) hident) (.lit rfl)) htype) (.lit rfl)
  exact ⟨trivial, hattribute, hfield, trivial⟩

theorem Record.OnLines.allOneLine {r : Record} (h : r.OnLines) : AllOneLine r.layout := by
  have hstart : AllOneLine [.doc .item r.description r.experimental,
      .line "#[derive(Debug, Clone, Serialize, Deserialize)]"] := ⟨trivial, .line (.lit rfl)⟩
  have hheader : IsLine s!"pub struct {r.ident}" := .append (.lit rfl) h.ident
  have hfield : ∀ f ∈ r.fields, AllOneLine f.layout := fun f hf =>
    RecordField.allOneLine (h.fields f hf).1 (h.fields f hf).2
  unfold Record.layout
  cases hfields : r.fields with
  | nil => exact hstart.append (.line (hheader.append (.lit rfl)))
  | cons first rest =>
    rw [hfields] at hfield
    have hrest : AllOneLine (rest.flatMap fun f => .blank :: f.layout) :=
      .flatMap fun f hf => ⟨.blank, hfield f (List.mem_cons_of_mem _ hf)⟩
    exact hstart.append
      ⟨.block hheader (.lit rfl) ((hfield first List.mem_cons_self).append hrest), trivial⟩

theorem Enumeration.allOneLine_layout {ident : String} (hident : IsLine ident)
    (description : Option String) (experimental : Bool) (literals : List String) :
    AllOneLine (layout ident description experimental literals) := by
  have hconstants : AllOneLine ((constants literals).map fun c => .line (constantLine c)) := by
    rw [List.map_eq_flatMap]
    refine .flatMap fun c hc => .line ?_
    exact .append (.append (.append (.append (.lit rfl) (.word (isWord_of_mem_constants hc)))
      (.lit rfl)) (.quote _)) (.lit rfl)
  have hgap : AllOneLine (if literals.isEmpty then [] else [.blank]) := by
    split
    · trivial
    · exact .blank
  have hfunction : AllOneLine [.line "/// Returns the wire literal.",
      .block "pub fn as_str(&self) -> &str" "" [.line "&self.0"]] :=
    ⟨.line (.lit rfl), .block (.lit rfl) (.lit rfl) (.line (.lit rfl)), trivial⟩
  have hstruct : IsLine s!"pub struct {ident}(pub Cow<'static, str>);" :=
    .append (.append (.lit rfl) hident) (.lit rfl)
  have himpl : IsLine s!"impl {ident}" := .append (.lit rfl) hident
  exact ⟨trivial, .line (.lit rfl), .line (.lit rfl), hstruct, .blank, .line (.lit rfl),
    .block himpl (.lit rfl) ((hconstants.append hgap).append hfunction), trivial⟩

/-! ## Commands and events -/

/-- The names that a command is generated with are lines. -/
structure CommandShape.OnLines (shape : CommandShape) : Prop where
  ident : IsLine shape.ident
  method : IsLine shape.method
  params : ∀ r ∈ shape.params, IsLine r.ident
  result : ∀ r ∈ shape.result, IsLine r.ident

namespace CommandShape.OnLines

variable {shape : CommandShape} (h : shape.OnLines)

include h

theorem blockingIdent : IsLine shape.blockingIdent := .append h.ident (.lit rfl)

theorem callbackHandleIdent : IsLine shape.callbackHandleIdent :=
  .append (.append (.lit rfl) h.ident) (.lit rfl)

theorem callbackIdent : IsLine shape.callbackIdent := .append h.ident (.lit rfl)

theorem resultType : IsLine shape.resultType := by
  unfold CommandShape.resultType
  cases hresult : shape.result with
  | none => exact .lit rfl
  | some r => exact h.result r hresult

theorem outcome : IsLine shape.outcome := by
  unfold CommandShape.outcome
  split
  · rename_i r hresult
    exact .append (.append (.lit rfl) (h.result r hresult)) (.lit rfl)
  · exact .lit rfl

theorem paramsArg {arg : String} (harg : arg ∈ shape.paramsArg) : IsLine arg := by
  unfold CommandShape.paramsArg CommandShape.paramsIdent at harg
  cases hparams : shape.params with
  | none => rw [hparams] at harg; cases harg
  | some r =>
    rw [hparams] at harg
    obtain rfl := Option.some.inj harg
    exact .append (.lit rfl) (h.params r hparams)

theorem withParamsArg {others : String} (hothers : IsLine others) :
    IsLine (shape.withParamsArg others) := by
  unfold CommandShape.withParamsArg
  split
  · rename_i arg harg
    exact .append (.append (h.paramsArg harg) (.lit rfl)) hothers
  · exact hothers

theorem paramsField : AllOneLine shape.paramsField := by
  unfold CommandShape.paramsField CommandShape.paramsIdent
  cases hparams : shape.params with
  | none => trivial
  | some r => exact .line (.append (.append (.lit rfl) (h.params r hparams)) (.lit rfl))

omit h in
theorem ifParams {ls : List Layout} (hls : AllOneLine ls) : AllOneLine (shape.ifParams ls) := by
  unfold CommandShape.ifParams
  split
  · exact hls
  · trivial

omit h in
theorem ifResult {ls : List Layout} (hls : AllOneLine ls) : AllOneLine (shape.ifResult ls) := by
  unfold CommandShape.ifResult
  split
  · exact hls
  · trivial

omit h in
theorem identity (shape : CommandShape) : AllOneLine shape.identity := by
  have hparams : IsLine
      (if shape.params.isSome then "rt::encode(&self.params).map(Some)" else "Ok(None)") := by
    split
    · exact .lit rfl
    · exact .lit rfl
  exact ⟨.block (.lit rfl) (.lit rfl) (.line (.quote _)), .blank,
    .block (.lit rfl) (.lit rfl) (.line hparams), trivial⟩

theorem blockingHandle : AllOneLine (Blocking.handle shape) := by
  have hresult : IsLine s!"result: Mutex<Option<{shape.resultType}>>," :=
    .append (.append (.lit rfl) h.resultType) (.lit rfl)
  have hlast : AllOneLine
      [.line "latch: rt::Latch,", .line "err: Mutex<Option<rt::ProtocolError>>,"] :=
    ⟨.line (.lit rfl), .line (.lit rfl), trivial⟩
  have hstored : AllOneLine
      (shape.ifResult [.line s!"result: Mutex<Option<{shape.resultType}>>,"]) :=
    ifResult (.line hresult)
  have hbody := (h.paramsField.append hstored).append hlast
  exact ⟨.line (.append (.append (.lit rfl) h.method) (.lit rfl)),
    .block (.append (.lit rfl) h.blockingIdent) (.lit rfl) hbody, trivial⟩

theorem blockingConstructor : OneLine (Blocking.constructor shape) := by
  have hargs : IsLine (shape.paramsArg.getD "") := by
    cases harg : shape.paramsArg with
    | none => exact .lit rfl
    | some arg => exact h.paramsArg harg
  have hparams : AllOneLine (shape.ifParams [.line "params,"]) := ifParams (.line (.lit rfl))
  have hresult : AllOneLine (shape.ifResult [.line "result: Mutex::new(None),"]) :=
    ifResult (.line (.lit rfl))
  refine .block (.append (.append (.lit rfl) hargs) (.lit rfl)) (.lit rfl)
    ⟨.block (.lit rfl) (.lit rfl) ((hparams.append hresult).append ?_), trivial⟩
  exact ⟨.line (.lit rfl), .line (.lit rfl), trivial⟩

omit h in
theorem blockingRunning (shape : CommandShape) : AllOneLine (Blocking.running shape) := by
  have htimeout : IsLine
      s!"return Err(rt::ProtocolError::timeout({quote shape.method}, timeout));" :=
    .append (.append (.lit rfl) (.quote _)) (.lit rfl)
  have hrun : IsLine ("pub fn run(self: &Arc<Self>, transport: &dyn rt::Transport) " ++
      "-> Result<(), rt::ProtocolError>") := .append (.lit rfl) (.lit rfl)
  have hrunTimeout : IsLine
      ("pub fn run_timeout(self: &Arc<Self>, transport: &dyn rt::Transport, " ++
        "timeout: ::std::time::Duration) -> Result<(), rt::ProtocolError>") :=
    .append (.lit rfl) (.lit rfl)
  refine ⟨.line (.lit rfl), .line (.lit rfl), .line (.lit rfl),
    .block hrun (.lit rfl) (.line (.lit rfl)), .blank, .line (.lit rfl),
    .block hrunTimeout (.lit rfl) ⟨.line (.lit rfl), .line (.lit rfl), ?_, ?_, trivial⟩, trivial⟩
  · exact .block (.lit rfl) (.lit rfl) ⟨.line (.lit rfl), .line htimeout, trivial⟩
  · exact .block (.lit rfl) (.lit rfl) ⟨.line (.lit rfl), .line (.lit rfl), trivial⟩

theorem blockingResults : AllOneLine (Blocking.results shape) := by
  have hresult : IsLine s!"pub fn result(&self) -> Option<{shape.resultType}>" :=
    .append (.append (.lit rfl) h.resultType) (.lit rfl)
  have htake : IsLine s!"pub fn take_result(&self) -> Option<{shape.resultType}>" :=
    .append (.append (.lit rfl) h.resultType) (.lit rfl)
  exact ifResult ⟨.blank, .line (.lit rfl), .block hresult (.lit rfl) (.line (.lit rfl)), .blank,
    .block htake (.lit rfl) (.line (.lit rfl)), trivial⟩

theorem blockingDone : OneLine (Blocking.done shape) := by
  have hstored : IsLine (if shape.result.isSome then
      "Ok(result) => *self.result.lock() = Some(result)," else "Ok(()) => \x7b\x7d") := by
    split
    · exact .lit rfl
    · exact .lit rfl
  exact .block (.lit rfl) (.lit rfl)
    ⟨.block (.append (.lit rfl) h.outcome) (.lit rfl) ⟨hstored, .line (.lit rfl), trivial⟩,
      .line (.lit rfl), trivial⟩

theorem blockingConvenience : AllOneLine (Blocking.convenience shape) := by
  have hargs : IsLine (shape.withParamsArg "transport: &dyn rt::Transport") :=
    h.withParamsArg (.lit rfl)
  have hheader {args : String} (hargs : IsLine args) :
      IsLine (s!"pub fn {Naming.fnIdent shape.ident}({args}) " ++
        s!"-> Result<{shape.resultType}, rt::ProtocolError>") :=
    .append (.append (.append (.append (.append (.lit rfl)
      (Naming.newline_not_mem_fnIdent h.ident)) (.lit rfl)) hargs) (.lit rfl))
      (.append (.append (.lit rfl) h.resultType) (.lit rfl))
  have hcall : IsLine (if shape.params.isSome then "new(params)" else "new()") := by
    split
    · exact .lit rfl
    · exact .lit rfl
  have hlast : IsLine (if shape.result.isSome then
      "command.take_result().ok_or(rt::ProtocolError::MissingResult)" else "Ok(())") := by
    split
    · exact .lit rfl
    · exact .lit rfl
  refine ⟨trivial, .block (hheader hargs) (.lit rfl) ⟨?_, .line (.lit rfl), hlast, trivial⟩,
    trivial⟩
  exact .line
    (.append (.append (.append (.append (.lit rfl) h.blockingIdent) (.lit rfl)) hcall) (.lit rfl))

theorem blocking : AllOneLine (Blocking.layout shape) := by
  have himpl : IsLine s!"impl {shape.blockingIdent}" := .append (.lit rfl) h.blockingIdent
  have hcommand : IsLine s!"impl rt::Command for {shape.blockingIdent}" :=
    .append (.lit rfl) h.blockingIdent
  have hmethods : AllOneLine
      ([Blocking.constructor shape, .blank] ++ Blocking.running shape ++ Blocking.results shape) :=
    .append (.append ⟨h.blockingConstructor, .blank⟩ (blockingRunning shape)) h.blockingResults
  have hidentity : AllOneLine (shape.identity ++ [.blank, Blocking.done shape]) :=
    (identity shape).append ⟨.blank, h.blockingDone, trivial⟩
  have hitself := AllOneLine.block himpl hmethods
  have hanswers := AllOneLine.block hcommand hidentity
  exact ((((((h.blockingHandle.append .blank).append hitself).append .blank).append hanswers).append
    .blank).append h.blockingConvenience).append .blank

theorem callbackType : AllOneLine (Callback.callbackType shape) := by
  have halias : IsLine (s!"pub type {shape.callbackIdent} = " ++
      s!"Box<dyn FnOnce(Result<{shape.resultType}, rt::ProtocolError>) + Send>;") :=
    .append (.append (.append (.lit rfl) h.callbackIdent) (.lit rfl))
      (.append (.append (.lit rfl) h.resultType) (.lit rfl))
  exact ⟨.line (.append (.append (.lit rfl) h.method) (.lit rfl)), halias, trivial⟩

theorem callbackHandle : AllOneLine (Callback.handle shape) := by
  have hcallback : IsLine s!"callback: Mutex<Option<{shape.callbackIdent}>>," :=
    .append (.append (.lit rfl) h.callbackIdent) (.lit rfl)
  exact ⟨.line (.append (.append (.lit rfl) h.method) (.lit rfl)),
    .block (.append (.lit rfl) h.callbackHandleIdent) (.lit rfl)
      (h.paramsField.append (.line hcallback)), trivial⟩

theorem callbackFunctions : AllOneLine (Callback.functions shape) := by
  have hothers : IsLine s!"callback: Option<{shape.callbackIdent}>" :=
    .append (.append (.lit rfl) h.callbackIdent) (.lit rfl)
  have hheader {args : String} (hargs : IsLine args) : IsLine s!"pub fn new({args}) -> Arc<Self>" :=
    .append (.append (.lit rfl) hargs) (.lit rfl)
  have hparams : AllOneLine (shape.ifParams [.line "params,"]) := ifParams (.line (.lit rfl))
  exact ⟨.block (hheader (h.withParamsArg hothers)) (.lit rfl)
      ⟨.block (.lit rfl) (.lit rfl) (hparams.append (.line (.lit rfl))), trivial⟩,
    .blank, .line (.lit rfl), .block (.lit rfl) (.lit rfl) (.line (.lit rfl)), trivial⟩

theorem callbackDone : OneLine (Callback.done shape) := by
  have houtcome : IsLine s!"let outcome = {shape.outcome};" :=
    .append (.append (.lit rfl) h.outcome) (.lit rfl)
  have hwarn : IsLine (s!"warn!(method = {quote shape.method}, error = %err, " ++
      "\"Command failed without callback\");") :=
    .append (.append (.append (.lit rfl) (.quote _)) (.lit rfl)) (.lit rfl)
  exact .block (.lit rfl) (.lit rfl) ⟨houtcome, .line (.lit rfl),
    .block (.lit rfl) (.lit rfl) ⟨.line (.lit rfl), .block (.lit rfl) (.lit rfl)
      ⟨.block (.lit rfl) (.lit rfl) (.line hwarn), trivial⟩, trivial⟩, trivial⟩

theorem callback : AllOneLine (Callback.layout shape) := by
  have himpl : IsLine s!"impl {shape.callbackHandleIdent}" :=
    .append (.lit rfl) h.callbackHandleIdent
  have hcommand : IsLine s!"impl rt::Command for {shape.callbackHandleIdent}" :=
    .append (.lit rfl) h.callbackHandleIdent
  have hidentity : AllOneLine (shape.identity ++ [.blank, Callback.done shape]) :=
    (identity shape).append ⟨.blank, h.callbackDone, trivial⟩
  have hitself := (AllOneLine.block himpl h.callbackFunctions).append .blank
  have hanswers := AllOneLine.block hcommand hidentity
  exact (((((h.callbackType.append .blank).append h.callbackHandle).append .blank).append
    hitself).append hanswers).append .blank

end CommandShape.OnLines

theorem Event.allOneLine_registration {ident recordIdent method : String} (hident : IsLine ident)
    (hrecord : IsLine recordIdent) (hmethod : IsLine method) :
    AllOneLine (registration ident recordIdent method) := by
  have hheader : IsLine (s!"pub fn on_{Naming.snakeCase ident}<F>" ++
      "(transport: &dyn rt::Transport, callback: F) " ++
        s!"where F: Fn({recordIdent}) + Send + Sync + 'static") :=
    .append (.append (.append (.append (.lit rfl) (Naming.newline_not_mem_snakeCase hident))
      (.lit rfl)) (.lit rfl)) (.append (.append (.lit rfl) hrecord) (.lit rfl))
  have hmalformed : IsLine (s!"Err(err) => warn!(event = {quote method}, error = %err, " ++
      "\"Dropping malformed event\"),") :=
    .append (.append (.append (.lit rfl) (.quote _)) (.lit rfl)) (.lit rfl)
  have hbox : IsLine ("Box::new(move |params: &RawValue| " ++
      s!"match rt::decode::<{recordIdent}>(params)") :=
    .append (.lit rfl) (.append (.append (.lit rfl) hrecord) (.lit rfl))
  have hquoted : IsLine s!"{quote method}," := .append (.quote _) (.lit rfl)
  have hopen : IsLine "transport.add_event_sink(" := .lit rfl
  have hclose : IsLine ");" := .lit rfl
  exact ⟨.line (.append (.append (.lit rfl) hmethod) (.lit rfl)), .line (.lit rfl),
    .line (.lit rfl), .block hheader (.lit rfl) ⟨⟨hopen, hclose, hquoted,
      .block hbox (.lit rfl) ⟨.line (.lit rfl), hmalformed, trivial⟩, trivial⟩, trivial⟩, trivial⟩

/-! ## Declarations -/

/-- The names in a domain that identifiers are made of hold no newline: its own, and those of its
types, commands and events. -/
structure Domain.HasLineNames (d : Domain) : Prop where
  name : IsLine d.name
  declared : ∀ name ∈ d.declaredNames, IsLine name

/-- No type that can be referred to has a newline in its name or in that of its domain. -/
def NameTable.OnLines (table : NameTable) : Prop :=
  ∀ p ∈ table.declared, IsLine p.1 ∧ IsLine p.2

theorem NameTable.onLines_build {domains : List Domain} (h : ∀ d ∈ domains, d.HasLineNames) :
    (build domains).OnLines := by
  intro p hp
  obtain ⟨d, hd, t, ht, rfl⟩ := mem_declared_build.mp hp
  exact ⟨(h d hd).name, (h d hd).declared _ (Domain.name_mem_declaredNames_of_type ht)⟩

theorem CodeType.isLine_ofShape {table : NameTable} (htable : table.OnLines)
    {domain declaration : String} :
    ∀ {shape : Shape} {type : CodeType}, ofShape? table domain declaration shape = .ok type →
      IsLine type.text
  | .primitive kind, type, h => by
    obtain rfl := Except.ok.inj h
    cases kind <;> exact .lit rfl
  | .enumeration _, type, h => by
    obtain rfl := Except.ok.inj h
    exact .lit rfl
  | .composite _, type, h => by
    obtain rfl := Except.ok.inj h
    exact .lit rfl
  | .array items, type, h => by
    rw [ofShape?] at h
    obtain ⟨inner, hinner, h⟩ := Except.bind_eq_ok_iff.mp h
    obtain rfl := Except.ok.inj h
    exact .append (.append (.lit rfl) (isLine_ofShape htable hinner)) (.lit rfl)
  | .reference target, type, h => by
    rw [ofShape?] at h
    cases hresolve : table.resolve? domain target with
    | none => rw [hresolve] at h; cases h
    | some p =>
      rw [hresolve] at h
      -- the target may hold anything, but it is spelled by the names that are declared
      obtain ⟨howner, hname⟩ := htable p (NameTable.mem_declared_of_resolve? hresolve)
      have hident : IsLine (table.ident p.1 p.2) := NameTable.newline_not_mem_ident howner hname
      obtain rfl := Except.ok.inj h
      split
      · exact hident
      · exact .append (.append (.lit rfl) hident) (.lit rfl)

section

variable {table : NameTable} (htable : table.OnLines) {domain : String}
  (hdomain : IsLine domain)

include htable

theorem Record.onLines_of_properties {ident declaration : String} (hident : IsLine ident)
    {properties : List Property} {record : Record}
    (h : ofProperties? table domain ident declaration properties = .ok record) :
    record.OnLines := by
  obtain ⟨fields, hfields, rfl⟩ := ofProperties?_eq_ok h
  refine ⟨hident, fun f hf => ?_⟩
  obtain ⟨p, -, hcarries⟩ := exists_of_forall₂_of_mem (forall₂_carries hfields) hf
  -- the name of a property is made a word, whatever it holds
  refine ⟨.word hcarries.ident, ?_⟩
  obtain ⟨type, htype, h⟩ := Except.bind_eq_ok_iff.mp hcarries.type
  have hline := CodeType.isLine_ofShape htable htype
  rw [← Except.ok.inj h]
  split
  · exact .append (.append (.lit rfl) hline) (.lit rfl)
  · exact hline

theorem Command.onLines_of_record {c : Command} {ident title : String}
    (hident : IsLine ident) {properties : List Property} {record : Option Record}
    (h : c.record? table domain ident title properties = .ok record) :
    ∀ r ∈ record, r.OnLines := by
  rcases record?_eq_ok h with ⟨-, rfl⟩ | ⟨-, made, hmade, rfl⟩
  · intro r hr
    cases hr
  · intro r hr
    obtain rfl := Option.some.inj hr
    exact (Record.onLines_of_properties htable hident hmade).withDoc _ _

include hdomain

theorem TypeDecl.allOneLine_piece {t : TypeDecl} (hname : IsLine t.name) {piece : Piece}
    (h : t.piece? table domain = .ok piece) : AllOneLine piece.layout := by
  have hident : IsLine (table.ident domain t.name) := NameTable.newline_not_mem_ident hdomain hname
  rcases piece?_eq_ok h with ⟨literals, -, hlayout⟩ | ⟨_, record, -, hrecord, hlayout⟩ |
    ⟨type, -, -, htype, hlayout⟩
  · rw [hlayout]
    exact (Enumeration.allOneLine_layout hident _ _ _).append .blank
  · have hrecord := Record.onLines_of_properties htable hident hrecord
    rw [hlayout]
    exact (hrecord.withDoc _ _).allOneLine.append .blank
  · have halias : IsLine s!"pub type {table.ident domain t.name} = {type.text};" :=
      .append (.append (.append (.append (.lit rfl) hident) (.lit rfl))
        (CodeType.isLine_ofShape htable htype)) (.lit rfl)
    rw [hlayout]
    exact ⟨trivial, halias, .blank⟩

omit htable in
/-- The name of a declaration in messages is a line. -/
theorem isLine_method {name : String} (hname : IsLine name) : IsLine s!"{domain}.{name}" :=
  .append (.append hdomain (.lit rfl)) hname

theorem Command.allOneLine_piece {c : Command} (hname : IsLine c.name) {piece : Piece}
    (h : c.piece? table domain = .ok piece) : AllOneLine piece.layout := by
  obtain ⟨params, result, hparams, hresult, hlayout⟩ := piece?_eq_ok h
  have hident : IsLine (table.ident domain c.name) := NameTable.newline_not_mem_ident hdomain hname
  have hparams := onLines_of_record htable (hident.append (.lit rfl)) hparams
  have hresult := onLines_of_record htable (hident.append (.lit rfl)) hresult
  have hshape : (c.shapeWith table domain params result).OnLines :=
    ⟨hident, isLine_method hdomain hname, fun r hr => (hparams r hr).ident,
      fun r hr => (hresult r hr).ident⟩
  have hrecords : ∀ r ∈ params.toList ++ result.toList, r.OnLines := by
    intro r hr
    rcases List.mem_append.mp hr with hr | hr
    · exact hparams r (Option.mem_toList.mp hr)
    · exact hresult r (Option.mem_toList.mp hr)
  rw [hlayout]
  refine ((AllOneLine.flatMap fun r hr => ?_).append hshape.blocking).append hshape.callback
  exact (hrecords r hr).allOneLine.append .blank

theorem Event.allOneLine_piece {e : Event} (hname : IsLine e.name) {piece : Piece}
    (h : e.piece? table domain = .ok piece) : AllOneLine piece.layout := by
  obtain ⟨record, hrecord, hlayout⟩ := piece?_eq_ok h
  have hident : IsLine (table.ident domain e.name) := NameTable.newline_not_mem_ident hdomain hname
  have hevent : IsLine s!"{table.ident domain e.name}Event" := hident.append (.lit rfl)
  have hrecord := Record.onLines_of_properties htable hevent hrecord
  have hregistration := allOneLine_registration hident hevent (isLine_method hdomain hname)
  rw [hlayout]
  exact (((hrecord.withDoc _ _).allOneLine.append .blank).append hregistration).append .blank

end

theorem Declaration.allOneLine_piece {table : NameTable} (htable : table.OnLines) {d : Domain}
    (hd : d.HasLineNames) {x : Declaration} (hx : x ∈ d.declarations) {piece : Piece}
    (h : x.piece? table d.name = .ok piece) : AllOneLine piece.layout := by
  have hname := hd.declared x.name (Domain.name_mem_declaredNames hx)
  cases x with
  | type decl => exact decl.allOneLine_piece htable hd.name hname h
  | command decl => exact decl.allOneLine_piece htable hd.name hname h
  | event decl => exact decl.allOneLine_piece htable hd.name hname h

/-- **The lines of a unit are those of its pieces.** Let the names that identifiers are made of hold
no newline. Then the body of a domain, cut at its newlines, is the lines of the pieces that its
declarations make, one after the other, and an empty line behind the last newline. -/
theorem Domain.lines_of_unit {domains : List Domain} (h : ∀ d ∈ domains, d.HasLineNames)
    {d : Domain} (hd : d ∈ domains) {s : Selection} {u : DomainUnit}
    (hunit : d.unit? (NameTable.build domains) s = .ok u) :
    ∃ pieces,
      List.Forall₂
        (fun x piece => Declaration.piece? (NameTable.build domains) d.name x = .ok piece)
        (d.declarations.filter (s.includes ·.experimental)) pieces ∧
      (splitNewlines u.body.toList).map String.ofList = pieces.flatMap (·.lines) ++ [""] := by
  obtain ⟨pieces, hpieces, rfl⟩ := Domain.unit?_eq_ok_iff.mp hunit
  have hall : AllOneLine (pieces.flatMap (·.layout)) := by
    refine .flatMap fun piece hpiece => ?_
    obtain ⟨x, hx, hpiece⟩ := exists_of_forall₂_of_mem hpieces hpiece
    have hmem := (List.mem_filter.mp hx).1
    exact Declaration.allOneLine_piece (NameTable.onLines_build h) (h d hd) hmem hpiece
  refine ⟨pieces, hpieces, ?_⟩
  show (splitNewlines (textAll 0 _).toList).map String.ofList = _
  rw [textAll_eq_joinLines, map_splitNewlines_joinLines hall.newline_not_mem, Piece.flatMap_lines]

end Bindery
