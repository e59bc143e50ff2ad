import Bindery.Proofs.Json.Filling
import Bindery.Proofs.Session.Moves
import Bindery.Proofs.Session.Outcomes

/-!
# What is read as a frame

The frames that go out, and those that come in as the protocol writes them, are read as what they
say, with parameters and results as they are written (`Incoming.envelopes_read_back`).

A frame should be an object, but a record may be written as an array as well, and all fields of a
frame have defaults. So an array is read as a frame if its values suit the fields in front
(`Incoming.exists_readItems_iff`); every other text that is no object is refused, and nothing comes
of it in any world (`World.dropped_iff_lists_no_frame`).
-/

namespace Bindery.Session

open Bindery.Json

/-! ## Frames as they are written -/

/-- The frame of a result. -/
def responseText (id : UInt64) (result : RawText) : String :=
  "\x7b\"id\":" ++ toString id.toNat ++ ",\"result\":" ++ result.text ++ "\x7d"

/-- The frame of a failure; `message` is a JSON string. -/
def failureText (id : UInt64) (code : Int64) (message : String) : String :=
  "\x7b\"id\":" ++ toString id.toNat ++ ",\"error\":\x7b\"code\":" ++ toString code.toInt ++
    ",\"message\":" ++ message ++ "\x7d\x7d"

/-- The frame of an event; `method` is a JSON string. -/
def eventText (method : String) (params : RawText) : String :=
  "\x7b\"method\":" ++ method ++ ",\"params\":" ++ params.text ++ "\x7d"

namespace Incoming

theorem read_id (scope : Scope) (id : UInt64) :
    decodeOption (fun scope doc => UInt64.ofNat <$> decodeWord scope doc) scope
      (.number (intChars id.toNat)) = .ok (some id) := by
  refine decodeOption_of_ne_null (by simp) ?_
  rw [decodeWord_intChars]
  exact congrArg Except.ok UInt64.ofNat_toNat

theorem read_method {scope : Scope} {body : List Char} {method : String}
    (h : unescape body = some method.toList) :
    decodeOption decodeString scope (.string body) = .ok (some method) :=
  decodeOption_of_ne_null (by simp) (decodeString_body h)

theorem read_raw {raw : RawText} (h : raw.IsValue) (scope : Scope) :
    decodeOption decodeRaw scope raw.doc = .ok (some raw) :=
  decodeOption_of_ne_null h.doc_spec.2.1 (decodeRaw_doc h scope)

/-- The document of an error. -/
def errorDoc (code : Int64) (message : List Char) : Doc :=
  .object (.ofList true [("code", .number (intChars code.toInt)), ("message", .string message)])

theorem read_error {code : Int64} {body : List Char} {message : String} {room : Nat}
    (h : unescape body = some message.toList) :
    decodeOption RemoteError.form.decode (.streamed (room + 1)) (errorDoc code body) =
      .ok (some ⟨code, message⟩) := by
  have hcode : (fun scope doc => Int64.ofInt <$> decodeInt scope doc) (.streamed room)
      (.number (intChars code.toInt)) = Except.ok code := by
    show Int64.ofInt <$> decodeInt _ _ = _
    rw [decodeInt_intChars]
    exact congrArg Except.ok code.ofInt_toInt
  have hfilled : RecordForm.Filled (.streamed room) RemoteError.form.fields
      [("code", some (.number (intChars code.toInt))), ("message", some (.string body))]
      RemoteError.form.initial ⟨code, message⟩ :=
    .required hcode (.required (decodeString_body h) (.nil _))
  exact decodeOption_of_ne_null (by simp [errorDoc])
    (RecordForm.decode_filled (by decide) rfl hfilled)

/-- A text is read as the frame that its members make. -/
theorem parse_filled {entries : List (String × Option Doc)} {frame : Incoming} {text : String}
    (h : RecordForm.Filled (.streamed 126) form.fields entries {} frame)
    (hwellFormed : ∀ doc ∈ (present entries).map (·.2), doc.WellFormed)
    (htext : text.toList =
      objectChars ((present entries).map fun entry => (entry.1, entry.2.text))) :
    parse text = .ok frame :=
  Except.mapError_eq_ok_iff.mpr (RecordForm.decodeText_filled nodup_form h hwellFormed htext)

/-- **A request is read back.** -/
theorem parse_request {r : Request} (h : ∀ params, r.params = some params → params.IsValue) :
    parse r.text = .ok { id := some r.id, method := some r.method, params := r.params } := by
  obtain ⟨id, method, params⟩ := r
  have hfilled : RecordForm.Filled (.streamed 126) form.fields
      [("id", some (.number (intChars id.toNat))), ("error", none), ("result", none),
        ("method", some (.string (escape method.toList))), ("params", params.map RawText.doc)] {}
      { id := some id, method := some method, params } :=
    .required (read_id _ id) (.absent (by decide) (.absent (by decide)
      (.required (read_method (unescape_escape _)) (.optional (by decide) rfl
        (fun raw hraw => read_raw (h raw hraw) _) (.nil _)))))
  have hnumber : (Doc.number (intChars id.toNat)).WellFormed := isNumber_intChars _
  have hstring : (Doc.string (escape method.toList)).WellFormed := isBody_escape _
  cases params with
  | none =>
    exact parse_filled hfilled (List.forall_mem_cons.mpr
      ⟨hnumber, List.forall_mem_singleton.mpr hstring⟩) String.toList_ofList
  | some raw =>
    obtain ⟨hraw, -, htext⟩ := (h raw rfl).doc_spec
    refine parse_filled hfilled (List.forall_mem_cons.mpr ⟨hnumber, List.forall_mem_cons.mpr
      ⟨hstring, List.forall_mem_singleton.mpr hraw⟩⟩) (String.toList_ofList.trans ?_)
    show _ = objectChars [_, _, ("params", raw.doc.text)]
    rw [htext]
    rfl

/-- **The frame of a result is the response that brings it.** -/
theorem message_responseText (id : UInt64) {result : RawText} (h : result.IsValue) :
    message? <$> parse (responseText id result) = .ok (some (.response id (.ok result))) := by
  obtain ⟨hresult, -, htext⟩ := h.doc_spec
  have hfilled : RecordForm.Filled (.streamed 126) form.fields
      [("id", some (.number (intChars id.toNat))), ("error", none), ("result", some result.doc),
        ("method", none), ("params", none)] {} { id := some id, result := some result } :=
    .required (read_id _ id) (.absent (by decide) (.required (read_raw h _)
      (.absent (by decide) (.absent (by decide) (.nil _)))))
  have hchars : (responseText id result).toList =
      objectChars [("id", intChars id.toNat), ("result", result.doc.text)] := by
    rw [htext, intChars_ofNat, responseText, String.toList_append, String.toList_append,
      String.toList_append, String.toList_append, natChars_eq]
    simp [objectChars, commaChars, memberChars, stringChars, escape, escapeChar, RawText.chars]
  have hnumber : (Doc.number (intChars id.toNat)).WellFormed := isNumber_intChars _
  rw [parse_filled hfilled (List.forall_mem_cons.mpr
    ⟨hnumber, List.forall_mem_singleton.mpr hresult⟩) hchars]
  rfl

/-- **The frame of an error with a message is the response that fails.** -/
theorem message_failureText (id : UInt64) (code : Int64) {message : String} {text : String}
    (hspells : Spells text.toList message) (hmessage : message ≠ "") :
    message? <$> parse (failureText id code text) =
      .ok (some (.response id (.error (.remote code message)))) := by
  obtain ⟨body, hbody, hunescape, htext⟩ := hspells
  have hfilled : RecordForm.Filled (.streamed 126) form.fields
      [("id", some (.number (intChars id.toNat))), ("error", some (errorDoc code body)),
        ("result", none), ("method", none), ("params", none)] {}
      { id := some id, error := some ⟨code, message⟩ } :=
    .required (read_id _ id) (.required (read_error hunescape) (.absent (by decide)
      (.absent (by decide) (.absent (by decide) (.nil _)))))
  have hnumber (n : Int) : (Doc.number (intChars n)).WellFormed := isNumber_intChars n
  have hstring : (Doc.string body).WellFormed := hbody
  have herror : (errorDoc code body).WellFormed := by
    refine Members.wellFormed_ofList ?_ true
    rw [List.forall_mem_cons, List.forall_mem_singleton]
    exact ⟨hnumber _, hstring⟩
  have hcodeChars : (toString code.toInt).toList = intChars code.toInt := rfl
  have herrorText : (errorDoc code body).text =
      objectChars [("code", intChars code.toInt), ("message", '"' :: body ++ ['"'])] :=
    Members.text_object _
  have hchars : (failureText id code text).toList =
      objectChars [("id", intChars id.toNat), ("error", (errorDoc code body).text)] := by
    rw [herrorText, intChars_ofNat, failureText]
    simp only [String.toList_append, natChars_eq, hcodeChars, htext]
    simp [objectChars, commaChars, memberChars, stringChars, escape, escapeChar]
  have hsettled : message.isEmpty = false := by
    simpa using hmessage
  rw [parse_filled hfilled (List.forall_mem_cons.mpr
    ⟨hnumber _, List.forall_mem_singleton.mpr herror⟩) hchars]
  show Except.ok (some (Message.response id (if message.isEmpty then _ else _))) = _
  rw [hsettled]
  rfl

/-- **The frame of a method without an id is the event of this name.** -/
theorem message_eventText {method : String} {text : String} (hspells : Spells text.toList method)
    {params : RawText} (h : params.IsValue) :
    message? <$> parse (eventText text params) = .ok (some (.event method params)) := by
  obtain ⟨body, hbody, hunescape, htext⟩ := hspells
  obtain ⟨hparams, -, hparamsText⟩ := h.doc_spec
  have hfilled : RecordForm.Filled (.streamed 126) form.fields
      [("id", none), ("error", none), ("result", none), ("method", some (.string body)),
        ("params", some params.doc)] {} { method := some method, params := some params } :=
    .absent (by decide) (.absent (by decide) (.absent (by decide)
      (.required (read_method hunescape) (.required (read_raw h _) (.nil _)))))
  have hchars : (eventText text params).toList =
      objectChars [("method", '"' :: body ++ ['"']), ("params", params.doc.text)] := by
    rw [hparamsText, eventText]
    simp only [String.toList_append, htext]
    simp [objectChars, commaChars, memberChars, stringChars, escape, escapeChar, RawText.chars]
  have hmethod : (Doc.string body).WellFormed := hbody
  rw [parse_filled hfilled (List.forall_mem_cons.mpr
    ⟨hmethod, List.forall_mem_singleton.mpr hparams⟩) hchars]
  rfl

/-- **What is written into a frame is what is read from it**: ids, codes, names and messages, and
the texts of parameters and results as they stand. -/
theorem envelopes_read_back :
    (∀ (id : UInt64) (method : String) (params : Option RawText),
      (∀ raw, params = some raw → raw.IsValue) →
        parse (Request.text ⟨id, method, params⟩) =
          .ok { id := some id, method := some method, params }) ∧
      (∀ (id : UInt64) (result : RawText), result.IsValue →
        message? <$> parse (responseText id result) = .ok (some (.response id (.ok result)))) ∧
      (∀ (id : UInt64) (code : Int64) (message text : String), Spells text.toList message →
        message ≠ "" → message? <$> parse (failureText id code text) =
          .ok (some (.response id (.error (.remote code message))))) ∧
      ∀ (method text : String) (params : RawText), Spells text.toList method → params.IsValue →
        message? <$> parse (eventText text params) = .ok (some (.event method params)) :=
  ⟨fun _ _ _ h => parse_request h, fun id _ h => message_responseText id h,
    fun id code _ _ hspells hmessage => message_failureText id code hspells hmessage,
    fun _ _ _ hspells h => message_eventText hspells h⟩

theorem envelopes_read_back_escaped :
    parse (Request.text ⟨18446744073709551615, "a\"\n", some ⟨"[1 ,null]"⟩⟩) =
        .ok { id := some 18446744073709551615, method := some "a\"\n",
              params := some ⟨"[1 ,null]"⟩ } ∧
      message? <$> parse (responseText 0 ⟨"[1 ,null]"⟩) =
        .ok (some (.response 0 (.ok ⟨"[1 ,null]"⟩))) ∧
      message? <$> parse (failureText 0 (-9223372036854775808) (stringText "a\"\n")) =
        .ok (some (.response 0 (.error (.remote (-9223372036854775808) "a\"\n")))) ∧
      message? <$> parse (eventText "\"\\u0041\"" ⟨"[1 ,null]"⟩) =
        .ok (some (.event "A" ⟨"[1 ,null]"⟩)) := by
  have hraw : (⟨"[1 ,null]"⟩ : RawText).IsValue := by decide +kernel
  have hspells : Spells "\"\\u0041\"".toList "A" :=
    ⟨['\\', 'u', '0', '0', '4', '1'], .unit (by decide) .nil, by decide, by decide⟩
  obtain ⟨hrequest, hresponse, hfailure, hevent⟩ := envelopes_read_back
  exact ⟨hrequest _ _ _ fun raw h => Option.some.inj h ▸ hraw, hresponse 0 _ hraw,
    hfailure 0 _ _ _ (spells_stringText _) (by decide), hevent _ _ _ hspells hraw⟩

end Incoming

/-! ## Texts that are no objects -/

/-- The text is a JSON object, with white space around it. -/
def IsObjectText (text : String) : Prop := ∃ members, IsTextOf text (.object members)

/-- The values of an array stand for the fields of a frame in front, in their order: an id, an
error, a result, a method and parameters, or null for any of them. -/
structure ListsFrame (items : Items) : Prop where
  count : RecordForm.countItems items ≤ 5
  id {value : Doc} (h : items.value? 0 = some value) :
    value = .null ∨ ∃ n, decodeWord (.streamed 126) value = .ok n
  error {value : Doc} (h : items.value? 1 = some value) :
    value = .null ∨ ∃ e, RemoteError.form.decode (.streamed 126) value = .ok e
  method {value : Doc} (h : items.value? 3 = some value) :
    value = .null ∨ ∃ m, decodeString (.streamed 126) value = .ok m

theorem exists_decodeOption_iff {α : Type} {decode : Decoder α} {scope : Scope} {doc : Doc} :
    (∃ x, decodeOption decode scope doc = .ok x) ↔
      doc = .null ∨ ∃ x, decode scope doc = .ok x := by
  by_cases hnull : doc = .null
  · subst hnull
    exact ⟨fun _ => .inl rfl, fun _ => ⟨none, rfl⟩⟩
  · constructor
    · rintro ⟨x, hx⟩
      rcases decodeOption_eq_ok_iff.mp hx with ⟨hdoc, -⟩ | ⟨-, a, ha, -⟩
      · exact .inl hdoc
      · exact .inr ⟨a, ha⟩
    · rintro (hdoc | ⟨a, ha⟩)
      · exact absurd hdoc hnull
      · exact ⟨some a, decodeOption_of_ne_null hnull ha⟩

theorem isSound_of_value? {items : Items} (hsound : items.isSound = true) {i : Nat} {value : Doc}
    (h : items.value? i = some value) : value.isSound = true := by
  induction i generalizing items with
  | zero =>
    cases items with
    | item sep first rest =>
      obtain rfl : first = value := Option.some.inj h
      exact (Bool.and_eq_true_iff.mp hsound).1
    | _ => cases h
  | succ i ih =>
    cases items with
    | item sep first rest => exact ih (Bool.and_eq_true_iff.mp hsound).2 h
    | _ => cases h

namespace Incoming

theorem defaulted_form : ∀ field ∈ form.fields, field.presence = .defaulted := by decide

theorem steady_form : ∀ field ∈ form.fields, field.Steady := by
  intro field hfield
  simp only [form, List.mem_cons, List.not_mem_nil, or_false] at hfield
  rcases hfield with rfl | rfl | rfl | rfl | rfl
  all_goals exact Field.of_steady

/-- **Which arrays are read as frames.** -/
theorem exists_readItems_iff {items : Items} (hsound : items.isSound = true) :
    (∃ frame, form.readItems (.streamed 126) 0 {} form.fields items = .ok frame) ↔
      ListsFrame items := by
  rw [RecordForm.exists_readItems_iff defaulted_form steady_form hsound 0 {} {}]
  constructor
  · rintro ⟨hcount, htakes⟩
    refine ⟨hcount, fun {value} h => ?id, fun {value} h => ?error, fun {value} h => ?method⟩
    case id =>
      rcases exists_decodeOption_iff.mp (Field.of_takes_iff.mp (htakes 0 _ value rfl h)) with
        hnull | ⟨x, hx⟩
      · exact .inl hnull
      · obtain ⟨n, hn, -⟩ := map_eq_ok_iff.mp hx
        exact .inr ⟨n, hn⟩
    case error =>
      exact exists_decodeOption_iff.mp (Field.of_takes_iff.mp (htakes 1 _ value rfl h))
    case method =>
      exact exists_decodeOption_iff.mp (Field.of_takes_iff.mp (htakes 3 _ value rfl h))
  · intro h
    refine ⟨h.count, fun i field value hfield hvalue => ?_⟩
    -- results and parameters are kept as they stand, whatever they are
    have hraw : ∃ x, decodeOption decodeRaw (.streamed 126) value = .ok x :=
      exists_decodeOption_iff.mpr
        (.inr ⟨_, decodeRaw_eq_ok_iff.mpr ⟨isSound_of_value? hsound hvalue, rfl⟩⟩)
    rcases i with _ | _ | _ | _ | _ | i
    case zero =>
      obtain rfl := Option.some.inj hfield
      refine Field.of_takes_iff.mpr (exists_decodeOption_iff.mpr ?_)
      exact (h.id hvalue).imp_right fun ⟨n, hn⟩ => ⟨_, map_eq_ok_iff.mpr ⟨n, hn, rfl⟩⟩
    case succ.zero =>
      obtain rfl := Option.some.inj hfield
      exact Field.of_takes_iff.mpr (exists_decodeOption_iff.mpr (h.error hvalue))
    case succ.succ.zero =>
      obtain rfl := Option.some.inj hfield
      exact Field.of_takes_iff.mpr hraw
    case succ.succ.succ.zero =>
      obtain rfl := Option.some.inj hfield
      exact Field.of_takes_iff.mpr (exists_decodeOption_iff.mpr (h.method hvalue))
    case succ.succ.succ.succ.zero =>
      obtain rfl := Option.some.inj hfield
      exact Field.of_takes_iff.mpr hraw
    case succ.succ.succ.succ.succ => cases hfield

/-- A text that is no object is read as a frame if it is an array that lists one. -/
theorem exists_parse_iff {text : String} (hobject : ¬ IsObjectText text) :
    (∃ frame, parse text = .ok frame) ↔
      ∃ items, IsTextOf text (.array items) ∧ ListsFrame items := by
  constructor
  · rintro ⟨frame, hparse⟩
    have hdecode : decodeText form.decode text = .ok frame := Except.mapError_eq_ok_iff.mp hparse
    obtain ⟨hread, hended⟩ := decodeText_eq_ok_iff.mp hdecode
    have hsound := form_strict _ _ _ hread
    have hwhole : IsTextOf text (Json.parse text).doc := isTextOf_iff.mpr ⟨rfl, hended, hsound⟩
    -- the decoder takes objects and arrays only, and an object it is not
    generalize (Json.parse text).doc = doc at hread hsound hwhole
    cases doc with
    | array items =>
      exact ⟨items, hwhole, (exists_readItems_iff hsound).mp ⟨frame, hread⟩⟩
    | object members => exact absurd ⟨members, hwhole⟩ hobject
    | _ => exact absurd hread wrongType_ne_ok
  · rintro ⟨items, hwhole, hlists⟩
    obtain ⟨frame, hread⟩ := (exists_readItems_iff hwhole.1.isSound).mpr hlists
    exact ⟨frame, Except.mapError_eq_ok_iff.mpr (hwhole.decodeText hread)⟩

/-- A text that is read as no frame is refused as one that cannot be decoded. -/
theorem exists_fault_iff {text : String} :
    (∃ fault, parse text = .error (.decode fault)) ↔ ¬ ∃ frame, parse text = .ok frame := by
  unfold parse
  cases decodeText form.decode text with
  | ok frame =>
    refine ⟨?_, fun h => absurd ⟨frame, rfl⟩ h⟩
    rintro ⟨fault, h⟩
    cases h
  | error fault =>
    refine ⟨?_, fun _ => ⟨fault, rfl⟩⟩
    rintro - ⟨frame, h⟩
    cases h

end Incoming

namespace World

/-- A call that receives the text ends with this: the dispatcher is as it was, and no task follows,
so that nobody is told of anything. -/
def Drops (w : World) (text : String) : Prop :=
  ∀ i rest answer nested, w.calls[i]? = some (.receive text :: rest) →
    ∃ w', w.advance i answer nested = some w' ∧ w'.dispatcher = w.dispatcher ∧
      w'.calls = w.calls.set i rest

theorem drops_of_parse {text : String} {e : ProtocolError} (h : Incoming.parse text = .error e)
    (w : World) : w.Drops text := by
  intro i rest answer nested hcall
  have hstep : w.dispatcher.step answer (.receive text) =
      { dispatcher := w.dispatcher
        warnings := [⟨"Failed to parse incoming frame", [("error", .text e.logText)]⟩] } := by
    show w.dispatcher.receive text = _
    rw [Dispatcher.receive, h]
  unfold advance
  simp only [hcall, hstep]
  exact ⟨_, rfl, rfl, rfl⟩

/-- **Which texts that are no objects do nothing**: all but the arrays that list a frame. -/
theorem dropped_iff_lists_no_frame {text : String} (hobject : ¬ IsObjectText text) :
    ((∃ fault, Incoming.parse text = .error (.decode fault)) ∧
        ∀ w : World, w.Reachable → w.Drops text) ↔
      ¬ ∃ items, IsTextOf text (.array items) ∧ ListsFrame items := by
  rw [← Incoming.exists_parse_iff hobject, ← Incoming.exists_fault_iff]
  constructor
  · exact fun h => h.1
  · rintro ⟨fault, hparse⟩
    exact ⟨⟨fault, hparse⟩, fun w _ => drops_of_parse hparse w⟩

theorem not_isObjectText {text : String} {items : Items} (h : IsTextOf text (.array items)) :
    ¬ IsObjectText text := by
  rintro ⟨members, hobject⟩
  have heq := (isTextOf_iff.mp h).1.symm.trans (isTextOf_iff.mp hobject).1
  cases heq

/-- An array in which a number stands for the error. -/
theorem dropped_pair_of_numbers :
    (∃ fault, Incoming.parse "[1,2]" = .error (.decode fault)) ∧
      ∀ w : World, w.Reachable → w.Drops "[1,2]" := by
  have hwhole : IsTextOf "[1,2]"
      (.array (.ofList true [.number (intChars 1), .number (intChars 2)])) := by
    refine Doc.WellFormed.isTextOf (Items.wellFormed_ofList ?_ true) (by decide)
    rw [List.forall_mem_cons, List.forall_mem_singleton]
    exact ⟨isNumber_intChars 1, isNumber_intChars 2⟩
  refine (dropped_iff_lists_no_frame (not_isObjectText hwhole)).mpr ?_
  rintro ⟨items, hitems, hlists⟩
  obtain rfl := Doc.array.inj ((isTextOf_iff.mp hwhole).1.symm.trans (isTextOf_iff.mp hitems).1)
  rcases hlists.error rfl with hnull | ⟨e, he⟩
  · cases hnull
  · exact wrongType_ne_ok he

/-- A world in which a command awaits the response of id 1 and a frame arrives that is an array of
this id. -/
def listedWorld : World :=
  (fresh 1).after [.start (.submit ⟨0, "DOM.get"⟩), .advance 0 {} [], .advance 0 {} [],
    .advance 0 {} [], .advance 0 {} [], .advance 0 {} [], .start (.receive "[1]")]

/-- An array that lists a frame is no object, but it is read, and its response goes on. -/
theorem not_forall_dropped :
    (¬ ∀ text, ¬ IsObjectText text → ∃ fault, Incoming.parse text = .error (.decode fault)) ∧
      ¬ ∀ text, ¬ IsObjectText text → ∀ w : World, w.Reachable → w.Drops text := by
  have hwhole : IsTextOf "[1]" (.array (.ofList true [.number (intChars 1)])) := by
    refine Doc.WellFormed.isTextOf (Items.wellFormed_ofList ?_ true) (by decide)
    exact List.forall_mem_singleton.mpr (isNumber_intChars 1)
  have hobject := not_isObjectText hwhole
  constructor
  · intro h
    obtain ⟨fault, hfault⟩ := h _ hobject
    have hread : (Incoming.parse "[1]").toBool = true := by decide +kernel
    rw [hfault] at hread
    cases hread
  · intro h
    have hcall : listedWorld.calls[1]? = some [.receive "[1]"] := rfl
    obtain ⟨w', hadvance, -, hcalls⟩ := h _ hobject listedWorld ⟨1, run_after _ _⟩ 1 [] {} [] hcall
    have hnext : (listedWorld.advance 1 {} []).map (·.tasks.length) = some 1 := by decide +kernel
    have hrest : (listedWorld.calls.set 1 []).flatten.length = 0 := by decide +kernel
    rw [hadvance, Option.map_some, World.tasks, hcalls, hrest] at hnext
    cases hnext

end World

end Bindery.Session
