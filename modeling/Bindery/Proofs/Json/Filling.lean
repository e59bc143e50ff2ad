import Bindery.Proofs.Json.Content

/-!
# Records filled field by field

A record that is written as the object of its fields, in declaration order, is read field by field:
`RecordForm.Filled` says what each field makes of what stands for it, an absent one leaving its
default, and `RecordForm.decode_filled` that the decoder of the record does just this. A reader has
to have room for as many lists and objects as the content nests (`RecordForm.decode_record`,
`decodeList_content`).
-/

namespace Bindery.Json

variable {ρ α : Type}

/-- A text is decoded as its document is. -/
theorem IsTextOf.decodeText {decode : Decoder α} {s : String} {doc : Doc} {x : α}
    (h : IsTextOf s doc) (hread : decode .whole doc = .ok x) : decodeText decode s = .ok x := by
  obtain ⟨hdoc, hended, -⟩ := isTextOf_iff.mp h
  refine decodeText_eq_ok_iff.mpr ⟨?_, hended⟩
  rw [hdoc]
  exact hread

/-- A field that is read into the record as its decoder reads it. -/
theorem Field.read_of {name : String} {presence : Presence} {decode : Decoder α} {set : ρ → α → ρ}
    {scope : Scope} {doc : Doc} {r : ρ} {x : α} (h : decode scope doc = .ok x) :
    (Field.of name presence decode set).read scope doc r = .ok (set r x) := by
  show set r <$> decode scope doc = .ok (set r x)
  rw [h]
  rfl

namespace RecordForm

/-- The fields take a record to another one, each reading what stands under its name. A field for
which nothing stands leaves the record as it is, unless it is required. -/
inductive Filled (inner : Scope) : List (Field ρ) → List (String × Option Doc) → ρ → ρ → Prop where
  | nil (r : ρ) : Filled inner [] [] r r
  | here {field : Field ρ} {fields : List (Field ρ)} {doc : Doc}
      {entries : List (String × Option Doc)} {r r' s : ρ}
      (hread : field.read inner doc r = .ok r') (hrest : Filled inner fields entries r' s) :
      Filled inner (field :: fields) ((field.name, some doc) :: entries) r s
  | absent {field : Field ρ} {fields : List (Field ρ)} {entries : List (String × Option Doc)}
      {r s : ρ} (hpresence : field.presence ≠ .required)
      (hrest : Filled inner fields entries r s) :
      Filled inner (field :: fields) ((field.name, none) :: entries) r s

variable {inner : Scope} {fields : List (Field ρ)} {entries : List (String × Option Doc)}

theorem Filled.done {r s : ρ} (h : r = s) : Filled inner [] [] r s := h ▸ .nil r

/-- A field that is always written. -/
theorem Filled.required {name : String} {presence : Presence} {decode : Decoder α}
    {set : ρ → α → ρ} {doc : Doc} {r s : ρ} {x : α} (hread : decode inner doc = .ok x)
    (hrest : Filled inner fields entries (set r x) s) :
    Filled inner (.of name presence decode set :: fields) ((name, some doc) :: entries) r s :=
  .here (Field.read_of hread) hrest

/-- A field that is written where it has a value. -/
theorem Filled.optional {name : String} {presence : Presence} {decode : Decoder (Option α)}
    {set : ρ → Option α → ρ} {write : α → Doc} {x : Option α} {r s : ρ}
    (hpresence : presence ≠ .required) (hnone : set r none = r)
    (hread : ∀ a, x = some a → decode inner (write a) = .ok (some a))
    (hrest : Filled inner fields entries (set r x) s) :
    Filled inner (.of name presence decode set :: fields) ((name, x.map write) :: entries) r s := by
  cases x with
  | none =>
    rw [hnone] at hrest
    exact .absent hpresence hrest
  | some a => exact .here (Field.read_of (hread a rfl)) hrest

theorem Filled.names {r s : ρ} (h : Filled inner fields entries r s) :
    entries.map (·.1) = fields.map (·.name) := by
  induction h with
  | nil => rfl
  | here _ _ ih => rw [List.map_cons, List.map_cons, ih]
  | absent _ _ ih => rw [List.map_cons, List.map_cons, ih]

theorem checkRequired_eq_ok {seen : List String} (h : ∀ field ∈ fields,
    field.presence = .required → field.name ∈ seen) : checkRequired seen fields = .ok () := by
  induction fields with
  | nil => rfl
  | cons field rest ih =>
    have hnone : ¬ (field.presence = .required && !seen.contains field.name) = true := by
      intro hmissing
      simp only [Bool.and_eq_true, decide_eq_true_eq, Bool.not_eq_true', List.contains_eq_mem,
        decide_eq_false_iff_not] at hmissing
      exact hmissing.2 (h field List.mem_cons_self hmissing.1)
    rw [checkRequired, if_neg hnone]
    exact ih fun f hf => h f (List.mem_cons_of_mem _ hf)

/-- One member under the name of a field that has not been seen yet. -/
theorem readMembers_field {form : RecordForm ρ} {field : Field ρ} {sep colon : List Char}
    {value : Doc} {rest : Members} {seen : List String} {r r' : ρ}
    (hfind : form.fields.find? (·.name == field.name) = some field) (hnew : field.name ∉ seen)
    (hread : field.read inner value r = .ok r') :
    form.readMembers inner seen r (.member sep (escape field.name.toList) colon value rest) =
      form.readMembers inner (field.name :: seen) r' rest := by
  have hkey : stringText? (escape field.name.toList) = .ok field.name :=
    stringText?_of_unescape (unescape_escape _)
  have hunseen : ¬ seen.contains field.name = true := by
    simpa using hnew
  rw [readMembers, hkey]
  simp only [Except.ok_bind, hfind, if_neg hunseen, hread]

/-- Among fields with different names, a field is new behind those in front of it. -/
theorem name_not_mem_before {before : List (Field ρ)} {field : Field ρ}
    (hnodup : ((before ++ field :: fields).map (·.name)).Nodup) :
    field.name ∉ before.map (·.name) := by
  intro hmem
  rw [List.map_append, List.map_cons, List.nodup_append] at hnodup
  exact hnodup.2.2 _ hmem _ List.mem_cons_self rfl

/-- Among fields with different names, a field is found by its own. -/
theorem find?_name {before : List (Field ρ)} {field : Field ρ}
    (hnodup : ((before ++ field :: fields).map (·.name)).Nodup) :
    (before ++ field :: fields).find? (·.name == field.name) = some field := by
  have hbefore : before.find? (·.name == field.name) = none := by
    refine List.find?_eq_none.mpr fun f hf heq => name_not_mem_before hnodup ?_
    exact List.mem_map.mpr ⟨f, hf, by simpa using heq⟩
  rw [List.find?_append, hbefore]
  simp

/-- **A record is read as its fields are filled.** Those in front have been read already. -/
theorem readMembers_filled {form : RecordForm ρ} (hnodup : (form.fields.map (·.name)).Nodup)
    {before : List (Field ρ)} (hfields : form.fields = before ++ fields) {seen : List String}
    (hseen : ∀ name ∈ seen, name ∈ before.map (·.name))
    (hrequired : ∀ field ∈ before, field.presence = .required → field.name ∈ seen) {r s : ρ}
    (h : Filled inner fields entries r s) (first : Bool) :
    form.readMembers inner seen r (.ofList first (present entries)) = .ok s := by
  -- a field that has been read, or passed over, goes to those in front
  induction h generalizing before seen first with
  | nil r =>
    have hcheck : checkRequired seen form.fields = .ok () := by
      refine checkRequired_eq_ok fun field hfield => hrequired field ?_
      rwa [hfields, List.append_nil] at hfield
    show (checkRequired seen form.fields >>= fun _ => pure r) = .ok r
    rw [hcheck]
    rfl
  | @here field fields doc entries r r' s hread _ ih =>
    have hdistinct : ((before ++ field :: fields).map (·.name)).Nodup := hfields ▸ hnodup
    have hfind : form.fields.find? (·.name == field.name) = some field :=
      hfields ▸ find?_name hdistinct
    have hunseen : field.name ∉ seen := fun hmem => name_not_mem_before hdistinct (hseen _ hmem)
    have hfields' : form.fields = (before ++ [field]) ++ fields := by simp [hfields]
    show form.readMembers inner seen r (.member _ (escape field.name.toList) _ doc _) = .ok s
    rw [readMembers_field hfind hunseen hread]
    refine ih hfields' ?_ ?_ false
    · intro name hname
      rw [List.map_append]
      rcases List.mem_cons.mp hname with rfl | hname
      · exact List.mem_append_right _ List.mem_cons_self
      · exact List.mem_append_left _ (hseen name hname)
    · intro f hf hpresence
      rcases List.mem_append.mp hf with hf | hf
      · exact List.mem_cons_of_mem _ (hrequired f hf hpresence)
      · rw [List.mem_singleton.mp hf]
        exact List.mem_cons_self
  | @absent field fields entries r s hpresence _ ih =>
    have hfields' : form.fields = (before ++ [field]) ++ fields := by simp [hfields]
    refine ih hfields' ?_ ?_ first
    · intro name hname
      rw [List.map_append]
      exact List.mem_append_left _ (hseen name hname)
    · intro f hf hrequires
      rcases List.mem_append.mp hf with hf | hf
      · exact hrequired f hf hrequires
      · rw [List.mem_singleton.mp hf] at hrequires
        exact absurd hrequires hpresence

theorem decode_filled {form : RecordForm ρ} (hnodup : (form.fields.map (·.name)).Nodup)
    {scope : Scope} (hscope : scope.enter = .ok inner) {s : ρ}
    (h : Filled inner form.fields entries form.initial s) :
    form.decode scope (.object (.ofList true (present entries))) = .ok s := by
  have hread : form.readMembers inner [] form.initial (.ofList true (present entries)) = .ok s :=
    readMembers_filled hnodup (List.nil_append _).symm
      (fun _ hname => absurd hname List.not_mem_nil)
      (fun _ hfield => absurd hfield List.not_mem_nil) h true
  show (scope.enter >>= fun inner => form.readMembers inner [] form.initial _) = .ok s
  rw [hscope]
  exact hread

end RecordForm

/-! ## Room -/

/-- Entering a list or an object leaves room for what stands in it. -/
theorem enter_of_le {depth room : Nat} (hpos : 0 < depth) (h : depth ≤ room) :
    ∃ inner, (Scope.streamed room).enter = .ok (.streamed inner) ∧ ∀ k < depth, k ≤ inner := by
  cases room with
  | zero => omega
  | succ inner => exact ⟨inner, rfl, fun k hk => by omega⟩

/-- A record is read with room for its members. -/
theorem RecordForm.decode_record {form : RecordForm ρ}
    {members : List (String × Option Content)} {v : ρ} {room : Nat}
    (hnodup : (form.fields.map (·.name)).Nodup) (hdepth : (Content.record members).depth ≤ room)
    (h : ∀ inner, (∀ key value, (key, some value) ∈ members → value.depth ≤ inner) →
      Filled (.streamed inner) form.fields (Content.entries members) form.initial v) :
    form.decode (.streamed room) (Content.record members).doc = .ok v := by
  obtain ⟨inner, henter, hinner⟩ := enter_of_le (Nat.succ_pos _) hdepth
  rw [Content.doc_record]
  refine decode_filled hnodup henter (h inner fun key value hmem => ?_)
  exact hinner _ (Content.of_mem_object (mem_present hmem)).1

/-- The text of a record, read as a whole. -/
theorem RecordForm.decodeText_filled {form : RecordForm ρ}
    (hnodup : (form.fields.map (·.name)).Nodup) {entries : List (String × Option Doc)} {s : ρ}
    (h : Filled (.streamed 126) form.fields entries form.initial s)
    (hwellFormed : ∀ doc ∈ (present entries).map (·.2), doc.WellFormed) {text : String}
    (htext : text.toList =
      objectChars ((present entries).map fun entry => (entry.1, entry.2.text))) :
    decodeText form.decode text = .ok s := by
  have hdoc : (Doc.object (.ofList true (present entries))).WellFormed :=
    Members.wellFormed_ofList (fun _ hentry => hwellFormed _ (List.mem_map_of_mem hentry)) true
  exact (hdoc.isTextOf (htext.trans (Members.text_object _).symm)).decodeText
    (decode_filled hnodup rfl h)

/-- A list is read with room for its items. -/
theorem decodeList_content {decode : Decoder α} {content : α → Content} {xs : List α} {room : Nat}
    (hdepth : (Content.array (xs.map content)).depth ≤ room)
    (h : ∀ inner, ∀ x ∈ xs, (content x).depth ≤ inner →
      decode (.streamed inner) (content x).doc = .ok x) :
    decodeList decode (.streamed room) (Content.array (xs.map content)).doc = .ok xs := by
  obtain ⟨inner, henter, hinner⟩ := enter_of_le (Nat.succ_pos _) hdepth
  have hitems : decodeItems (decode (.streamed inner))
      (.ofList true (Content.docs (xs.map content))) = .ok xs := by
    refine decodeItems_ofList ?_ true
    rw [Content.docs_eq_map, List.map_map, List.forall₂_map_left_iff, List.forall₂_same]
    intro x hx
    exact h inner x hx (hinner _ (Content.of_mem_array (List.mem_map_of_mem hx)).1)
  show ((Scope.streamed room).enter >>= fun inner => decodeItems (decode inner) _) = .ok xs
  rw [henter]
  exact hitems

/-! ## Records written as arrays -/

/-- Whether the field takes a value does not depend on the record that it is read into. -/
def Field.Steady (field : Field ρ) : Prop :=
  ∀ scope doc r r' s, field.read scope doc r = .ok s → ∃ s', field.read scope doc r' = .ok s'

/-- A field takes what its decoder takes. -/
theorem Field.of_takes_iff {name : String} {presence : Presence} {decode : Decoder α}
    {set : ρ → α → ρ} {scope : Scope} {doc : Doc} {r : ρ} :
    (∃ s, (Field.of name presence decode set).read scope doc r = .ok s) ↔
      ∃ x, decode scope doc = .ok x := by
  constructor
  · rintro ⟨s, hread⟩
    obtain ⟨x, hx, -⟩ := map_eq_ok_iff.mp hread
    exact ⟨x, hx⟩
  · rintro ⟨x, hx⟩
    exact ⟨_, Field.read_of hx⟩

theorem Field.of_steady {name : String} {presence : Presence} {decode : Decoder α}
    {set : ρ → α → ρ} : (Field.of name presence decode set).Steady := by
  intro scope doc r r' s hread
  exact Field.of_takes_iff.mpr (Field.of_takes_iff.mp ⟨s, hread⟩)

theorem RecordForm.checkLength_eq_ok {form : RecordForm ρ} {fields : List (Field ρ)}
    (h : ∀ field ∈ fields, field.presence = .defaulted) (index : Nat) :
    form.checkLength index fields = .ok () := by
  induction fields generalizing index with
  | nil => rfl
  | cons field rest ih =>
    rw [checkLength, if_pos (h field List.mem_cons_self)]
    exact ih (fun f hf => h f (List.mem_cons_of_mem _ hf)) _

/-- **An array is read into fields that have defaults** if it has no more values than there are
fields, each of which takes its value. -/
theorem RecordForm.exists_readItems_iff {form : RecordForm ρ} {scope : Scope}
    {fields : List (Field ρ)} (hdefaulted : ∀ field ∈ fields, field.presence = .defaulted)
    (hsteady : ∀ field ∈ fields, field.Steady) {items : Items} (hsound : items.isSound = true)
    (index : Nat) (r r₀ : ρ) :
    (∃ s, form.readItems scope index r fields items = .ok s) ↔
      countItems items ≤ fields.length ∧ ∀ i field value, fields[i]? = some field →
        items.value? i = some value → ∃ s, field.read scope value r₀ = .ok s := by
  induction fields generalizing items index r with
  | nil =>
    cases items with
    | close sep => exact ⟨fun _ => ⟨Nat.le_refl 0, by simp⟩, fun _ => ⟨r, rfl⟩⟩
    | fault => cases hsound
    | item sep value rest =>
      constructor
      · rintro ⟨s, hread⟩
        obtain ⟨⟨⟩, hend, -⟩ := Except.bind_eq_ok_iff.mp hread
        cases scope <;> cases hend
      · rintro ⟨hcount, -⟩
        exact absurd hcount (Nat.not_succ_le_zero _)
  | cons field fields ih =>
    cases items with
    | fault => cases hsound
    | close sep =>
      refine ⟨fun _ => ⟨Nat.zero_le _, by simp⟩, fun _ => ⟨r, ?_⟩⟩
      show (form.checkLength index (field :: fields) >>= fun _ => pure r) = .ok r
      rw [checkLength_eq_ok hdefaulted]
      rfl
    | item sep value rest =>
      obtain ⟨-, hrest⟩ := Bool.and_eq_true_iff.mp hsound
      have ih := ih (fun f hf => hdefaulted f (List.mem_cons_of_mem _ hf))
        (fun f hf => hsteady f (List.mem_cons_of_mem _ hf)) hrest
      constructor
      · rintro ⟨s, hread⟩
        obtain ⟨r', hvalue, hread⟩ := Except.bind_eq_ok_iff.mp hread
        obtain ⟨hcount, htakes⟩ := (ih (index + 1) r').mp ⟨s, hread⟩
        refine ⟨Nat.succ_le_succ hcount, fun i f v hf hv => ?_⟩
        cases i with
        | zero =>
          obtain rfl : field = f := Option.some.inj hf
          obtain rfl : value = v := Option.some.inj hv
          exact hsteady field List.mem_cons_self _ _ _ _ _ hvalue
        | succ i => exact htakes i f v hf hv
      · rintro ⟨hcount, htakes⟩
        obtain ⟨s₀, hs₀⟩ := htakes 0 field value rfl rfl
        obtain ⟨r', hvalue⟩ := hsteady field List.mem_cons_self _ _ _ r _ hs₀
        obtain ⟨s, hread⟩ := (ih (index + 1) r').mpr
          ⟨Nat.le_of_succ_le_succ hcount, fun i f v hf hv => htakes (i + 1) f v hf hv⟩
        refine ⟨s, ?_⟩
        show (field.read scope value r >>=
          fun r' => form.readItems scope (index + 1) r' fields rest) = .ok s
        rw [hvalue]
        exact hread

end Bindery.Json
