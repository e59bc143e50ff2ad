import Bindery.Json.Decode
import Bindery.Proofs.Json.Text
import Bindery.Proofs.Results
import Mathlib.Data.List.Nodup

/-!
# The fields of a record

A record that has been decoded says of each of its fields what the document says of it: what its
decoder makes of the value, wherever the document has one, and its default elsewhere
(`RecordForm.PartOf.of_decode`). A document may be an object, in which a value stands behind its
key, or an array, in which it stands at the place of its field; `RecordForm.value?` finds it in
both.

Decoders take no document with a fault (`Decoder.Strict`), and what they keep as text is the text of
the value.
-/

namespace Bindery.Json

variable {ρ α β : Type}

/-! ## Values inside a document -/

@[elab_as_elim]
theorem Items.induct {motive : Items → Prop} (close : ∀ sep, motive (.close sep))
    (fault : motive .fault) (item : ∀ sep value rest, motive rest → motive (.item sep value rest)) :
    ∀ items, motive items
  | .close sep => close sep
  | .fault => fault
  | .item sep value rest => item sep value rest (Items.induct close fault item rest)

@[elab_as_elim]
theorem Members.induct {motive : Members → Prop} (close : ∀ sep, motive (.close sep))
    (fault : motive .fault)
    (member : ∀ sep key colon value rest, motive rest → motive (.member sep key colon value rest)) :
    ∀ members, motive members
  | .close sep => close sep
  | .fault => fault
  | .member sep key colon value rest =>
    member sep key colon value rest (Members.induct close fault member rest)

/-- The value at a position of an array. -/
def Items.value? : Nat → Items → Option Doc
  | 0, .item _ value _ => some value
  | n + 1, .item _ _ rest => rest.value? n
  | _, _ => none

@[simp] theorem Items.value?_close {n : Nat} {sep : List Char} :
    (Items.close sep).value? n = none := by
  cases n <;> rfl

/-- The value behind a key, the first one if there are several. -/
def Members.value? (name : String) : Members → Option Doc
  | .member _ key _ value rest =>
    if unescape key = some name.toList then some value else rest.value? name
  | _ => none

/-- The value that a document gives to a field of a record. -/
def RecordForm.value? (form : RecordForm ρ) (name : String) : Doc → Option Doc
  | .object members => members.value? name
  | .array items => items.value? (form.fields.findIdx (·.name == name))
  | _ => none

theorem Items.text_infix_of_value? {items : Items} {n : Nat} {value : Doc}
    (h : items.value? n = some value) : value.text <:+: items.text := by
  induction items using Items.induct generalizing n with
  | close sep => cases n <;> cases h
  | fault => cases n <;> cases h
  | item sep first rest ih =>
    cases n with
    | zero =>
      obtain rfl : first = value := Option.some.inj h
      exact List.infix_append sep first.text rest.text
    | succ n => exact (ih h).trans (List.suffix_append _ _).isInfix

theorem Members.text_infix_of_value? {members : Members} {name : String} {value : Doc}
    (h : members.value? name = some value) : value.text <:+: members.text := by
  induction members using Members.induct with
  | close sep => cases h
  | fault => cases h
  | member sep key colon first rest ih =>
    unfold value? at h
    split at h
    · obtain rfl : first = value := Option.some.inj h
      exact List.infix_append _ first.text rest.text
    · exact (ih h).trans (List.suffix_append _ _).isInfix

/-- A value stands in its document as it is written. -/
theorem RecordForm.text_infix_of_value? {form : RecordForm ρ} {name : String} {doc value : Doc}
    (h : form.value? name doc = some value) : value.text <:+: doc.text := by
  cases doc with
  | object members => exact (Members.text_infix_of_value? h).trans (List.suffix_cons _ _).isInfix
  | array items => exact (Items.text_infix_of_value? h).trans (List.suffix_cons _ _).isInfix
  | _ => cases h

/-! ## Decoders -/

/-- The decoder takes no document with a fault. -/
def Decoder.Strict (decode : Decoder α) : Prop :=
  ∀ scope doc x, decode scope doc = .ok x → doc.isSound = true

theorem wrongType_ne_ok {doc : Doc} {expected : String} {x : α} :
    (wrongType doc expected : Except Fault α) ≠ .ok x := by
  intro h
  obtain ⟨found, -, h⟩ := Except.bind_eq_ok_iff.mp h
  cases h

theorem skip_eq_ok_iff {doc : Doc} : doc.skip = .ok () ↔ doc.isSound = true := by
  unfold Doc.skip
  split
  · simp_all
  · simp_all

theorem map_eq_ok_iff {f : α → β} {x : Except Fault α} {b : β} :
    f <$> x = .ok b ↔ ∃ a, x = .ok a ∧ f a = b := by
  cases x with
  | error e =>
    constructor
    · intro h
      cases h
    · rintro ⟨a, ha, -⟩
      cases ha
  | ok a =>
    constructor
    · intro h
      exact ⟨a, rfl, Except.ok.inj h⟩
    · rintro ⟨a', ha, rfl⟩
      obtain rfl := Except.ok.inj ha
      rfl

theorem Decoder.Strict.map {decode : Decoder α} (h : Decoder.Strict decode) (f : α → β) :
    Decoder.Strict fun scope doc => f <$> decode scope doc := by
  intro scope doc b heq
  obtain ⟨a, ha, -⟩ := map_eq_ok_iff.mp heq
  exact h scope doc a ha

theorem decodeString_strict : Decoder.Strict decodeString := by
  intro scope doc x h
  unfold decodeString at h
  split at h
  · rfl
  · exact absurd h wrongType_ne_ok

theorem decodeInteger_strict (low high : Int) (expected : String) :
    Decoder.Strict (decodeInteger low high expected) := by
  intro scope doc x h
  unfold decodeInteger at h
  split at h
  · rfl
  · exact absurd h wrongType_ne_ok

/-- What is kept as text is the text of the value. -/
theorem decodeRaw_eq_ok_iff {scope : Scope} {doc : Doc} {raw : RawText} :
    decodeRaw scope doc = .ok raw ↔ doc.isSound = true ∧ raw = ⟨String.ofList doc.text⟩ := by
  unfold decodeRaw
  rw [Except.bind_eq_ok_iff]
  constructor
  · rintro ⟨⟨⟩, hskip, h⟩
    exact ⟨skip_eq_ok_iff.mp hskip, (Except.ok.inj h).symm⟩
  · rintro ⟨hsound, rfl⟩
    exact ⟨(), skip_eq_ok_iff.mpr hsound, rfl⟩

theorem decodeRaw_strict : Decoder.Strict decodeRaw :=
  fun _ _ _ h => (decodeRaw_eq_ok_iff.mp h).1

/-- A value is absent where null is written, and otherwise what the decoder makes of it. -/
theorem decodeOption_eq_ok_iff {decode : Decoder α} {scope : Scope} {doc : Doc} {x : Option α} :
    decodeOption decode scope doc = .ok x ↔
      doc = .null ∧ x = none ∨ doc ≠ .null ∧ ∃ a, decode scope doc = .ok a ∧ x = some a := by
  unfold decodeOption
  split
  · simp [eq_comm]
  · rename_i hnull
    rw [map_eq_ok_iff]
    constructor
    · rintro ⟨a, ha, rfl⟩
      exact .inr ⟨hnull, a, ha, rfl⟩
    · rintro (⟨heq, -⟩ | ⟨-, a, ha, rfl⟩)
      · exact absurd heq hnull
      · exact ⟨a, ha, rfl⟩

theorem Decoder.Strict.option {decode : Decoder α} (h : Decoder.Strict decode) :
    Decoder.Strict (decodeOption decode) := by
  intro scope doc x heq
  rcases decodeOption_eq_ok_iff.mp heq with ⟨rfl, -⟩ | ⟨-, a, ha, -⟩
  · rfl
  · exact h scope doc a ha

/-! ## Records -/

/-- The field takes no document with a fault. -/
def Field.Strict (field : Field ρ) : Prop :=
  ∀ scope doc r r', field.read scope doc r = .ok r' → doc.isSound = true

theorem Field.of_strict {name : String} {presence : Presence} {decode : Decoder α}
    {set : ρ → α → ρ} (h : Decoder.Strict decode) :
    (Field.of name presence decode set).Strict :=
  fun scope doc r => (h.map (set r)) scope doc

/-- The field leaves a part of the record as it is. -/
def Field.Keeps (field : Field ρ) (part : ρ → α) : Prop :=
  ∀ scope doc r r', field.read scope doc r = .ok r' → part r' = part r

theorem Field.of_keeps {name : String} {presence : Presence} {decode : Decoder α}
    {set : ρ → α → ρ} {part : ρ → β} (h : ∀ r x, part (set r x) = part r) :
    (Field.of name presence decode set).Keeps part := by
  intro scope doc r r' heq
  obtain ⟨x, -, rfl⟩ := map_eq_ok_iff.mp heq
  exact h r x

namespace RecordForm

variable {form : RecordForm ρ} {scope : Scope} {record r : ρ}

theorem stringText_eq_ok_iff {key : List Char} {name : String} :
    stringText? key = .ok name ↔ unescape key = some name.toList := by
  unfold stringText?
  split
  · rename_i cs hcs
    rw [hcs, Except.ok.injEq, Option.some.injEq]
    constructor
    · rintro rfl
      exact String.toList_ofList.symm
    · rintro rfl
      exact String.ofList_toList
  · rename_i hnone
    simp [hnone]

/-- One member: its key is a field's that has not been seen, or it is skipped. -/
theorem readMembers_member {seen : List String} {sep key colon : List Char} {value : Doc}
    {rest : Members}
    (h : form.readMembers scope seen record (.member sep key colon value rest) = .ok r) :
    ∃ name, unescape key = some name.toList ∧
      ((∃ field record', form.fields.find? (·.name == name) = some field ∧ name ∉ seen ∧
          field.read scope value record = .ok record' ∧
          form.readMembers scope (name :: seen) record' rest = .ok r) ∨
        form.fields.find? (·.name == name) = none ∧ value.isSound = true ∧
          form.readMembers scope seen record rest = .ok r) := by
  unfold readMembers at h
  obtain ⟨name, hname, h⟩ := Except.bind_eq_ok_iff.mp h
  refine ⟨name, stringText_eq_ok_iff.mp hname, ?_⟩
  split at h
  · rename_i field hfield
    obtain ⟨hseen, h⟩ := Except.guard_eq_ok_iff.mp h
    obtain ⟨record', hread, h⟩ := Except.bind_eq_ok_iff.mp h
    exact .inl ⟨field, record', hfield, by simpa using hseen, hread, h⟩
  · rename_i hnone
    obtain ⟨⟨⟩, hskip, h⟩ := Except.bind_eq_ok_iff.mp h
    exact .inr ⟨hnone, skip_eq_ok_iff.mp hskip, h⟩

theorem isSound_of_readMembers (hstrict : ∀ field ∈ form.fields, field.Strict) {members : Members}
    {seen : List String} (h : form.readMembers scope seen record members = .ok r) :
    members.isSound = true := by
  induction members using Members.induct generalizing seen record with
  | close sep => rfl
  | fault => cases h
  | member sep key colon value rest ih =>
    obtain ⟨name, -, ⟨field, record', hfield, -, hread, hrest⟩ | ⟨-, hvalue, hrest⟩⟩ :=
      readMembers_member h
    · have hvalue := hstrict field (List.mem_of_find?_eq_some hfield) _ _ _ _ hread
      exact Bool.and_eq_true_iff.mpr ⟨hvalue, ih hrest⟩
    · exact Bool.and_eq_true_iff.mpr ⟨hvalue, ih hrest⟩

theorem isSound_of_checkEnd {items : Items} (h : form.checkEnd scope items = .ok ()) :
    items.isSound = true := by
  unfold checkEnd at h
  split at h
  · rfl
  · cases h
  · cases h

theorem isSound_of_readItems {fields : List (Field ρ)} (hstrict : ∀ field ∈ fields, field.Strict)
    {items : Items} {index : Nat} (h : form.readItems scope index record fields items = .ok r) :
    items.isSound = true := by
  induction fields generalizing items index record with
  | nil =>
    unfold readItems at h
    obtain ⟨⟨⟩, hend, -⟩ := Except.bind_eq_ok_iff.mp h
    exact isSound_of_checkEnd hend
  | cons field fields ih =>
    cases items with
    | close sep => rfl
    | fault => cases h
    | item sep value rest =>
      obtain ⟨record', hread, hrest⟩ := Except.bind_eq_ok_iff.mp h
      have hvalue := hstrict field List.mem_cons_self _ _ _ _ hread
      exact Bool.and_eq_true_iff.mpr
        ⟨hvalue, ih (fun f hf => hstrict f (List.mem_cons_of_mem _ hf)) hrest⟩

/-- A record whose fields take no faulty document takes none itself. -/
theorem decode_strict (hstrict : ∀ field ∈ form.fields, field.Strict) :
    Decoder.Strict form.decode := by
  intro scope doc r h
  unfold decode at h
  split at h
  · obtain ⟨inner, -, h⟩ := Except.bind_eq_ok_iff.mp h
    exact isSound_of_readMembers hstrict h
  · obtain ⟨inner, -, h⟩ := Except.bind_eq_ok_iff.mp h
    exact isSound_of_readItems hstrict h
  · exact absurd h wrongType_ne_ok

/-- A part of the record that is the work of one field: this one puts there what its decoder makes
of the value, and the others leave it as it is. -/
structure PartOf (form : RecordForm ρ) (name : String) (decode : Decoder α) (part : ρ → α) :
    Prop where
  nodup : (form.fields.map (·.name)).Nodup
  set : ∀ field ∈ form.fields, field.name = name → ∀ scope doc r r',
    field.read scope doc r = .ok r' → decode scope doc = .ok (part r')
  kept : ∀ field ∈ form.fields, field.name ≠ name → field.Keeps part
  mem : ∃ field ∈ form.fields, field.name = name

variable {name : String} {decode : Decoder α} {part : ρ → α}

/-- A field that puts a part there, among fields of other names that leave it as it is. -/
theorem PartOf.of_mem (hnodup : (form.fields.map (·.name)).Nodup) {presence : Presence}
    {put : ρ → α → ρ} (hmem : Field.of name presence decode put ∈ form.fields)
    (hput : ∀ r x, part (put r x) = x)
    (hkept : ∀ field ∈ form.fields, field.name ≠ name → field.Keeps part) :
    form.PartOf name decode part where
  nodup := hnodup
  set := by
    intro field hfield hname scope doc r r' hread
    obtain rfl := List.inj_on_of_nodup_map hnodup hfield hmem hname
    obtain ⟨x, hx, rfl⟩ := map_eq_ok_iff.mp hread
    rw [hput]
    exact hx
  kept := hkept
  mem := ⟨_, hmem, rfl⟩

theorem PartOf.kept_of_seen (hpart : form.PartOf name decode part) {members : Members}
    {seen : List String} (hseen : name ∈ seen)
    (h : form.readMembers scope seen record members = .ok r) : part r = part record := by
  induction members using Members.induct generalizing seen record with
  | close sep =>
    obtain ⟨-, -, heq⟩ := Except.bind_eq_ok_iff.mp h
    rw [Except.ok.inj heq]
  | fault => cases h
  | member sep key colon value rest ih =>
    obtain ⟨name', -, ⟨field, record', hfield, hnew, hread, hrest⟩ | ⟨-, -, hrest⟩⟩ :=
      readMembers_member h
    · have hname : field.name = name' := by simpa using List.find?_some hfield
      have hother : field.name ≠ name := by
        rintro rfl
        exact hnew (hname ▸ hseen)
      rw [ih (List.mem_cons_of_mem _ hseen) hrest]
      exact hpart.kept field (List.mem_of_find?_eq_some hfield) hother _ _ _ _ hread
    · exact ih hseen hrest

theorem PartOf.of_readMembers (hpart : form.PartOf name decode part) {members : Members}
    {seen : List String} (hnew : name ∉ seen)
    (h : form.readMembers scope seen record members = .ok r) :
    (members.value? name = none ∧ part r = part record) ∨
      ∃ value, members.value? name = some value ∧ decode scope value = .ok (part r) := by
  induction members using Members.induct generalizing seen record with
  | close sep =>
    obtain ⟨-, -, heq⟩ := Except.bind_eq_ok_iff.mp h
    exact .inl ⟨rfl, by rw [Except.ok.inj heq]⟩
  | fault => cases h
  | member sep key colon value rest ih =>
    obtain ⟨name', hkey, ⟨field, record', hfield, -, hread, hrest⟩ | ⟨hunknown, -, hrest⟩⟩ :=
      readMembers_member h
    · have hname : field.name = name' := by simpa using List.find?_some hfield
      have hmem := List.mem_of_find?_eq_some hfield
      unfold Members.value?
      -- the first member of this name decides: a second one is an error
      by_cases hthis : name' = name
      · subst hthis
        rw [if_pos hkey, hpart.kept_of_seen List.mem_cons_self hrest]
        exact .inr ⟨value, rfl, hpart.set field hmem hname _ _ _ _ hread⟩
      · have hskip : unescape key ≠ some name.toList := by
          rw [hkey, ne_eq, Option.some.injEq, String.toList_inj]
          exact hthis
        have hkept := hpart.kept field hmem (hname ▸ hthis) _ _ _ _ hread
        rw [if_neg hskip, ← hkept]
        exact ih (List.not_mem_cons_of_ne_of_not_mem (Ne.symm hthis) hnew) hrest
    · -- the name of a field is known, so this is none of them
      have hskip : unescape key ≠ some name.toList := by
        rw [hkey, ne_eq, Option.some.injEq, String.toList_inj]
        rintro rfl
        obtain ⟨field, hmem, hname⟩ := hpart.mem
        have hnone := List.find?_eq_none.mp hunknown field hmem
        simp [hname] at hnone
      unfold Members.value?
      rw [if_neg hskip]
      exact ih hnew hrest

/-- Fields that leave the part as it is, one after the other. -/
theorem kept_of_readItems {fields : List (Field ρ)} (hkept : ∀ field ∈ fields, field.Keeps part)
    {items : Items} {index : Nat} (h : form.readItems scope index record fields items = .ok r) :
    part r = part record := by
  induction fields generalizing items index record with
  | nil =>
    unfold RecordForm.readItems at h
    obtain ⟨-, -, heq⟩ := Except.bind_eq_ok_iff.mp h
    rw [Except.ok.inj heq]
  | cons field fields ih =>
    cases items with
    | close sep =>
      obtain ⟨-, -, heq⟩ := Except.bind_eq_ok_iff.mp h
      rw [Except.ok.inj heq]
    | fault => cases h
    | item sep value rest =>
      obtain ⟨record', hread, hrest⟩ := Except.bind_eq_ok_iff.mp h
      rw [ih (fun f hf => hkept f (List.mem_cons_of_mem _ hf)) hrest]
      exact hkept field List.mem_cons_self _ _ _ _ hread

theorem PartOf.of_readItems (hpart : form.PartOf name decode part) {fields : List (Field ρ)}
    (hsub : ∀ field ∈ fields, field ∈ form.fields) (hnodup : (fields.map (·.name)).Nodup)
    (hmem : ∃ field ∈ fields, field.name = name) {items : Items} {index : Nat}
    (h : form.readItems scope index record fields items = .ok r) :
    (items.value? (fields.findIdx (·.name == name)) = none ∧ part r = part record) ∨
      ∃ value, items.value? (fields.findIdx (·.name == name)) = some value ∧
        decode scope value = .ok (part r) := by
  induction fields generalizing items index record with
  | nil =>
    obtain ⟨field, hfield, -⟩ := hmem
    exact absurd hfield List.not_mem_nil
  | cons field fields ih =>
    cases items with
    | close sep =>
      obtain ⟨-, -, heq⟩ := Except.bind_eq_ok_iff.mp h
      exact .inl ⟨Items.value?_close, by rw [Except.ok.inj heq]⟩
    | fault => cases h
    | item sep value rest =>
      obtain ⟨record', hread, hrest⟩ := Except.bind_eq_ok_iff.mp h
      have hhere : field ∈ form.fields := hsub field List.mem_cons_self
      obtain ⟨hfresh, hnodup⟩ := List.nodup_cons.mp hnodup
      rw [List.findIdx_cons]
      by_cases hthis : field.name = name
      · -- no later field has this name
        have hkept (f : Field ρ) (hf : f ∈ fields) : f.Keeps part := by
          refine hpart.kept f (hsub f (List.mem_cons_of_mem _ hf)) fun hname => hfresh ?_
          exact List.mem_map.mpr ⟨f, hf, hname.trans hthis.symm⟩
        rw [hthis, beq_self_eq_true, cond_true, kept_of_readItems hkept hrest]
        exact .inr ⟨value, rfl, hpart.set field hhere hthis _ _ _ _ hread⟩
      · obtain ⟨other, hother, hname⟩ := hmem
        have hlater : ∃ field ∈ fields, field.name = name := by
          rcases List.mem_cons.mp hother with rfl | hother
          · exact absurd hname hthis
          · exact ⟨other, hother, hname⟩
        rw [beq_eq_false_iff_ne.mpr hthis, cond_false,
          ← hpart.kept field hhere hthis _ _ _ _ hread]
        exact ih (fun f hf => hsub f (List.mem_cons_of_mem _ hf)) hnodup hlater hrest

/-- **What a record says of a field.** Where the document has a value for it, what the decoder makes
of this value, and its default otherwise. -/
theorem PartOf.of_decode (hpart : form.PartOf name decode part) {doc : Doc}
    (h : form.decode scope doc = .ok r) :
    (form.value? name doc = none ∧ part r = part form.initial) ∨
      ∃ value inner, form.value? name doc = some value ∧ decode inner value = .ok (part r) := by
  unfold RecordForm.decode at h
  split at h
  · obtain ⟨inner, -, h⟩ := Except.bind_eq_ok_iff.mp h
    rcases hpart.of_readMembers List.not_mem_nil h with hnone | ⟨value, hvalue, hdecode⟩
    · exact .inl hnone
    · exact .inr ⟨value, inner, hvalue, hdecode⟩
  · obtain ⟨inner, -, h⟩ := Except.bind_eq_ok_iff.mp h
    rcases hpart.of_readItems (fun _ => id) hpart.nodup hpart.mem h with
      hnone | ⟨value, hvalue, hdecode⟩
    · exact .inl hnone
    · exact .inr ⟨value, inner, hvalue, hdecode⟩
  · exact absurd h wrongType_ne_ok

end RecordForm

/-! ## Whole texts -/

/-- A text is decoded if its document is and nothing but white space follows. -/
theorem decodeText_eq_ok_iff {decode : Decoder α} {s : String} {x : α} :
    decodeText decode s = .ok x ↔ decode .whole (parse s).doc = .ok x ∧ (parse s).ended = true := by
  unfold decodeText
  rw [Except.bind_eq_ok_iff]
  constructor
  · rintro ⟨x', hdecode, h⟩
    split at h
    · rename_i hended
      obtain rfl := Except.ok.inj h
      exact ⟨hdecode, hended⟩
    · cases h
  · rintro ⟨hdecode, hended⟩
    refine ⟨x, hdecode, ?_⟩
    rw [if_pos hended]
    rfl

/-- What stands in the document of a text that has been decoded stands in the text. -/
theorem infix_of_decodeText {decode : Decoder α} (hstrict : Decoder.Strict decode) {s : String}
    {x : α} (h : decodeText decode s = .ok x) {cs : List Char} (hcs : cs <:+: (parse s).doc.text) :
    cs <:+: s.toList := by
  obtain ⟨hdecode, hended⟩ := decodeText_eq_ok_iff.mp h
  obtain ⟨before, after, -, -, htext⟩ := text_of_parse (hstrict _ _ _ hdecode) hended
  rw [htext]
  exact hcs.trans (List.infix_append before _ after)

end Bindery.Json
